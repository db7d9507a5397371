import TaggerFeatures.FeatureSet

/-! Listings of a feature set: its templates, and the keys of the first sentence of a corpus. -/
namespace TaggerFeatures.FeatureSet
open Text

/-- One line of the list of templates, as columns of fixed width. -/
def line (index name left right flags : String) : String :=
  padLeft 3 index ++ "  " ++ padRight 40 name ++ " " ++ padLeft 4 left ++ " " ++
    padLeft 5 right ++ "  " ++ flags

/-- What a template depends on, if only on the word or on tags too. -/
def flags (t : Template) : String :=
  let set := (if t.isLocal then ["local"] else []) ++ (if t.isDynamic then ["dynamic"] else [])
  if set.isEmpty then "-" else joinWith "," set

def templateLine? (index : Nat) (t : Template) : Option String := do
  let printed ← t.print?
  let left ← Numeral.print? t.leftContext
  let right ← Numeral.print? t.rightContext
  some (line (toString index) printed left right (flags t))

/-- The list of templates: a heading, a line for each, and the tag context of all together. -/
def templateLines? (s : FeatureSet) : Option (List String) := do
  let lines ← s.templates.zipIdx.mapM fun (t, i) => templateLine? i t
  let left ← Numeral.print? s.leftContext
  let right ← Numeral.print? s.rightContext
  some ([line "#" "extractor" "left" "right" "flags"] ++ lines ++
    ["Tag context required: " ++ left ++ " left, " ++ right ++ " right."])

/-- The lines of one position: the word, and the key of each template. -/
def positionLines (s : FeatureSet) (c : Corpus) (h : Cursor) :
    Except Corpus.Error (List String) := do
  let word ← c.wordAt h 0
  let keys ← s.keys c h
  match s.templates.mapM Template.print? with
  | none => .error .unprintable
  | some printed =>
    .ok (("[" ++ toString h.position ++ "] " ++ word) ::
      (printed.zip keys).map fun (name, key) => "    " ++ name ++ ": " ++ key)

/-- The keys at each position of the first sentence. -/
def featureLines (s : FeatureSet) (c : Corpus) : Except Corpus.Error (List String) := do
  let cursors ← c.cursorsOf 0
  let blocks ← cursors.mapM (s.positionLines c)
  .ok blocks.flatten

end TaggerFeatures.FeatureSet
