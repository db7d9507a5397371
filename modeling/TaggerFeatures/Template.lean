import TaggerFeatures.Template.Offsets
import TaggerFeatures.Template.Participle
import TaggerFeatures.WordShape

/-!
Feature templates. A template reads words and tags around a cursor and gives a feature key; its
contexts say how far to either side the tags have to be known.
-/
namespace TaggerFeatures

/-- The rules that features are made by. -/
inductive Template
  | word (offset : Int)
  | lowercaseWord (offset : Int)
  | tag (offset : Int)
  | capitalizedWord
  | wordTag (word tag : Int)
  | twoWords (words : OffsetPair)
  | twoTags (tags : OffsetPair)
  | twoWordsTag (words : OffsetPair) (tag : Int)
  | threeTags (tags : OffsetTriple)
  | wordTwoTags (word : Int) (tags : OffsetPair)
  | tagWindow (farthest : Int)
  | wordShape (offset : Int) (shaper : Shaper)
  | shapeConjunction (first last : Int) (shaper : Shaper)
  | participle (bound : Int) (dictionary : TagDictionary)

namespace Template

/-- The words at an offset and the one after it. -/
def adjacentWords (offset : Int) : Template := .twoWords (.of offset (offset + 1))

/-! ## Tag context -/

def leftOf (offset : Int) : Nat := (-offset).toNat

def rightOf (offset : Int) : Nat := offset.toNat

/-- How many positions before the cursor must have a tag. -/
def leftContext : Template → Nat
  | tag offset => leftOf offset
  | wordTag _ offset => leftOf offset
  | twoTags tags => leftOf tags.low
  | twoWordsTag _ offset => leftOf offset
  | threeTags tags => leftOf tags.low
  | wordTwoTags _ tags => leftOf tags.low
  | tagWindow farthest => leftOf farthest
  | _ => 0

/-- How many positions after the cursor must have a tag. -/
def rightContext : Template → Nat
  | tag offset => rightOf offset
  | wordTag _ offset => rightOf offset
  | twoTags tags => rightOf tags.high
  | twoWordsTag _ offset => rightOf offset
  | threeTags tags => rightOf tags.high
  | wordTwoTags _ tags => rightOf tags.high
  | tagWindow farthest => rightOf farthest
  | _ => 0

/-- Whether the key depends on the current word alone. -/
def isLocal : Template → Bool
  | word offset => offset == 0
  | lowercaseWord offset => offset == 0
  | capitalizedWord => true
  | wordShape offset _ => offset == 0
  | _ => false

def isDynamic : Template → Bool
  | tag _ => true
  | wordTag _ _ => true
  | twoTags _ => true
  | twoWordsTag _ _ => true
  | threeTags _ => true
  | wordTwoTags _ _ => true
  | tagWindow _ => true
  | _ => false

/-! ## Keys -/

/-- Between the parts of a key. -/
def separator : String := "!"

/-- Between the shapes of a conjunction. -/
def shapeSeparator : String := "|"

/-- The direction in which a tag window reads: from its far end toward the cursor. -/
def windowStep (farthest : Int) : Int := if farthest < 0 then 1 else -1

/-- The offsets that a tag window reads. -/
def windowOffsets (farthest : Int) : List Int :=
  Offsets.run (windowStep farthest) farthest.natAbs farthest

def key (t : Template) (c : Corpus) (h : Cursor) : Except Corpus.Error String := do
  match t with
  | word offset => c.wordAt h offset
  | lowercaseWord offset =>
    let w ← c.wordAt h offset
    .ok (String.ofList (Unicode.lowercase w.toList))
  | tag offset => c.tagAt h offset
  | capitalizedWord =>
    let w ← c.wordAt h 0
    .ok (if Unicode.lowercase w.toList = w.toList then "0" else w)
  | wordTag i j =>
    let t ← c.tagAt h j
    let w ← c.wordAt h i
    .ok (Text.joinWith separator [t, w])
  | twoWords words =>
    let w ← c.wordAt h words.high
    let v ← c.wordAt h words.low
    .ok (Text.joinWith separator [w, v])
  | twoTags tags =>
    let s ← c.tagAt h tags.low
    let t ← c.tagAt h tags.high
    .ok (Text.joinWith separator [s, t])
  | twoWordsTag words j =>
    let v ← c.wordAt h words.low
    let t ← c.tagAt h j
    let w ← c.wordAt h words.high
    .ok (Text.joinWith separator [v, t, w])
  | threeTags tags =>
    let s ← c.tagAt h tags.low
    let t ← c.tagAt h tags.middle
    let u ← c.tagAt h tags.high
    .ok (Text.joinWith separator [s, t, u])
  | wordTwoTags i tags =>
    let s ← c.tagAt h tags.low
    let w ← c.wordAt h i
    let t ← c.tagAt h tags.high
    .ok (Text.joinWith separator [s, w, t])
  | tagWindow farthest =>
    let tags ← Offsets.readRun (c.tagAt h) (windowStep farthest) farthest.natAbs farthest
    .ok (Text.joinWith separator tags)
  | wordShape offset shaper =>
    let w ← c.wordAt h offset
    .ok (shaper.shape w)
  | shapeConjunction first last shaper =>
    let words ← Offsets.readRun (c.wordAt h) 1 (last + 1 - first).toNat first
    .ok (Text.joinWith shapeSeparator (words.map shaper.shape))
  | participle bound dictionary =>
    let found ← Participle.governed bound dictionary c h
    .ok (if found then "1" else "0")

/-! ## The printed form -/

def wordMark (offset : Int) : String := "w" ++ toString offset

def tagMark (offset : Int) : String := "t" ++ toString offset

/-- The printed form, whatever number of digits its integers have. -/
def print : Template → String
  | word offset => "Word(" ++ wordMark offset ++ ")"
  | lowercaseWord offset => "LowerCaseWord(" ++ wordMark offset ++ ")"
  | tag offset => "Tag(" ++ tagMark offset ++ ")"
  | capitalizedWord => "CapitalizedWord(w0)"
  | wordTag i j => "WordTag(" ++ wordMark i ++ "," ++ tagMark j ++ ")"
  | twoWords words => "TwoWords(" ++ wordMark words.high ++ "," ++ wordMark words.low ++ ")"
  | twoTags tags => "TwoTags(" ++ tagMark tags.low ++ "," ++ tagMark tags.high ++ ")"
  | twoWordsTag words j =>
    "TwoWordsTag(" ++ wordMark words.low ++ "," ++ tagMark j ++ "," ++ wordMark words.high ++ ")"
  | threeTags tags =>
    "ThreeTags(" ++ tagMark tags.low ++ "," ++ tagMark tags.middle ++ "," ++
      tagMark tags.high ++ ")"
  | wordTwoTags i tags =>
    "WordTwoTags(" ++ tagMark tags.low ++ "," ++ wordMark i ++ "," ++ tagMark tags.high ++ ")"
  | tagWindow farthest => "TagWindow(" ++ tagMark farthest ++ "..t0)"
  | wordShape offset shaper => "WordShape(" ++ wordMark offset ++ "," ++ shaper.name ++ ")"
  | shapeConjunction first last shaper =>
    "WordShapeConjunction(" ++ toString first ++ "," ++ toString last ++ "," ++ shaper.name ++ ")"
  | participle bound _ => "VerbalVBN(" ++ toString bound ++ ")"

/-- The integers in the printed form. -/
def integers : Template → List Int
  | word offset => [offset]
  | lowercaseWord offset => [offset]
  | tag offset => [offset]
  | capitalizedWord => []
  | wordTag i j => [i, j]
  | twoWords words => [words.high, words.low]
  | twoTags tags => [tags.low, tags.high]
  | twoWordsTag words j => [words.low, j, words.high]
  | threeTags tags => [tags.low, tags.middle, tags.high]
  | wordTwoTags i tags => [tags.low, i, tags.high]
  | tagWindow farthest => [farthest]
  | wordShape offset _ => [offset]
  | shapeConjunction first last _ => [first, last]
  | participle bound _ => [bound]

/-- The printed form, if each integer in it can be written. -/
def print? (t : Template) : Option String :=
  if ∀ n ∈ t.integers, Numeral.Readable n then some t.print else none

end Template
end TaggerFeatures
