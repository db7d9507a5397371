import TaggerFeatures.Template

/-!
An ordered set of templates, as a decoder uses it: keys that depend on the current word, on words
around it, or on tags are asked for separately.
-/
namespace TaggerFeatures

/-- Templates in a fixed order. -/
structure FeatureSet where
  templates : List Template

namespace FeatureSet

inductive Error
  | outside
  | corpus (error : Corpus.Error)
deriving DecidableEq, Repr

def Error.message : Error → String
  | outside => "tuple index out of range"
  | corpus error => error.message

def empty : FeatureSet := ⟨[]⟩

def size (s : FeatureSet) : Nat := s.templates.length

/-- The indices of the templates with a property. -/
def indices (s : FeatureSet) (p : Template → Bool) : List Int :=
  s.templates.zipIdx.filterMap fun (t, i) => if p t then some (i : Int) else none

/-- The indices of templates that read the current word alone. -/
def localIndices (s : FeatureSet) : List Int := s.indices fun t => t.isLocal && !t.isDynamic

/-- The indices of templates that read neighbouring words but no tags. -/
def wordIndices (s : FeatureSet) : List Int := s.indices fun t => !t.isLocal && !t.isDynamic

def dynamicIndices (s : FeatureSet) : List Int := s.indices fun t => t.isDynamic

/-- How many positions before the cursor must have a tag. -/
def leftContext (s : FeatureSet) : Nat := (s.templates.map Template.leftContext).foldl max 0

/-- How many positions after the cursor must have a tag. -/
def rightContext (s : FeatureSet) : Nat := (s.templates.map Template.rightContext).foldl max 0

/-- The name of a column: the index and the printed form of a template. -/
def columnName? (index : Nat) (t : Template) : Option String :=
  t.print?.map fun printed => toString index ++ ":" ++ printed

/-- The names of the columns. There are none if a template cannot be printed. -/
def columns? (s : FeatureSet) : Option (List String) :=
  s.templates.zipIdx.mapM fun (t, i) => columnName? i t

/-- The template at an index; a negative one counts from the end. -/
def get (s : FeatureSet) (index : Int) : Except Error Template :=
  match Text.signedGet? s.templates index with
  | some t => .ok t
  | none => .error .outside

/-- All keys at a cursor, in order. The first template without a key is the error. -/
def keys (s : FeatureSet) (c : Corpus) (h : Cursor) : Except Corpus.Error (List String) :=
  s.templates.mapM fun t => t.key c h

def keyAt (s : FeatureSet) (c : Corpus) (h : Cursor) (index : Int) : Except Error String := do
  let t ← s.get index
  (t.key c h).mapError .corpus

def firstOccurrences : (seen : List Int) → List Int → List Int
  | _, [] => []
  | seen, i :: rest =>
    if seen.contains i then firstOccurrences seen rest
    else i :: firstOccurrences (i :: seen) rest

/-- The keys of the templates at the given indices, each index once. -/
def keysAt (s : FeatureSet) (indices : List Int) (c : Corpus) (h : Cursor) :
    Except Error (List (Int × String)) :=
  (firstOccurrences [] indices).mapM fun i => (s.keyAt c h i).map (i, ·)

end FeatureSet
end TaggerFeatures
