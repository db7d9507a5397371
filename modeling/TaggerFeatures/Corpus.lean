import TaggerFeatures.Number.Numeral
import TaggerFeatures.Text.Blank

/-!
A corpus: sentences of words, and beside each sentence its tags, which may be missing. Words and
tags are read at an offset from a cursor; beyond either edge of a sentence stands the boundary.
-/
namespace TaggerFeatures

/-- The word and the tag beyond either edge of a sentence. -/
def boundary : String := "NA"

/-- A place in a corpus: a sentence, and a word of it. -/
structure Cursor where
  sentence : Int
  position : Int
deriving DecidableEq, Repr

/-- The position at an offset from the cursor. -/
def Cursor.at (h : Cursor) (offset : Int) : Int := h.position + offset

/-- The words of each sentence, and the tags of each sentence. -/
structure Corpus where
  words : List (List String)
  tags : List (List (Option String))
deriving DecidableEq, Repr

namespace Corpus

/-- Why a corpus gives no answer or takes no change. -/
inductive Error
  | unknownSentence (index : Int)
  | positionOutside (cursor : Cursor) (length : Nat)
  | unassigned (cursor : Cursor) (offset : Int)
  | lengthMismatch (words tags : Nat)
  | missingSlot
  | unprintable
deriving DecidableEq, Repr

/-- The integers named in the text of an error that may have any number of digits. -/
def Error.integers : Error → List Int
  | unknownSentence index => [index]
  | positionOutside cursor _ => [cursor.position, cursor.sentence]
  | unassigned cursor offset => [offset, cursor.position, cursor.sentence]
  | _ => []

/-- What is reported for an error: its text is written first, and if that fails, this is reported
in its place. -/
def Error.reported (e : Error) : Error :=
  if ∀ n ∈ e.integers, Numeral.Readable n then e else unprintable

def Error.message : Error → String
  | unknownSentence index => "Unknown sentence index " ++ toString index ++ "."
  | positionOutside cursor length =>
    "Position " ++ toString cursor.position ++ " is outside sentence " ++
      toString cursor.sentence ++ " of length " ++ toString length ++ "."
  | unassigned cursor offset =>
    "Tag at offset " ++ toString offset ++ " from position " ++ toString cursor.position ++
      " of sentence " ++ toString cursor.sentence ++ " has not been assigned."
  | lengthMismatch words tags =>
    "Sentence has " ++ toString words ++ " words but " ++ toString tags ++ " tags."
  | missingSlot => "list index out of range"
  | unprintable => Numeral.unprintable

def empty : Corpus := ⟨[], []⟩

def size (c : Corpus) : Nat := c.words.length

/-- The entry of a list at an index that is not negative. -/
def slot? {α : Type} (xs : List α) (index : Int) : Option α :=
  if 0 ≤ index then xs[index.toNat]? else none

def wordsOf (c : Corpus) (sentence : Int) : Except Error (List String) :=
  match slot? c.words sentence with
  | some words => .ok words
  | none => .error (Error.unknownSentence sentence).reported

def lengthOf (c : Corpus) (sentence : Int) : Except Error Nat :=
  (c.wordsOf sentence).map List.length

def tagsOf (c : Corpus) (sentence : Int) : Except Error (List (Option String)) := do
  let _ ← c.wordsOf sentence
  match slot? c.tags sentence with
  | some tags => .ok tags
  | none => .error .missingSlot

def wordAt (c : Corpus) (h : Cursor) (offset : Int) : Except Error String := do
  let words ← c.wordsOf h.sentence
  .ok ((slot? words (h.at offset)).getD boundary)

/-- The tag at an offset from a cursor; a missing one is an error. -/
def tagAt (c : Corpus) (h : Cursor) (offset : Int) : Except Error String := do
  let words ← c.wordsOf h.sentence
  match slot? words (h.at offset) with
  | none => .ok boundary
  | some _ =>
    let tags ← c.tagsOf h.sentence
    match slot? tags (h.at offset) with
    | some (some tag) => .ok tag
    | some none => .error (Error.unassigned h offset).reported
    | none => .error .missingSlot

/-- The cursors of a sentence, from its first word on. -/
def cursorsOf (c : Corpus) (sentence : Int) : Except Error (List Cursor) := do
  let length ← c.lengthOf sentence
  .ok ((List.range length).map fun position => ⟨sentence, (position : Nat)⟩)

def cursors (c : Corpus) : List Cursor :=
  c.words.zipIdx.flatMap fun (words, sentence) =>
    (List.range words.length).map fun position => ⟨(sentence : Nat), (position : Nat)⟩

/-- Puts a sentence at the end, and tells its index. -/
def push (c : Corpus) (words : List String) (tags : List (Option String)) : Nat × Corpus :=
  (c.size, ⟨c.words ++ [words], c.tags ++ [tags]⟩)

/-- Adds a sentence, and tells its index. Without tags all its tags are missing. -/
def add (c : Corpus) (words : List String) (tags : Option (List (Option String))) :
    Except Error (Nat × Corpus) :=
  match tags with
  | none => .ok (c.push words (List.replicate words.length none))
  | some tags =>
    if tags.length = words.length then .ok (c.push words tags)
    else .error (.lengthMismatch words.length tags.length)

/-- Gives the word at the cursor a tag, or takes its tag away. -/
def assign (c : Corpus) (h : Cursor) (tag : Option String) : Except Error Corpus := do
  let words ← c.wordsOf h.sentence
  if 0 ≤ h.position ∧ h.position < words.length then
    match slot? c.tags h.sentence with
    | none => .error .missingSlot
    | some tags =>
      if h.position < tags.length then
        .ok { c with tags := c.tags.set h.sentence.toNat (tags.set h.position.toNat tag) }
      else .error .missingSlot
  else .error (Error.positionOutside h words.length).reported

/-- Takes all tags of a sentence away. -/
def clear (c : Corpus) (sentence : Int) : Except Error Corpus := do
  let _ ← c.wordsOf sentence
  match slot? c.tags sentence with
  | none => .error .missingSlot
  | some tags =>
    .ok { c with tags := c.tags.set sentence.toNat (List.replicate tags.length none) }

inductive Edit
  | add (words : List String) (tags : Option (List (Option String)))
  | assign (cursor : Cursor) (tag : Option String)
  | clear (sentence : Int)
deriving DecidableEq, Repr

def edit (c : Corpus) : Edit → Except Error Corpus
  | .add words tags => (c.add words tags).map (·.2)
  | .assign cursor tag => c.assign cursor tag
  | .clear sentence => c.clear sentence

/-- Makes a change, or leaves the corpus as it is if that fails. -/
def attempt (c : Corpus) (change : Edit) : Corpus :=
  match c.edit change with
  | .ok changed => changed
  | .error _ => c

def run (c : Corpus) (changes : List Edit) : Corpus := changes.foldl attempt c

/-- The corpora that changes can make. -/
def Reachable (c : Corpus) : Prop := ∃ changes, c = empty.run changes

end Corpus
end TaggerFeatures
