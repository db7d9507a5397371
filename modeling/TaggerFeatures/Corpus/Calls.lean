import TaggerFeatures.Corpus

/-!
Changes to a corpus as calls that check and write in steps: a failure leaves what was written
before it.
-/
namespace TaggerFeatures.Corpus

/-- Questions to a corpus and writes to it, up to the first failure. There is a corpus after a
failure too. -/
structure Call (α : Type) where
  run : Corpus → Except Error α × Corpus

namespace Call

variable {α β : Type}

def andThen (first : Call α) (next : α → Call β) : Call β where
  run c :=
    match first.run c with
    | (.ok x, d) => (next x).run d
    | (.error e, d) => (.error e, d)

instance : Monad Call where
  pure x := ⟨fun c => (.ok x, c)⟩
  bind := andThen

def ask (question : Corpus → Except Error α) : Call α := ⟨fun c => (question c, c)⟩

def require (p : Prop) [Decidable p] (e : Error) : Call Unit :=
  ask fun _ => if p then .ok () else .error e

def write (f : Corpus → Corpus) : Call Unit := ⟨fun c => (.ok (), f c)⟩

/-- The tags of a sentence, by its place among the rows of tags alone. -/
def tagRow (s : Int) : Call (List (Option String)) :=
  ask fun c =>
    match slot? c.tags s with
    | some row => .ok row
    | none => .error .missingSlot

end Call

open Call

/-- Adds a sentence to the words, then its tags to the tags, and tells its index. -/
def callAdd (words : List String) (tags : Option (List (Option String))) : Call (Option Nat) := do
  let row := tags.getD (List.replicate words.length none)
  require (row.length = words.length) (.lengthMismatch words.length row.length)
  write fun c => { c with words := c.words ++ [words] }
  write fun c => { c with tags := c.tags ++ [row] }
  ask fun c => .ok (some (c.words.length - 1))

/-- Checks the cursor against the words, and writes to the tags. -/
def callAssign (h : Cursor) (tag : Option String) : Call (Option Nat) := do
  let words ← ask (·.wordsOf h.sentence)
  require (0 ≤ h.position ∧ h.position < words.length)
    (Error.positionOutside h words.length).reported
  let row ← tagRow h.sentence
  require (h.position < row.length) .missingSlot
  write fun c => { c with tags := c.tags.set h.sentence.toNat (row.set h.position.toNat tag) }
  pure none

def callClear (s : Int) : Call (Option Nat) := do
  let _ ← ask (·.wordsOf s)
  let row ← tagRow s
  write fun c => { c with tags := c.tags.set s.toNat (List.replicate row.length none) }
  pure none

def call : Edit → Call (Option Nat)
  | .add words tags => callAdd words tags
  | .assign cursor tag => callAssign cursor tag
  | .clear sentence => callClear sentence

/-- What calls answer that are made one after the other, and the corpus that they leave. -/
def session (c : Corpus) : List Edit → List (Except Error (Option Nat)) × Corpus
  | [] => ([], c)
  | change :: rest =>
    let first := (call change).run c
    let later := first.2.session rest
    (first.1 :: later.1, later.2)

end TaggerFeatures.Corpus
