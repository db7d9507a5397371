import TaggerFeatures.Corpus.Calls
import TaggerFeatures.Proofs.Corpus.Shape

/-!
Every call keeps the words and tags of a corpus together, and one that fails has written nothing.
-/
namespace TaggerFeatures.Corpus

/-! ## Steps -/

namespace Call

variable {α β : Type} {c : Corpus}

theorem run_ask_bind (question : Corpus → Except Error α) (next : α → Call β) :
    (ask question >>= next).run c =
      match question c with
      | .ok x => (next x).run c
      | .error e => (.error e, c) := by
  change (andThen (ask question) next).run c = _
  simp only [andThen, ask]
  cases question c <;> rfl

theorem run_require_bind (p : Prop) [Decidable p] (e : Error) (next : Unit → Call β) :
    (require p e >>= next).run c = if p then (next ()).run c else (.error e, c) := by
  rw [require, run_ask_bind]
  by_cases hp : p
  · rw [if_pos hp, if_pos hp]
  · rw [if_neg hp, if_neg hp]

theorem run_write_bind (f : Corpus → Corpus) (next : Unit → Call β) :
    (write f >>= next).run c = (next ()).run (f c) :=
  rfl

theorem run_pure (x : α) : (pure x : Call α).run c = (.ok x, c) := rfl

end Call

open Call

/-! ## All or nothing -/

/-- The index that a change tells: that of a new sentence. -/
def Edit.index? (c : Corpus) : Edit → Option Nat
  | .add _ _ => some c.size
  | _ => none

/-- What a change answers and leaves that is made as a whole or not at all. -/
def whole (c : Corpus) (change : Edit) : Except Error (Option Nat) × Corpus :=
  match c.edit change with
  | .ok d => (.ok (change.index? c), d)
  | .error e => (.error e, c)

variable {c : Corpus}

theorem run_callAdd (words : List String) (tags : Option (List (Option String))) :
    (callAdd words tags).run c = c.whole (.add words tags) := by
  have hsize : (c.words ++ [words]).length - 1 = c.size := by simp [size]
  simp only [callAdd, run_require_bind, run_write_bind, ask, hsize, whole, edit]
  cases tags with
  | none =>
      rw [if_pos (by simp)]
      rfl
  | some row =>
      simp only [Option.getD_some, add]
      split <;> rfl

theorem run_callAssign (h : Cursor) (tag : Option String) :
    (callAssign h tag).run c = c.whole (.assign h tag) := by
  simp only [callAssign, run_ask_bind, run_require_bind, run_write_bind, run_pure, tagRow, whole,
    edit, assign]
  cases c.wordsOf h.sentence with
  | error e => rfl
  | ok words =>
      simp only [bind, Except.bind]
      split
      · cases slot? c.tags h.sentence with
        | none => rfl
        | some row =>
            simp only
            split <;> rfl
      · rfl

theorem run_callClear (s : Int) : (callClear s).run c = c.whole (.clear s) := by
  simp only [callClear, run_ask_bind, run_write_bind, run_pure, tagRow, whole, edit, clear]
  cases c.wordsOf s with
  | error e => rfl
  | ok words =>
      simp only [bind, Except.bind]
      cases slot? c.tags s <;> rfl

/-- A call makes the change as a whole, or leaves the corpus as it was. -/
theorem run_call (change : Edit) : (call change).run c = c.whole change := by
  cases change with
  | add words tags => exact run_callAdd words tags
  | assign cursor tag => exact run_callAssign cursor tag
  | clear sentence => exact run_callClear sentence

theorem run_call_eq (change : Edit) :
    (∃ d, Step c change d ∧ (call change).run c = (.ok (change.index? c), d)) ∨
      ∃ e, c.edit change = .error e ∧ (call change).run c = (.error e, c) := by
  rw [run_call, whole]
  cases h : c.edit change with
  | ok d => exact Or.inl ⟨d, step_of_edit h, rfl⟩
  | error e => exact Or.inr ⟨e, rfl, rfl⟩

/-! ## Failures -/

/-- Why a change is refused: tags that do not fit the words, an unknown sentence, or a position
outside of the sentence. -/
inductive Refusal (c : Corpus) : Edit → Error → Prop
  | mismatch {words : List String} {row : List (Option String)} : row.length ≠ words.length →
      Refusal c (.add words (some row)) (.lengthMismatch words.length row.length)
  | assign_unknown {h : Cursor} {tag : Option String} {e : Error} : ¬ c.Knows h.sentence →
      Told [h.sentence] (.unknownSentence h.sentence) e → Refusal c (.assign h tag) e
  | assign_outside {h : Cursor} {tag : Option String} {words : List String} {e : Error} :
      c.wordsOf h.sentence = .ok words →
      ¬ (0 ≤ h.position ∧ h.position < words.length) →
      Told [h.position, h.sentence] (.positionOutside h words.length) e →
      Refusal c (.assign h tag) e
  | clear_unknown {s : Int} {e : Error} : ¬ c.Knows s → Told [s] (.unknownSentence s) e →
      Refusal c (.clear s) e

variable {h : Cursor} {tag : Option String} {s : Int} {e : Error}

theorem edit_add_eq_error_iff {words : List String} {tags : Option (List (Option String))} :
    c.edit (.add words tags) = .error e ↔ Refusal c (.add words tags) e := by
  cases tags with
  | none =>
      constructor
      · intro he
        cases he
      · intro hr
        cases hr
  | some row =>
      simp only [edit, add]
      constructor
      · intro he
        split at he
        · cases he
        · rename_i hl
          cases he
          exact .mismatch hl
      · intro hr
        cases hr with
        | mismatch hl => rw [if_neg hl, Except.map]

theorem edit_assign_eq_error_iff (hc : c.Aligned) :
    c.edit (.assign h tag) = .error e ↔ Refusal c (.assign h tag) e := by
  constructor
  · intro he
    simp only [edit, assign] at he
    cases hw : c.wordsOf h.sentence with
    | error e' =>
        rw [hw] at he
        cases he
        obtain ⟨hs, rfl⟩ := wordsOf_eq_error_iff.mp hw
        exact .assign_unknown hs (told_unknownSentence_iff.mpr rfl)
    | ok words =>
        rw [hw] at he
        obtain ⟨row, hrow, hl⟩ := hc.row_of_wordsOf hw
        simp only [bind, Except.bind, hrow] at he
        split at he
        · rename_i hi
          rw [if_pos (by omega)] at he
          cases he
        · rename_i hi
          cases he
          exact .assign_outside hw hi (told_positionOutside_iff.mpr rfl)
  · intro hr
    cases hr with
    | assign_unknown hs htold =>
        obtain rfl := told_unknownSentence_iff.mp htold
        simp only [edit, assign, wordsOf_of_not_knows hs, bind, Except.bind]
    | assign_outside hw hi htold =>
        obtain rfl := told_positionOutside_iff.mp htold
        simp only [edit, assign, hw, bind, Except.bind, if_neg hi]

theorem edit_clear_eq_error_iff (hc : c.Aligned) :
    c.edit (.clear s) = .error e ↔ Refusal c (.clear s) e := by
  constructor
  · intro he
    simp only [edit, clear] at he
    cases hw : c.wordsOf s with
    | error e' =>
        rw [hw] at he
        cases he
        obtain ⟨hs, rfl⟩ := wordsOf_eq_error_iff.mp hw
        exact .clear_unknown hs (told_unknownSentence_iff.mpr rfl)
    | ok words =>
        rw [hw] at he
        obtain ⟨row, hrow, _⟩ := hc.row_of_wordsOf hw
        simp only [bind, Except.bind, hrow] at he
        cases he
  · intro hr
    cases hr with
    | clear_unknown hs htold =>
        obtain rfl := told_unknownSentence_iff.mp htold
        simp only [edit, clear, wordsOf_of_not_knows hs, bind, Except.bind]

theorem edit_eq_error_iff (hc : c.Aligned) (change : Edit) :
    c.edit change = .error e ↔ Refusal c change e := by
  cases change with
  | add words tags => exact edit_add_eq_error_iff
  | assign cursor tag => exact edit_assign_eq_error_iff hc
  | clear sentence => exact edit_clear_eq_error_iff hc

theorem call_fails_iff (hc : c.Aligned) (change : Edit) :
    ((call change).run c).1 = .error e ↔ Refusal c change e := by
  rw [← edit_eq_error_iff hc, run_call, whole]
  cases c.edit change <;> simp

theorem call_failed (change : Edit) (he : ((call change).run c).1 = .error e) :
    ((call change).run c).2 = c := by
  rcases run_call_eq (c := c) change with ⟨d, _, hd⟩ | ⟨e', _, hrun⟩
  · rw [hd] at he
    cases he
  · rw [hrun]

/-! ## Sessions -/

/-- The indices of new sentences among answers. -/
def toldIndices (answers : List (Except Error (Option Nat))) : List Nat :=
  answers.filterMap fun answer => answer.toOption.join

theorem session_corpus (c : Corpus) (changes : List Edit) :
    (c.session changes).2 = c.run changes := by
  induction changes generalizing c with
  | nil => rfl
  | cons change rest ih =>
      have hattempt : ((call change).run c).2 = c.attempt change := by
        rw [run_call, whole, attempt]
        cases c.edit change <;> rfl
      change (((call change).run c).2.session rest).2 = (c.attempt change).run rest
      rw [ih, hattempt]

theorem Step.range_size {d : Corpus} {change : Edit} (hd : Step c change d) :
    List.range d.size = List.range c.size ++ (change.index? c).toList := by
  cases hd with
  | add _ _ =>
      rw [size, List.length_append, List.length_singleton, List.range_succ]
      rfl
  | assign _ _ _ _ => exact (List.append_nil _).symm
  | clear _ _ => exact (List.append_nil _).symm

/-- Sentences are numbered in the order in which they come, without a gap. -/
theorem range_append_toldIndices (c : Corpus) (changes : List Edit) :
    List.range c.size ++ toldIndices (c.session changes).1 =
      List.range (c.session changes).2.size := by
  -- The indices so far are those of the corpus, wherever the session has come to.
  induction changes generalizing c with
  | nil => exact List.append_nil _
  | cons change rest ih =>
      rcases run_call_eq (c := c) change with ⟨d, hd, hrun⟩ | ⟨e, _, hrun⟩
      · have htold : toldIndices (c.session (change :: rest)).1 =
            (change.index? c).toList ++ toldIndices (d.session rest).1 := by
          simp only [session, hrun, toldIndices, List.filterMap_cons]
          cases change.index? c <;> rfl
        have hleft : (c.session (change :: rest)).2 = (d.session rest).2 := by
          simp only [session, hrun]
        rw [htold, hleft, ← List.append_assoc, ← hd.range_size, ih]
      · have hsame : toldIndices (c.session (change :: rest)).1 =
            toldIndices (c.session rest).1 := by
          simp only [session, hrun, toldIndices]
          rfl
        have hleft : (c.session (change :: rest)).2 = (c.session rest).2 := by
          simp only [session, hrun]
        rw [hsame, hleft, ih]

/-- Words and tags fit together, so that a question or a call fails for what it asks only, and never
because a row of tags or a tag is not there. -/
structure Consistent (c : Corpus) : Prop where
  sentences : c.tags.length = c.words.length
  lengths : ∀ (s : Nat) (words : List String) (row : List (Option String)),
    c.words[s]? = some words → c.tags[s]? = some row → row.length = words.length
  tagsOf_fails : ∀ s e, c.tagsOf s = .error e ↔ ¬ c.Knows s ∧ Told [s] (.unknownSentence s) e
  tagAt_fails : ∀ h o e, c.tagAt h o = .error e ↔
    ¬ c.Knows h.sentence ∧ Told [h.sentence] (.unknownSentence h.sentence) e ∨
      c.Knows h.sentence ∧ c.tagSlot? h.sentence (h.position + o) = some none ∧
        Told [o, h.position, h.sentence] (.unassigned h o) e
  call_fails : ∀ change e, ((call change).run c).1 = .error e ↔ Refusal c change e

theorem Aligned.consistent (hc : c.Aligned) : c.Consistent where
  sentences := hc.size_eq
  lengths := by
    intro s words row hw hr
    obtain ⟨row', hr', hl⟩ := hc.tags_of_words hw
    rw [hr] at hr'
    cases hr'
    exact hl
  tagsOf_fails := by
    intro s e
    rw [tagsOf_eq_error_iff hc, told_unknownSentence_iff]
  tagAt_fails := by
    intro h o e
    rw [tagAt_eq_error_iff hc, told_unknownSentence_iff, told_unassigned_iff]
  call_fails := fun change _ => call_fails_iff hc change

/-- Two sentences, a tag, and calls that fail before, between and after them. -/
def faultySession : List Edit := [
  .clear 0, .add ["the", "cat"] none, .add ["ran"] (some []), .assign ⟨0, -1⟩ (some "NN"),
  .assign ⟨0, 1⟩ (some "NN"), .add ["ran"] (some [some "VBD"]), .assign ⟨-1, 0⟩ none]

end TaggerFeatures.Corpus
