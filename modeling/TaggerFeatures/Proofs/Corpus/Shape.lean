import TaggerFeatures.Corpus
import TaggerFeatures.Proofs.Numeral

/-!
What changes do to a corpus, and the shape they keep: every sentence has as many tags as words. In
that shape a read fails for an unknown sentence or a missing tag only.
-/
namespace TaggerFeatures.Corpus

/-! ## Entries at integer indices -/

section
variable {α : Type} {xs : List α}

@[simp] theorem slot?_natCast (xs : List α) (n : Nat) : slot? xs (n : Int) = xs[n]? := by
  simp [slot?]

theorem slot?_eq_some_iff {i : Int} {x : α} :
    slot? xs i = some x ↔ ∃ n : Nat, i = n ∧ xs[n]? = some x := by
  constructor
  · intro h
    unfold slot? at h
    split at h
    · rename_i hi
      exact ⟨i.toNat, (Int.toNat_of_nonneg hi).symm, h⟩
    · cases h
  · rintro ⟨n, rfl, h⟩
    rw [slot?_natCast, h]

theorem slot?_eq_none_iff {i : Int} : slot? xs i = none ↔ ¬ (0 ≤ i ∧ i < xs.length) := by
  unfold slot?
  split
  · rw [List.getElem?_eq_none_iff]
    omega
  · simp only [true_iff]
    omega

theorem slot?_eq_none_congr {β : Type} {ys : List β} (h : xs.length = ys.length) {i : Int} :
    slot? xs i = none ↔ slot? ys i = none := by
  rw [slot?_eq_none_iff, slot?_eq_none_iff, h]

end

/-! ## Errors as they are told -/

/-- What an error becomes whose text names some integers: the error, or if one of them has too many
digits, that its text cannot be written. -/
inductive Told (named : List Int) (e : Error) : Error → Prop
  | itself : (∀ n ∈ named, ¬ Numeral.Wide n) → Told named e e
  | unprintable : (∃ n ∈ named, Numeral.Wide n) → Told named e .unprintable

theorem told_reported (e : Error) : Told e.integers e e.reported := by
  unfold Error.reported
  split
  · rename_i hread
    exact .itself fun n hn => Numeral.not_wide_iff.mpr (hread n hn)
  · rename_i hunread
    obtain ⟨n, hn, hwide⟩ := not_forall₂.mp hunread
    exact .unprintable ⟨n, hn, Numeral.wide_iff.mpr hwide⟩

theorem Told.unique {named : List Int} {e e₁ e₂ : Error} (h₁ : Told named e e₁)
    (h₂ : Told named e e₂) : e₁ = e₂ := by
  cases h₁ with
  | itself hall =>
      cases h₂ with
      | itself _ => rfl
      | unprintable hwide =>
          obtain ⟨n, hn, hw⟩ := hwide
          exact absurd hw (hall n hn)
  | unprintable hwide =>
      cases h₂ with
      | itself hall =>
          obtain ⟨n, hn, hw⟩ := hwide
          exact absurd hw (hall n hn)
      | unprintable _ => rfl

theorem told_iff {named : List Int} {e e' : Error} (hn : e.integers = named) :
    Told named e e' ↔ e' = e.reported := by
  subst hn
  exact ⟨fun h => h.unique (told_reported e), fun h => h ▸ told_reported e⟩

theorem told_unknownSentence_iff {s : Int} {e : Error} :
    Told [s] (.unknownSentence s) e ↔ e = (Error.unknownSentence s).reported :=
  told_iff rfl

theorem told_positionOutside_iff {h : Cursor} {length : Nat} {e : Error} :
    Told [h.position, h.sentence] (.positionOutside h length) e ↔
      e = (Error.positionOutside h length).reported :=
  told_iff rfl

theorem told_unassigned_iff {h : Cursor} {o : Int} {e : Error} :
    Told [o, h.position, h.sentence] (.unassigned h o) e ↔ e = (Error.unassigned h o).reported :=
  told_iff rfl

theorem Told.eq_of_not_wide {named : List Int} {e e' : Error} (h : Told named e e')
    (hn : ∀ n ∈ named, ¬ Numeral.Wide n) : e' = e :=
  h.unique (.itself hn)

theorem Error.reported_of_wide {e : Error} {n : Int} (hn : n ∈ e.integers) (h : Numeral.Wide n) :
    e.reported = .unprintable :=
  (told_reported e).unique (.unprintable ⟨n, hn, h⟩)

/-- The errors that tell what is wrong with a place of a corpus. -/
inductive Error.TellsPlace : Error → Prop
  | unknownSentence (index : Int) : TellsPlace (.unknownSentence index)
  | positionOutside (cursor : Cursor) (length : Nat) : TellsPlace (.positionOutside cursor length)
  | unassigned (cursor : Cursor) (offset : Int) : TellsPlace (.unassigned cursor offset)

theorem not_tellsPlace_of_unprintable {α : Type} {r : Except Error α}
    (h : r = .error .unprintable) : ¬ ∃ e : Error, e.TellsPlace ∧ r = .error e := by
  rintro ⟨e, htells, he⟩
  cases h.symm.trans he
  cases htells

/-! ## Changes -/

/-- What a change that succeeds makes of a corpus. -/
inductive Step (c : Corpus) : Edit → Corpus → Prop
  | add {words tags row} :
      tags.getD (List.replicate words.length none) = row → row.length = words.length →
      Step c (.add words tags) ⟨c.words ++ [words], c.tags ++ [row]⟩
  | assign {s i : Nat} {tag words row} :
      c.words[s]? = some words → i < words.length → c.tags[s]? = some row → i < row.length →
      Step c (.assign ⟨s, i⟩ tag) ⟨c.words, c.tags.set s (row.set i tag)⟩
  | clear {s : Nat} {words row} :
      c.words[s]? = some words → c.tags[s]? = some row →
      Step c (.clear s) ⟨c.words, c.tags.set s (List.replicate row.length none)⟩

theorem wordsOf_eq_ok_iff {c : Corpus} {s : Int} {words : List String} :
    c.wordsOf s = .ok words ↔ ∃ n : Nat, s = n ∧ c.words[n]? = some words := by
  rw [← slot?_eq_some_iff]
  unfold wordsOf
  cases slot? c.words s <;> simp

theorem step_of_add {c d : Corpus} {words : List String} {tags : Option (List (Option String))}
    (h : c.edit (.add words tags) = .ok d) : Step c (.add words tags) d := by
  cases tags with
  | none =>
      cases h
      exact .add rfl (by simp)
  | some row =>
      simp only [edit, add] at h
      split at h
      · rename_i hl
        cases h
        exact .add rfl hl
      · cases h

theorem step_of_assign {c d : Corpus} {h : Cursor} {tag : Option String}
    (he : c.edit (.assign h tag) = .ok d) : Step c (.assign h tag) d := by
  obtain ⟨s, i⟩ := h
  simp only [edit, assign] at he
  cases hw : c.wordsOf s with
  | error e => rw [hw] at he; cases he
  | ok words =>
      obtain ⟨n, rfl, hn⟩ := wordsOf_eq_ok_iff.mp hw
      rw [hw] at he
      simp only [bind, Except.bind, slot?_natCast, Int.toNat_natCast] at he
      split at he
      · rename_i hi
        obtain ⟨k, rfl⟩ := Int.eq_ofNat_of_zero_le hi.1
        split at he
        · cases he
        · rename_i row hr
          split at he
          · rename_i hk
            cases he
            exact .assign hn (by omega) hr (by omega)
          · cases he
      · cases he

theorem step_of_clear {c d : Corpus} {s : Int} (h : c.edit (.clear s) = .ok d) :
    Step c (.clear s) d := by
  simp only [edit, clear] at h
  cases hw : c.wordsOf s with
  | error e => rw [hw] at h; cases h
  | ok words =>
      obtain ⟨n, rfl, hn⟩ := wordsOf_eq_ok_iff.mp hw
      rw [hw] at h
      simp only [bind, Except.bind, slot?_natCast, Int.toNat_natCast] at h
      split at h
      · cases h
      · rename_i row hr
        cases h
        exact .clear hn hr

theorem step_of_edit {c d : Corpus} {change : Edit} (h : c.edit change = .ok d) :
    Step c change d := by
  cases change with
  | add words tags => exact step_of_add h
  | assign cursor tag => exact step_of_assign h
  | clear sentence => exact step_of_clear h

/-! ## The shape -/

/-- Every sentence has as many tags as words. -/
def Aligned (c : Corpus) : Prop := c.tags.map List.length = c.words.map List.length

theorem lengths_set {α : Type} {rows : List (List α)} {s : Nat} {row new : List α}
    (hr : rows[s]? = some row) (hl : new.length = row.length) :
    (rows.set s new).map List.length = rows.map List.length := by
  obtain ⟨hs, hrow⟩ := List.getElem?_eq_some_iff.mp hr
  rw [List.map_set, hl, ← hrow, ← List.getElem_map List.length]
  exact List.set_getElem_self (by simpa using hs)

theorem Step.aligned {c d : Corpus} {change : Edit} (h : Step c change d) (hc : c.Aligned) :
    d.Aligned := by
  unfold Aligned at hc ⊢
  cases h with
  | add _ hl => simp [hc, hl]
  | assign _ _ hr _ => rw [lengths_set hr (by simp), hc]
  | clear _ hr => rw [lengths_set hr (by simp), hc]

theorem aligned_empty : empty.Aligned := rfl

theorem attempt_eq (c : Corpus) (change : Edit) :
    (∃ d, Step c change d ∧ c.edit change = .ok d ∧ c.attempt change = d) ∨
      (∃ e, c.edit change = .error e ∧ c.attempt change = c) := by
  unfold attempt
  cases h : c.edit change with
  | ok d => exact Or.inl ⟨d, step_of_edit h, rfl, rfl⟩
  | error e => exact Or.inr ⟨e, rfl, rfl⟩

/-- What every change that succeeds keeps, a run keeps: changes that fail do nothing. -/
theorem run_induction {P : Corpus → Prop} {c : Corpus} (hc : P c)
    (hstep : ∀ {d e : Corpus} {change : Edit}, P d → Step d change e → P e) (changes : List Edit) :
    P (c.run changes) := by
  induction changes generalizing c with
  | nil => exact hc
  | cons change rest ih =>
      apply ih
      rcases attempt_eq c change with ⟨d, hd, _, ha⟩ | ⟨_, _, ha⟩
      · rw [ha]
        exact hstep hc hd
      · rw [ha]
        exact hc

theorem Aligned.run {c : Corpus} (hc : c.Aligned) (changes : List Edit) :
    (c.run changes).Aligned :=
  run_induction hc (fun hd h => h.aligned hd) changes

theorem Reachable.aligned {c : Corpus} (h : c.Reachable) : c.Aligned := by
  obtain ⟨changes, rfl⟩ := h
  exact aligned_empty.run changes

theorem Aligned.size_eq {c : Corpus} (hc : c.Aligned) : c.tags.length = c.words.length := by
  have := congrArg List.length hc
  simpa using this

/-- Beside the words of a sentence stand its tags. -/
theorem Aligned.tags_of_words {c : Corpus} (hc : c.Aligned) {s : Nat} {words : List String}
    (hw : c.words[s]? = some words) : ∃ row, c.tags[s]? = some row ∧ row.length = words.length := by
  have h := congrArg (fun lengths => lengths[s]?) hc
  simp only [List.getElem?_map, hw, Option.map_some, Option.map_eq_some_iff] at h
  exact h

theorem Aligned.row_of_wordsOf {c : Corpus} (hc : c.Aligned) {s : Int} {words : List String}
    (hw : c.wordsOf s = .ok words) :
    ∃ row, slot? c.tags s = some row ∧ row.length = words.length := by
  obtain ⟨n, rfl, hn⟩ := wordsOf_eq_ok_iff.mp hw
  rw [slot?_natCast]
  exact hc.tags_of_words hn

/-! ## Words stay -/

theorem Step.words_prefix {c d : Corpus} {change : Edit} (h : Step c change d) :
    c.words <+: d.words := by
  cases h with
  | add _ _ => exact List.prefix_append _ _
  | assign _ _ _ _ => exact List.prefix_rfl
  | clear _ _ => exact List.prefix_rfl

theorem words_prefix_run (c : Corpus) (changes : List Edit) :
    c.words <+: (c.run changes).words := by
  refine run_induction (P := fun d => c.words <+: d.words) List.prefix_rfl ?_ changes
  intro d e change hd h
  exact hd.trans h.words_prefix

/-- A sentence keeps its words, whatever is changed. -/
theorem wordsOf_run {c : Corpus} {s : Int} {words : List String} (h : c.wordsOf s = .ok words)
    (changes : List Edit) : (c.run changes).wordsOf s = .ok words := by
  obtain ⟨n, rfl, hn⟩ := wordsOf_eq_ok_iff.mp h
  obtain ⟨later, hlater⟩ := c.words_prefix_run changes
  obtain ⟨hlt, _⟩ := List.getElem?_eq_some_iff.mp hn
  refine wordsOf_eq_ok_iff.mpr ⟨n, rfl, ?_⟩
  rw [← hlater, List.getElem?_append_left hlt, hn]

/-! ## Reading -/

/-- The sentence is one of the corpus. -/
def Knows (c : Corpus) (s : Int) : Prop := 0 ≤ s ∧ s < c.size

/-- The position is one of the sentence. -/
def Inside (c : Corpus) (s i : Int) : Prop :=
  ∃ words, c.wordsOf s = .ok words ∧ 0 ≤ i ∧ i < words.length

/-- What is kept beside a position: a tag, or that it is missing. Outside the sentence there is
nothing. -/
def tagSlot? (c : Corpus) (s i : Int) : Option (Option String) :=
  (slot? c.tags s).bind fun row => slot? row i

/-- The position has a tag. -/
def Assigned (c : Corpus) (s i : Int) : Prop := ∃ tag, c.tagSlot? s i = some (some tag)

instance (c : Corpus) (s : Int) : Decidable (c.Knows s) :=
  inferInstanceAs (Decidable (_ ∧ _))

theorem Knows.words {c : Corpus} {s : Int} (h : c.Knows s) :
    ∃ (n : Nat) (words : List String), s = n ∧ c.words[n]? = some words := by
  obtain ⟨n, rfl⟩ := Int.eq_ofNat_of_zero_le h.1
  have hn : n < c.words.length := by simpa [size] using h.2
  exact ⟨n, _, rfl, List.getElem?_eq_getElem hn⟩

theorem wordsOf_of_not_knows {c : Corpus} {s : Int} (h : ¬ c.Knows s) :
    c.wordsOf s = .error (Error.unknownSentence s).reported := by
  unfold wordsOf
  rw [slot?_eq_none_iff.mpr h]

theorem not_knows_empty (s : Int) : ¬ empty.Knows s := by
  rintro ⟨h, hlt⟩
  exact absurd hlt (Int.not_lt.mpr h)

theorem wordsOf_eq_error_iff {c : Corpus} {s : Int} {e : Error} :
    c.wordsOf s = .error e ↔ ¬ c.Knows s ∧ e = (Error.unknownSentence s).reported := by
  constructor
  · intro h
    have hs : ¬ c.Knows s := by
      intro hs
      obtain ⟨n, words, hn, hw⟩ := hs.words
      rw [wordsOf_eq_ok_iff.mpr ⟨n, hn, hw⟩] at h
      cases h
    rw [wordsOf_of_not_knows hs] at h
    cases h
    exact ⟨hs, rfl⟩
  · rintro ⟨hs, rfl⟩
    exact wordsOf_of_not_knows hs

theorem wordAt_of_not_knows {c : Corpus} {s : Int} (h : ¬ c.Knows s) (p o : Int) :
    c.wordAt ⟨s, p⟩ o = .error (Error.unknownSentence s).reported := by
  simp only [wordAt, wordsOf_of_not_knows h, bind, Except.bind]

theorem tagAt_of_not_knows {c : Corpus} {s : Int} (h : ¬ c.Knows s) (p o : Int) :
    c.tagAt ⟨s, p⟩ o = .error (Error.unknownSentence s).reported := by
  simp only [tagAt, wordsOf_of_not_knows h, bind, Except.bind]

/-- A word of a known sentence, or the boundary beyond it, can always be read. -/
theorem wordAt_eq {c : Corpus} {s : Nat} {words : List String} (hw : c.words[s]? = some words)
    (p o : Int) : c.wordAt ⟨s, p⟩ o = .ok ((slot? words (p + o)).getD boundary) := by
  have hs : c.wordsOf s = .ok words := wordsOf_eq_ok_iff.mpr ⟨s, rfl, hw⟩
  simp only [wordAt, hs, bind, Except.bind, Cursor.at]

theorem exists_wordAt {c : Corpus} {h : Cursor} (hs : c.Knows h.sentence) :
    ∃ word : Int → String, ∀ o, c.wordAt h o = .ok (word o) := by
  obtain ⟨s, p⟩ := h
  obtain ⟨n, words, rfl, hw⟩ := hs.words
  exact ⟨_, fun o => wordAt_eq hw p o⟩

theorem wordAt_run {c : Corpus} {h : Cursor} (hs : c.Knows h.sentence) (changes : List Edit)
    (o : Int) : (c.run changes).wordAt h o = c.wordAt h o := by
  obtain ⟨n, words, hn, hw⟩ := hs.words
  have hwords : c.wordsOf h.sentence = .ok words := wordsOf_eq_ok_iff.mpr ⟨n, hn, hw⟩
  simp only [wordAt, hwords, wordsOf_run hwords changes]

theorem tagAt_eq_of_row {c : Corpus} {s : Nat} {words : List String} {row : List (Option String)}
    (hw : c.words[s]? = some words) (hr : c.tags[s]? = some row) (hl : row.length = words.length)
    (p o : Int) :
    c.tagAt ⟨s, p⟩ o =
      match slot? row (p + o) with
      | none => .ok boundary
      | some none => .error (Error.unassigned ⟨s, p⟩ o).reported
      | some (some tag) => .ok tag := by
  have hs : c.wordsOf s = .ok words := wordsOf_eq_ok_iff.mpr ⟨s, rfl, hw⟩
  simp only [tagAt, tagsOf, hs, bind, Except.bind, Cursor.at, slot?_natCast, hr]
  cases hp : slot? row (p + o) with
  | none => rw [(slot?_eq_none_congr hl).mp hp]
  | some entry =>
      have hn : slot? words (p + o) ≠ none := by
        rw [Ne, ← slot?_eq_none_congr hl, hp]
        simp
      obtain ⟨word, hword⟩ := Option.ne_none_iff_exists'.mp hn
      rw [hword]
      cases entry <;> rfl

/-- A read of a tag finds the entry at the position, and the boundary where there is none. -/
theorem tagAt_eq {c : Corpus} (hc : c.Aligned) {s : Int} (hs : c.Knows s) (p o : Int) :
    c.tagAt ⟨s, p⟩ o =
      match c.tagSlot? s (p + o) with
      | none => .ok boundary
      | some none => .error (Error.unassigned ⟨s, p⟩ o).reported
      | some (some tag) => .ok tag := by
  obtain ⟨n, words, rfl, hw⟩ := hs.words
  obtain ⟨row, hr, hl⟩ := hc.tags_of_words hw
  have he : c.tagSlot? n (p + o) = slot? row (p + o) := by simp [tagSlot?, hr]
  rw [tagAt_eq_of_row hw hr hl, he]

/-- A tag cannot be read for an unknown sentence, or where it is missing. -/
theorem tagAt_eq_error_iff {c : Corpus} (hc : c.Aligned) {h : Cursor} {o : Int} {e : Error} :
    c.tagAt h o = .error e ↔
      ¬ c.Knows h.sentence ∧ e = (Error.unknownSentence h.sentence).reported ∨
        c.Knows h.sentence ∧ c.tagSlot? h.sentence (h.position + o) = some none ∧
          e = (Error.unassigned h o).reported := by
  obtain ⟨s, p⟩ := h
  by_cases hs : c.Knows s
  · rw [tagAt_eq hc hs]
    rcases c.tagSlot? s (p + o) with _ | _ | tag <;> simp [hs, eq_comm]
  · rw [tagAt_of_not_knows hs]
    simp [hs, eq_comm]

theorem tagsOf_eq_error_iff {c : Corpus} (hc : c.Aligned) {s : Int} {e : Error} :
    c.tagsOf s = .error e ↔ ¬ c.Knows s ∧ e = (Error.unknownSentence s).reported := by
  rw [← wordsOf_eq_error_iff, tagsOf]
  cases hw : c.wordsOf s with
  | error e' => simp [bind, Except.bind]
  | ok words =>
      obtain ⟨row, hr, _⟩ := hc.row_of_wordsOf hw
      simp [bind, Except.bind, hr]

/-- A cursor and an offset say where to read by their sum only. -/
theorem wordAt_eq_of_add_eq (c : Corpus) {s p o p' o' : Int} (h : p' + o' = p + o) :
    c.wordAt ⟨s, p'⟩ o' = c.wordAt ⟨s, p⟩ o := by
  simp only [wordAt, Cursor.at, h]

theorem tagAt_toOption_eq_of_add_eq {c : Corpus} (hc : c.Aligned) {s p o p' o' : Int}
    (h : p' + o' = p + o) :
    (c.tagAt ⟨s, p'⟩ o').toOption = (c.tagAt ⟨s, p⟩ o).toOption := by
  by_cases hs : c.Knows s
  · rw [tagAt_eq hc hs, tagAt_eq hc hs, h]
    rcases c.tagSlot? s (p + o) with _ | _ | tag <;> rfl
  · rw [tagAt_of_not_knows hs, tagAt_of_not_knows hs]

/-- Just the positions inside a sentence have an entry. -/
theorem tagSlot?_eq_none_iff {c : Corpus} (hc : c.Aligned) {s i : Int} (hs : c.Knows s) :
    c.tagSlot? s i = none ↔ ¬ c.Inside s i := by
  obtain ⟨n, words, rfl, hw⟩ := hs.words
  obtain ⟨row, hr, hl⟩ := hc.tags_of_words hw
  have hws : c.wordsOf n = .ok words := wordsOf_eq_ok_iff.mpr ⟨n, rfl, hw⟩
  simp [tagSlot?, Inside, hr, hws, slot?_eq_none_iff, hl]

end TaggerFeatures.Corpus
