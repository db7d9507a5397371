import TaggerFeatures.Proofs.Corpus.Shape

/-!
A corpus is a map of last writes. A read finds the word that its sentence was added with and the
tag that the last successful change of its position gave, whatever failed in between.
-/
namespace TaggerFeatures.Corpus

/-! ## What successful changes leave -/

/-- The changes that succeed, in order. -/
def taken (c : Corpus) : List Edit → List Edit
  | [] => []
  | change :: rest =>
    match c.edit change with
    | .ok changed => change :: taken changed rest
    | .error _ => taken c rest

/-- The words of a sentence that a change adds. -/
def Edit.added? : Edit → Option (List String)
  | .add words _ => some words
  | _ => none

/-- The sentences that changes add, in order. -/
def added (changes : List Edit) : List (List String) := changes.filterMap Edit.added?

/-- What a change gives to a position of a sentence, a tag or that it is missing, when there are
`count` sentences before it; nothing if it does not touch the position. -/
def Edit.gives (count : Nat) (s i : Nat) : Edit → Option (Option String)
  | .add words tags =>
    if s = count ∧ i < words.length then some (tags.bind fun row => row[i]?).join else none
  | .assign cursor tag => if cursor = ⟨s, i⟩ then some tag else none
  | .clear sentence => if sentence = s then some none else none

/-- What the last of the changes that touch a position gives to it, when there are `count`
sentences before them. -/
def lastGiven (s i : Nat) : (count : Nat) → List Edit → Option (Option String)
  | _, [] => none
  | count, change :: rest =>
    (lastGiven s i (count + (added [change]).length) rest).or (change.gives count s i)

theorem added_append (log later : List Edit) : added (log ++ later) = added log ++ added later :=
  List.filterMap_append

theorem lastGiven_concat (s i count : Nat) (log : List Edit) (change : Edit) :
    lastGiven s i count (log ++ [change]) =
      (change.gives (count + (added log).length) s i).or (lastGiven s i count log) := by
  induction log generalizing count with
  | nil => simp [lastGiven, added]
  | cons first rest ih =>
      have hl : (added (first :: rest)).length = (added [first]).length + (added rest).length := by
        rw [← List.length_append, ← added_append, List.singleton_append]
      rw [List.cons_append, lastGiven, ih, lastGiven, Option.or_assoc, hl, Nat.add_assoc]

/-! ## The corpus against its log -/

/-- A corpus holds just what a log of successful changes left. -/
structure Records (log : List Edit) (c : Corpus) : Prop where
  aligned : c.Aligned
  words : c.words = added log
  tags : ∀ (s i : Nat) (row : List (Option String)) (tag : Option String),
    c.tags[s]? = some row → row[i]? = some tag → lastGiven s i 0 log = some tag

theorem records_empty : Records [] empty where
  aligned := aligned_empty
  words := rfl
  tags := by simp [empty]

theorem getElem?_of_set {α : Type} {xs : List α} {n s : Nat} {new x : α}
    (h : (xs.set n new)[s]? = some x) : n = s ∧ new = x ∨ n ≠ s ∧ xs[s]? = some x := by
  rw [List.getElem?_set] at h
  split at h
  · rename_i hns
    split at h
    · cases h
      exact Or.inl ⟨hns, rfl⟩
    · cases h
  · rename_i hns
    exact Or.inr ⟨hns, h⟩

/-- The entry of an added sentence is the tag it was given with, missing if there was none. -/
theorem given_of_row {tags : Option (List (Option String))} {n i : Nat}
    {row : List (Option String)} {tag : Option String}
    (hrow : tags.getD (List.replicate n none) = row) (hi : row[i]? = some tag) :
    (tags.bind fun row => row[i]?).join = tag := by
  cases tags with
  | none =>
      subst hrow
      obtain ⟨_, ht⟩ := List.getElem?_eq_some_iff.mp hi
      simpa using ht
  | some given =>
      have hg : given = row := hrow
      simp [hg, hi]

theorem Records.tags_add {log : List Edit} {c : Corpus} {words : List String}
    {tags : Option (List (Option String))} {new : List (Option String)} (h : Records log c)
    (hnew : tags.getD (List.replicate words.length none) = new) (hl : new.length = words.length)
    {s i : Nat} {row : List (Option String)} {tag : Option String}
    (hs : (c.tags ++ [new])[s]? = some row) (hi : row[i]? = some tag) :
    ((Edit.add words tags).gives c.words.length s i).or (lastGiven s i 0 log) = some tag := by
  have hsize := h.aligned.size_eq
  by_cases hlt : s < c.tags.length
  · rw [List.getElem?_append_left hlt] at hs
    have hne : ¬ (s = c.words.length ∧ i < words.length) := by omega
    rw [Edit.gives, if_neg hne, Option.none_or]
    exact h.tags s i row tag hs hi
  · rw [List.getElem?_append_right (by omega), List.getElem?_singleton] at hs
    split at hs
    · rename_i h0
      cases hs
      obtain ⟨hilt, _⟩ := List.getElem?_eq_some_iff.mp hi
      rw [Edit.gives, if_pos ⟨by omega, by omega⟩, given_of_row hnew hi]
      rfl
    · cases hs

theorem Records.tags_assign {log : List Edit} {c : Corpus} {n k : Nat} {new : Option String}
    {old : List (Option String)} (h : Records log c) (hr : c.tags[n]? = some old)
    {s i : Nat} {row : List (Option String)} {tag : Option String}
    (hs : (c.tags.set n (old.set k new))[s]? = some row) (hi : row[i]? = some tag) :
    ((Edit.assign ⟨n, k⟩ new).gives c.words.length s i).or (lastGiven s i 0 log) = some tag := by
  rcases getElem?_of_set hs with ⟨rfl, rfl⟩ | ⟨hns, hs⟩
  · rcases getElem?_of_set hi with ⟨rfl, rfl⟩ | ⟨hki, hi⟩
    · simp [Edit.gives]
    · have hne : ¬ ((⟨n, k⟩ : Cursor) = ⟨n, i⟩) := by
        simp only [Cursor.mk.injEq]
        omega
      rw [Edit.gives, if_neg hne, Option.none_or]
      exact h.tags n i old tag hr hi
  · have hne : ¬ ((⟨n, k⟩ : Cursor) = ⟨s, i⟩) := by
      simp only [Cursor.mk.injEq]
      omega
    rw [Edit.gives, if_neg hne, Option.none_or]
    exact h.tags s i row tag hs hi

theorem Records.tags_clear {log : List Edit} {c : Corpus} {n : Nat} {old : List (Option String)}
    (h : Records log c) {s i : Nat} {row : List (Option String)} {tag : Option String}
    (hs : (c.tags.set n (List.replicate old.length none))[s]? = some row)
    (hi : row[i]? = some tag) :
    ((Edit.clear n).gives c.words.length s i).or (lastGiven s i 0 log) = some tag := by
  rcases getElem?_of_set hs with ⟨rfl, rfl⟩ | ⟨hns, hs⟩
  · obtain ⟨_, ht⟩ := List.getElem?_eq_some_iff.mp hi
    rw [List.getElem_replicate] at ht
    simp [Edit.gives, ht]
  · have hne : ¬ ((n : Int) = s) := by omega
    rw [Edit.gives, if_neg hne, Option.none_or]
    exact h.tags s i row tag hs hi

/-- One change that succeeds keeps the record. -/
theorem Records.step {log : List Edit} {c d : Corpus} {change : Edit} (h : Records log c)
    (hd : Step c change d) : Records (log ++ [change]) d where
  aligned := hd.aligned h.aligned
  words := by
    rw [added_append, ← h.words]
    cases hd <;> simp [added, Edit.added?]
  tags := by
    intro s i row tag hs hi
    rw [lastGiven_concat, Nat.zero_add, ← h.words]
    cases hd with
    | add hnew hl => exact h.tags_add hnew hl hs hi
    | assign _ _ hr _ => exact h.tags_assign hr hs hi
    | clear _ _ => exact h.tags_clear hs hi

/-- A run keeps the record: changes that fail leave no trace in the corpus or in its log. -/
theorem Records.run {log : List Edit} {c : Corpus} (h : Records log c) (changes : List Edit) :
    Records (log ++ c.taken changes) (c.run changes) := by
  -- The log grows at its end while the run goes on, so the induction is over all logs.
  induction changes generalizing log c with
  | nil => simpa [taken, Corpus.run] using h
  | cons change rest ih =>
      have hrun : c.run (change :: rest) = (c.attempt change).run rest := rfl
      rcases attempt_eq c change with ⟨d, hd, he, ha⟩ | ⟨e, he, ha⟩
      · have htaken : c.taken (change :: rest) = change :: d.taken rest := by simp only [taken, he]
        rw [hrun, ha, htaken, ← List.singleton_append, ← List.append_assoc]
        exact ih (h.step hd)
      · have htaken : c.taken (change :: rest) = c.taken rest := by simp only [taken, he]
        rw [hrun, ha, htaken]
        exact ih h

-- A position of −1 is no position, so the second change fails.
example : (empty.run [.add ["the", "cat"] none, .assign ⟨0, -1⟩ (some "NN"),
    .assign ⟨0, 0⟩ (some "DT")]).tagAt ⟨0, 1⟩ (-1) = .ok "DT" := by rfl

end TaggerFeatures.Corpus
