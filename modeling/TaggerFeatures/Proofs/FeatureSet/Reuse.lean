import TaggerFeatures.Proofs.FeatureSet.Partition

/-!
Keys that can be kept. No change of a corpus has an influence on keys that are made of words alone,
and what reads the current word only has one key for each word.
-/
namespace TaggerFeatures

namespace Template

variable {t : Template} {word : Int → String}

/-- What is declared local looks at no other word than the current one. -/
theorem text_of_isLocal (ht : t.isLocal = true) (tags : List String) :
    t.text word tags = t.text (fun _ => word 0) tags := by
  cases t with
  | word offset | lowercaseWord offset | wordShape offset shaper =>
      have h0 : offset = 0 := by simpa [isLocal] using ht
      rw [h0]
      rfl
  | capitalizedWord => rfl
  | _ => cases ht

end Template

namespace FeatureSet

variable {c d : Corpus} {h : Cursor}

/-- The keys that a word has by itself, each with the index of its template. -/
def keysOfWord (s : FeatureSet) (word : String) : List (Int × String) :=
  (s.templates.zipIdx.filter fun x => x.1.isLocal && !x.1.isDynamic).map fun x =>
    ((x.2 : Int), x.1.text (fun _ => word) [])

theorem keysAt_localIndices_eq (s : FeatureSet) {word : String} (hs : c.Knows h.sentence)
    (hword : c.wordAt h 0 = .ok word) :
    s.keysAt s.localIndices c h = .ok (s.keysOfWord word) := by
  obtain ⟨words, hw⟩ := Corpus.exists_wordAt hs
  have hcurrent : words 0 = word := by
    rw [hw] at hword
    exact Except.ok.inj hword
  apply keysAt_indices_eq_ok (v := fun t => t.text (fun _ => word) [])
  intro t _ ht
  have hlocal := (Bool.and_eq_true_iff.mp ht).1
  rw [Template.key_of_not_dynamic hw (eq_false_of_and_not ht), Template.text_of_isLocal hlocal,
    hcurrent]

/-- Corpora that agree on the words of the sentence give the same keys for a class of templates
that read no tags. -/
theorem keysAt_eq_of_words (s : FeatureSet) {p : Template → Bool}
    (hp : ∀ t, p t = true → t.isDynamic = false) (hs : c.Knows h.sentence)
    (hwords : ∀ o, d.wordAt h o = c.wordAt h o) :
    s.keysAt (s.indices p) d h = s.keysAt (s.indices p) c h := by
  obtain ⟨word, hw⟩ := Corpus.exists_wordAt hs
  have hw' : ∀ o, d.wordAt h o = .ok (word o) := fun o => (hwords o).trans (hw o)
  rw [keysAt_indices_eq_ok fun t _ ht => Template.key_of_not_dynamic hw (hp t ht),
    keysAt_indices_eq_ok fun t _ ht => Template.key_of_not_dynamic hw' (hp t ht)]

/-- Keys without tags stay what they are in every run of changes, and those of the current word
alone are the same wherever it stands. -/
theorem static_keys_reusable (s : FeatureSet) :
    (∀ (c : Corpus) (h : Cursor), c.Knows h.sentence →
      ∃ own neighbouring, ∀ changes : List Corpus.Edit,
        s.keysAt s.localIndices (c.run changes) h = .ok own ∧
          s.keysAt s.wordIndices (c.run changes) h = .ok neighbouring) ∧
    ∃ keysOf : String → List (Int × String),
      ∀ (c d : Corpus) (h h' : Cursor), c.Knows h.sentence → d.Knows h'.sentence →
        c.wordAt h 0 = d.wordAt h' 0 →
        ∃ word, c.wordAt h 0 = .ok word ∧
          s.keysAt s.localIndices c h = .ok (keysOf word) ∧
          s.keysAt s.localIndices d h' = .ok (keysOf word) := by
  constructor
  · intro c h hs
    obtain ⟨own, hown⟩ := (s.splitAgrees hs).local_keys
    obtain ⟨neighbouring, hneighbouring⟩ := (s.splitAgrees hs).word_keys
    refine ⟨own, neighbouring, ?_⟩
    intro changes
    have hwords := Corpus.wordAt_run hs changes
    constructor
    · rw [← hown]
      exact s.keysAt_eq_of_words (fun _ => eq_false_of_and_not) hs hwords
    · rw [← hneighbouring]
      exact s.keysAt_eq_of_words (fun _ => eq_false_of_and_not) hs hwords
  · refine ⟨s.keysOfWord, ?_⟩
    intro c d h h' hs hs' hsame
    obtain ⟨word, hw⟩ := Corpus.exists_wordAt hs
    have hword := hw 0
    exact ⟨word 0, hword, s.keysAt_localIndices_eq hs hword,
      s.keysAt_localIndices_eq hs' (hsame ▸ hword)⟩

/-- A word with an auxiliary before it, which no tag has been given to. -/
def auxiliaryBefore : Corpus := Corpus.empty.run [.add ["They", "have", "Ended"] none]

/-- The same word at the start of a tagged sentence. -/
def sameWordFirst : Corpus := Corpus.empty.run [.add ["Ended", "?"] (some [some "VBD", some "."])]

/-- Templates of the current word, of words before it, and of its tag. -/
def aroundParticiple : FeatureSet :=
  ⟨[.lowercaseWord 0, .word (-1), .tag 0, .wordShape 0 .chris2, .participle 2 .empty]⟩

theorem static_keys_reusable_participle :
    auxiliaryBefore.Knows 0 ∧ sameWordFirst.Knows 0 ∧
    auxiliaryBefore.wordAt ⟨0, 2⟩ 0 = sameWordFirst.wordAt ⟨0, 0⟩ 0 ∧
    aroundParticiple.keysAt aroundParticiple.wordIndices
      (auxiliaryBefore.run [.assign ⟨0, 1⟩ (some "VBP"), .assign ⟨0, 7⟩ (some "NN"), .clear 0,
        .add ["and"] (some []), .add ["and"] none]) ⟨0, 2⟩ = .ok [(1, "have"), (4, "1")] ∧
    aroundParticiple.keysAt aroundParticiple.localIndices sameWordFirst ⟨0, 0⟩ =
      aroundParticiple.keysAt aroundParticiple.localIndices auxiliaryBefore ⟨0, 2⟩ := by
  have hk : auxiliaryBefore.Knows 0 := by decide
  have hk' : sameWordFirst.Knows 0 := by decide
  have hsame : auxiliaryBefore.wordAt ⟨0, 2⟩ 0 = sameWordFirst.wordAt ⟨0, 0⟩ 0 := rfl
  obtain ⟨hstay, keysOf, honce⟩ := aroundParticiple.static_keys_reusable
  obtain ⟨own, neighbouring, hall⟩ := hstay auxiliaryBefore ⟨0, 2⟩ hk
  have hnow : aroundParticiple.keysAt aroundParticiple.wordIndices auxiliaryBefore ⟨0, 2⟩ =
      .ok [(1, "have"), (4, "1")] := by
    decide +kernel
  have hkept := (hall []).2.symm.trans hnow
  obtain ⟨word, -, hfirst, hsecond⟩ := honce _ _ ⟨0, 2⟩ ⟨0, 0⟩ hk hk' hsame
  exact ⟨hk, hk', hsame, (hall _).2.trans hkept, hsecond.trans hfirst.symm⟩

end FeatureSet
end TaggerFeatures
