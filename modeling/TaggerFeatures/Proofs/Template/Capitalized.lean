import TaggerFeatures.Proofs.Template.Key
import TaggerFeatures.Proofs.Unicode.Capital

/-!
Words with a capital. A word is its own key if one of its capitals has a lower case, and the key is
`0` otherwise. So the key tells whether the word has a capital, except where none of its capitals
has a lower case.
-/
namespace TaggerFeatures.Template
open Unicode

variable {c : Corpus} {h : Cursor} {word : String}

def HasCapital (word : String) : Prop := ∃ x ∈ word.toList, isCapital x = true

/-- One of the capitals of the word has a lower case. -/
def HasPairedCapital (word : String) : Prop :=
  ∃ x ∈ word.toList, isCapital x = true ∧ unpairedCapitals.contains x = false

instance : DecidablePred HasCapital := fun word => List.decidableBEx _ word.toList

instance : DecidablePred HasPairedCapital := fun word => List.decidableBEx _ word.toList

theorem HasPairedCapital.hasCapital (h : HasPairedCapital word) : HasCapital word := by
  obtain ⟨x, hx, hcapital, _⟩ := h
  exact ⟨x, hx, hcapital⟩

theorem lowercase_ne_iff : lowercase word.toList ≠ word.toList ↔ HasPairedCapital word := by
  simp only [ne_eq, lowercase_eq_self_iff, HasPairedCapital, ← paired_iff, not_forall,
    Bool.not_eq_false, exists_prop]

/-- The current word is the key if it has a capital, and the key is `0` if it has none. -/
def CapitalsKept (c : Corpus) (h : Cursor) : Prop :=
  ∃ word, c.wordAt h 0 = .ok word ∧
    (HasCapital word → capitalizedWord.key c h = .ok word) ∧
    (¬ HasCapital word → capitalizedWord.key c h = .ok "0")

/-- The key is the current word if one of its capitals has a lower case, and `0` otherwise. Lost are
just the words that have capitals, but none with a lower case. -/
theorem capitalizedWord_exact (hs : c.Knows h.sentence) :
    ∃ word, c.wordAt h 0 = .ok word ∧
      (HasPairedCapital word → capitalizedWord.key c h = .ok word) ∧
      (¬ HasPairedCapital word → capitalizedWord.key c h = .ok "0") ∧
      (CapitalsKept c h ↔ (HasCapital word → HasPairedCapital word)) := by
  obtain ⟨words, hw⟩ := Corpus.exists_wordAt hs
  have hkey : capitalizedWord.key c h =
      .ok (if lowercase (words 0).toList = (words 0).toList then "0" else words 0) :=
    key_of_not_dynamic hw rfl
  have hkept : HasPairedCapital (words 0) → capitalizedWord.key c h = .ok (words 0) := by
    intro hpaired
    rw [hkey, if_neg (lowercase_ne_iff.mpr hpaired)]
  have hzero : ¬ HasPairedCapital (words 0) → capitalizedWord.key c h = .ok "0" := by
    intro hnone
    rw [hkey, if_pos (not_not.mp (mt lowercase_ne_iff.mp hnone))]
  refine ⟨words 0, hw 0, hkept, hzero, ?_, ?_⟩
  · rintro ⟨word, hword, hcapital, -⟩ hhas
    obtain rfl : words 0 = word := Except.ok.inj ((hw 0).symm.trans hword)
    by_contra hnone
    -- A word with a capital is not the text `0`.
    have heq : words 0 = "0" := Except.ok.inj ((hcapital hhas).symm.trans (hzero hnone))
    exact absurd (heq ▸ hhas) (by decide)
  · intro himp
    exact ⟨words 0, hw 0, fun hhas => hkept (himp hhas),
      fun hnone => hzero (mt HasPairedCapital.hasCapital hnone)⟩

/-- A capital that has no lower case, alone and beside others. -/
def blackboard : Corpus := Corpus.empty.run [.add ["ℝ", "Reℝ"] none]

theorem wordAt_blackboard :
    blackboard.wordAt ⟨0, 0⟩ 0 = .ok "ℝ" ∧ blackboard.wordAt ⟨0, 1⟩ 0 = .ok "Reℝ" := ⟨rfl, rfl⟩

theorem capitalizedWord_exact_blackboard :
    blackboard.Knows 0 ∧
      capitalizedWord.key blackboard ⟨0, 0⟩ = .ok "0" ∧ ¬ CapitalsKept blackboard ⟨0, 0⟩ ∧
      capitalizedWord.key blackboard ⟨0, 1⟩ = .ok "Reℝ" ∧ CapitalsKept blackboard ⟨0, 1⟩ := by
  have hs : blackboard.Knows 0 := by decide
  obtain ⟨w, hw, -, hzero, hkept⟩ := capitalizedWord_exact (h := ⟨0, 0⟩) hs
  obtain rfl : "ℝ" = w := Except.ok.inj (wordAt_blackboard.1.symm.trans hw)
  obtain ⟨v, hv, hself, -, hkept'⟩ := capitalizedWord_exact (h := ⟨0, 1⟩) hs
  obtain rfl : "Reℝ" = v := Except.ok.inj (wordAt_blackboard.2.symm.trans hv)
  have hnone : HasCapital "ℝ" ∧ ¬ HasPairedCapital "ℝ" := by decide +kernel
  have hpaired : HasPairedCapital "Reℝ" := by decide +kernel
  exact ⟨hs, hzero hnone.2, fun h => hnone.2 (hkept.mp h hnone.1), hself hpaired,
    hkept'.mpr fun _ => hpaired⟩

/-- Not every word with a capital is its key: the letter `ℝ` is a capital with no lower case. -/
theorem not_forall_capitalsKept :
    ¬ ∀ (c : Corpus) (h : Cursor), c.Knows h.sentence → CapitalsKept c h := by
  intro hall
  obtain ⟨word, hword, hcapital, -⟩ := hall blackboard ⟨0, 0⟩ (by decide)
  obtain rfl : "ℝ" = word := Except.ok.inj (wordAt_blackboard.1.symm.trans hword)
  have hkey : capitalizedWord.key blackboard ⟨0, 0⟩ = .ok "0" := by decide +kernel
  rw [hkey] at hcapital
  exact absurd (hcapital (by decide +kernel)) (by decide)

end TaggerFeatures.Template
