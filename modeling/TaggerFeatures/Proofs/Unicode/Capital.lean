import Mathlib.Logic.Basic
import TaggerFeatures.Proofs.Unicode.CodePoints
import TaggerFeatures.Unicode.Lowercase

/-!
Capitals and lower case. A text is its own lower case just if none of its characters has a lower
case. All that have one are capitals, but not all capitals have one: those among the letterlike,
the mathematical and the enclosed characters stay as they are.
-/
namespace TaggerFeatures.Unicode

/-- Whether a character is a capital, or a digraph that begins with one. -/
def isCapital (c : Char) : Bool := isUppercase c || isTitlecase c

namespace Lowercase

/-! ## Characters with a lower case -/

/-- The characters that have a lower case. -/
def paired : CodePoints where
  runs := (0x130, 0x130) :: runs.map fun (first, last, _) => (first, last)
  everySecond := everySecond.map fun (first, last, _) => (first, last)

/-- No run stays where it is. -/
theorem images_moved : ∀ entry ∈ runs ++ everySecond, entry.1 ≠ entry.2.2 := by
  decide +kernel

theorem has_paired_iff {n : Nat} (hn : n ≠ 0x130) :
    paired.has n = true ↔
      (∃ entry ∈ runs, entry.1 ≤ n ∧ n ≤ entry.2.1) ∨
        ∃ entry ∈ everySecond, (entry.1 ≤ n ∧ n ≤ entry.2.1) ∧ (n - entry.1) % 2 = 0 := by
  have hi : ¬ (0x130 ≤ n ∧ n ≤ 0x130) := by omega
  simp [paired, CodePoints.has, hi]

/-- Just the characters of the table are moved. -/
theorem codePoint_ne_iff {n : Nat} (hn : n ≠ 0x130) : codePoint n ≠ n ↔ paired.has n = true := by
  have hmoved : ∀ entry ∈ runs ++ everySecond, entry.1 ≤ n → entry.2.2 + (n - entry.1) ≠ n := by
    intro entry hentry hfirst
    have hne := images_moved entry hentry
    omega
  rw [has_paired_iff hn]
  unfold codePoint
  split
  · rename_i hfind
    have hmem := List.mem_of_find?_eq_some hfind
    have hrange := List.find?_some hfind
    simp only [Bool.and_eq_true, decide_eq_true_eq] at hrange
    exact iff_of_true (hmoved _ (List.mem_append_left _ hmem) hrange.1) (Or.inl ⟨_, hmem, hrange⟩)
  · rename_i hruns
    split
    · rename_i hfind
      have hmem := List.mem_of_find?_eq_some hfind
      have hrange := List.find?_some hfind
      simp only [Bool.and_eq_true, decide_eq_true_eq, beq_iff_eq] at hrange
      exact iff_of_true (hmoved _ (List.mem_append_right _ hmem) hrange.1.1)
        (Or.inr ⟨_, hmem, hrange⟩)
    · rename_i hsecond
      refine iff_of_false (fun h => h rfl) ?_
      rintro (⟨entry, hmem, hrange⟩ | ⟨entry, hmem, hrange⟩)
      · exact List.find?_eq_none.mp hruns entry hmem (by simpa using hrange)
      · exact List.find?_eq_none.mp hsecond entry hmem (by simpa using hrange)

theorem ofChar_eq_iff (c : Char) : ofChar c = [c] ↔ paired.contains c = false := by
  by_cases hi : c = '\u0130'
  · subst hi
    decide
  · have hn : c.toNat ≠ 0x130 := fun h => hi (Char.toNat_inj.mp h)
    have hsame : Char.ofNat (codePoint c.toNat) = c ↔ codePoint c.toNat = c.toNat := by
      constructor
      · intro h
        by_cases hvalid : (codePoint c.toNat).isValidChar
        · rw [Char.ofNat, dif_pos hvalid] at h
          exact congrArg Char.toNat h
        · rw [Char.ofNat, dif_neg hvalid] at h
          subst h
          decide
      · intro h
        rw [h, Char.ofNat_toNat]
    rw [ofChar, if_neg hi, List.singleton_inj, hsame, CodePoints.contains, ← Bool.not_eq_true,
      ← codePoint_ne_iff hn, not_not]

/-! ## Texts -/

theorem behind_eq_self_iff (before cs : List Char) :
    behind before cs = cs ↔ ∀ c ∈ cs, ofChar c = [c] := by
  induction cs generalizing before with
  | nil => simp [behind]
  | cons c cs ih =>
      rw [behind, List.forall_mem_cons, ← ih (c :: before)]
      split
      · rename_i hfinal
        obtain ⟨rfl, -⟩ := hfinal
        have hsigma : ofChar 'Σ' ≠ ['Σ'] := by decide
        simp [hsigma]
      · by_cases hi : c = '\u0130'
        · simp [ofChar, hi]
        · simp [ofChar, hi]

end Lowercase

theorem lowercase_eq_self_iff (cs : List Char) :
    lowercase cs = cs ↔ ∀ c ∈ cs, Lowercase.paired.contains c = false := by
  simp only [lowercase, Lowercase.behind_eq_self_iff, Lowercase.ofChar_eq_iff]

/-! ## Capitals -/

/-- The capitals that have no lower case. -/
def unpairedCapitals : CodePoints where
  runs := [
    (0x3D2, 0x3D4), (0x2102, 0x2102), (0x2107, 0x2107), (0x210B, 0x210D), (0x2110, 0x2112),
    (0x2115, 0x2115), (0x2119, 0x211D), (0x2124, 0x2124), (0x2128, 0x2128), (0x212C, 0x212D),
    (0x2130, 0x2131), (0x2133, 0x2133), (0x213E, 0x213F), (0x2145, 0x2145), (0x1D400, 0x1D419),
    (0x1D434, 0x1D44D), (0x1D468, 0x1D481), (0x1D49C, 0x1D49C), (0x1D49E, 0x1D49F),
    (0x1D4A2, 0x1D4A2), (0x1D4A5, 0x1D4A6), (0x1D4A9, 0x1D4AC), (0x1D4AE, 0x1D4B5),
    (0x1D4D0, 0x1D4E9), (0x1D504, 0x1D505), (0x1D507, 0x1D50A), (0x1D50D, 0x1D514),
    (0x1D516, 0x1D51C), (0x1D538, 0x1D539), (0x1D53B, 0x1D53E), (0x1D540, 0x1D544),
    (0x1D546, 0x1D546), (0x1D54A, 0x1D550), (0x1D56C, 0x1D585), (0x1D5A0, 0x1D5B9),
    (0x1D5D4, 0x1D5ED), (0x1D608, 0x1D621), (0x1D63C, 0x1D655), (0x1D670, 0x1D689),
    (0x1D6A8, 0x1D6C0), (0x1D6E2, 0x1D6FA), (0x1D71C, 0x1D734), (0x1D756, 0x1D76E),
    (0x1D790, 0x1D7A8), (0x1D7CA, 0x1D7CA), (0x1F130, 0x1F149), (0x1F150, 0x1F169),
    (0x1F170, 0x1F189)]

open Category.Letter in
theorem bits_capitals :
    uppercaseLetter.bits ||| otherUppercase.bits ||| titlecaseLetter.bits =
      Lowercase.paired.bits ||| unpairedCapitals.bits := by
  decide +kernel

theorem bits_disjoint : Lowercase.paired.bits &&& unpairedCapitals.bits = 0 := by
  decide +kernel

theorem isCapital_eq (c : Char) :
    isCapital c = (Lowercase.paired.contains c || unpairedCapitals.contains c) := by
  have hbit := congrArg (Nat.testBit · c.toNat) bits_capitals
  simp only [Nat.testBit_or, CodePoints.testBit_bits] at hbit
  exact hbit

theorem paired_iff (c : Char) :
    Lowercase.paired.contains c = true ↔
      isCapital c = true ∧ unpairedCapitals.contains c = false := by
  have hbit := congrArg (Nat.testBit · c.toNat) bits_disjoint
  simp only [Nat.testBit_and, CodePoints.testBit_bits, Nat.zero_testBit] at hbit
  change (Lowercase.paired.contains c && unpairedCapitals.contains c) = false at hbit
  rw [isCapital_eq]
  constructor
  · intro hpaired
    rw [hpaired, Bool.true_and] at hbit
    exact ⟨by rw [hpaired, Bool.true_or], hbit⟩
  · rintro ⟨hcapital, hunpaired⟩
    rwa [hunpaired, Bool.or_false] at hcapital

end TaggerFeatures.Unicode
