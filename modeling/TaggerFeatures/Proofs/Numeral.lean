import Mathlib.Data.List.Induction
import Mathlib.Data.Nat.Digits.Defs
import TaggerFeatures.Number.Numeral
import TaggerFeatures.Text.Blank

/-! Integers in decimal digits are read as what they were written for. -/
namespace TaggerFeatures.Numeral

/-! ## Digits -/

variable {digits : List Char}

theorem ofChars?_digits (hne : digits ≠ []) (hd : ∀ c ∈ digits, isDigit c = true) :
    ofChars? digits = some ⟨false, digits⟩ := by
  have hall : digits.all isDigit = true := List.all_eq_true.mpr hd
  cases digits with
  | nil => exact absurd rfl hne
  | cons c cs =>
      -- A sign is no digit.
      have hsign : ∀ sign, isDigit sign = false → c ≠ sign := by
        rintro sign hs rfl
        rw [hd c List.mem_cons_self] at hs
        cases hs
      have hminus := hsign '-' (by decide)
      have hplus := hsign '+' (by decide)
      simp [ofChars?, hminus, hplus, hall]

theorem ofChars?_minus_digits (hne : digits ≠ []) (hd : ∀ c ∈ digits, isDigit c = true) :
    ofChars? ('-' :: digits) = some ⟨true, digits⟩ := by
  have hall : digits.all isDigit = true := List.all_eq_true.mpr hd
  simp [ofChars?, hne, hall]

theorem ofChars?_plus_digits (hne : digits ≠ []) (hd : ∀ c ∈ digits, isDigit c = true) :
    ofChars? ('+' :: digits) = some ⟨false, digits⟩ := by
  have hall : digits.all isDigit = true := List.all_eq_true.mpr hd
  simp [ofChars?, hne, hall]

theorem isDigit_of_mem_toDigits {n : Nat} {c : Char} (h : c ∈ Nat.toDigits 10 n) :
    isDigit c = true :=
  Nat.isDigit_of_mem_toDigits (by decide) (by decide) h

theorem ofDigits_toDigits (n : Nat) : ofDigits (Nat.toDigits 10 n) = n :=
  Nat.ofDigitChars_toDigits (by decide) (by decide)

/-! ## Numerals -/

/-- The texts of a numeral: at least one digit, behind its sign; a plus may be left out. -/
inductive Writes : Numeral → List Char → Prop
  | plain {ds : List Char} : ds ≠ [] → (∀ c ∈ ds, isDigit c = true) → Writes ⟨false, ds⟩ ds
  | plus {ds : List Char} : ds ≠ [] → (∀ c ∈ ds, isDigit c = true) →
      Writes ⟨false, ds⟩ ('+' :: ds)
  | minus {ds : List Char} : ds ≠ [] → (∀ c ∈ ds, isDigit c = true) →
      Writes ⟨true, ds⟩ ('-' :: ds)

theorem ofChars?_eq_some_iff {s : List Char} {n : Numeral} : ofChars? s = some n ↔ n.Writes s := by
  constructor
  · intro h
    unfold ofChars? at h
    split at h
    rename_i negative ds hsign
    split at h
    · rename_i hdigits
      obtain rfl := Option.some.inj h
      simp only [Bool.and_eq_true, Bool.not_eq_true', List.isEmpty_eq_false_iff,
        List.all_eq_true] at hdigits
      obtain ⟨hne, hd⟩ := hdigits
      split at hsign
      · cases hsign
        exact .minus hne hd
      · cases hsign
        exact .plus hne hd
      · cases hsign
        exact .plain hne hd
    · cases h
  · rintro (⟨hne, hd⟩ | ⟨hne, hd⟩ | ⟨hne, hd⟩)
    · exact ofChars?_digits hne hd
    · exact ofChars?_plus_digits hne hd
    · exact ofChars?_minus_digits hne hd

/-- The integer that a numeral denotes in decimal notation. -/
def toInt (n : Numeral) : Int :=
  let magnitude : Nat := Nat.ofDigits 10 (n.digits.reverse.map digitValue)
  if n.negative then -magnitude else magnitude

/-- Values of digits, read from the left. -/
theorem foldl_values (values : List Nat) :
    values.foldl (fun n d => 10 * n + d) 0 = Nat.ofDigits 10 values.reverse := by
  induction values using List.reverseRecOn with
  | nil => rfl
  | append_singleton values d ih =>
      rw [List.foldl_append, ih, List.reverse_append, List.reverse_singleton,
        List.singleton_append, Nat.ofDigits_cons]
      exact Nat.add_comm _ _

theorem ofDigits_eq (digits : List Char) :
    ofDigits digits = Nat.ofDigits 10 (digits.reverse.map digitValue) := by
  rw [ofDigits, ← List.foldl_map, foldl_values, List.map_reverse]

theorem toInt_toDigits (i : Int) : toInt ⟨decide (i < 0), Nat.toDigits 10 i.natAbs⟩ = i := by
  rw [toInt, ← ofDigits_eq, ofDigits_toDigits]
  simp only [decide_eq_true_eq]
  omega

theorem value_eq_ok_iff {n : Numeral} {i : Int} :
    n.value = .ok i ↔ n.digits.length ≤ maxDigits ∧ n.toInt = i := by
  unfold value
  split
  · rename_i hle
    simp [hle, toInt, ofDigits_eq]
  · rename_i hgt
    simp [hgt]

/-! ## Integers -/

theorem readable_iff {n : Int} : Readable n ↔ n.natAbs < 10 ^ maxDigits :=
  Nat.length_toDigits_le_iff (by decide) (by decide)

/-- The least number that has too many digits. -/
def limit : Nat := 10 ^ 4300

/-- The integer has more than 4300 digits. -/
def Wide (n : Int) : Prop := limit ≤ n.natAbs

theorem wide_iff {n : Int} : Wide n ↔ ¬ Readable n := by
  rw [Wide, limit, readable_iff, Nat.not_lt, maxDigits]

theorem not_wide_iff {n : Int} : ¬ Wide n ↔ Readable n := by
  rw [wide_iff, not_not]

theorem ten_pow_le_limit {digits : Nat} (h : digits ≤ maxDigits) : 10 ^ digits ≤ limit := by
  have hpow : 10 ^ digits ≤ 10 ^ maxDigits := Nat.pow_le_pow_right (by decide) h
  rwa [maxDigits] at hpow

theorem limit_pos : 0 < limit := by
  have hle : 10 ^ 0 ≤ limit := ten_pow_le_limit (Nat.zero_le _)
  exact hle

theorem not_wide_of_lt {n : Int} {digits : Nat} (hd : digits ≤ maxDigits)
    (h : n.natAbs < 10 ^ digits) : ¬ Wide n :=
  Nat.not_le.mpr (Nat.lt_of_lt_of_le h (ten_pow_le_limit hd))

theorem wide_limit : Wide limit := by
  rw [Wide, Int.natAbs_natCast]

theorem toList_toString (n : Int) :
    (toString n).toList = (if n < 0 then ['-'] else []) ++ Nat.toDigits 10 n.natAbs := by
  rw [Int.toString_eq_repr]
  cases n with
  | ofNat m => simp [Int.repr]
  | negSucc m => simp [Int.repr]

theorem ofChars?_toString (n : Int) :
    ofChars? (toString n).toList = some ⟨decide (n < 0), Nat.toDigits 10 n.natAbs⟩ := by
  rw [toList_toString]
  split
  · rename_i hn
    rw [decide_eq_true hn, List.singleton_append,
      ofChars?_minus_digits Nat.toDigits_ne_nil fun _ => isDigit_of_mem_toDigits]
  · rename_i hn
    rw [decide_eq_false hn, List.nil_append,
      ofChars?_digits Nat.toDigits_ne_nil fun _ => isDigit_of_mem_toDigits]

theorem value_of_readable {n : Int} (h : Readable n) :
    value ⟨decide (n < 0), Nat.toDigits 10 n.natAbs⟩ = .ok n :=
  value_eq_ok_iff.mpr ⟨h, toInt_toDigits n⟩

/-! ## The characters of an integer -/

theorem mem_toString {n : Int} {ch : Char} (h : ch ∈ (toString n).toList) :
    ch = '-' ∨ isDigit ch = true := by
  rw [toList_toString, List.mem_append] at h
  rcases h with hsign | hdigit
  · split at hsign
    · exact Or.inl (List.mem_singleton.mp hsign)
    · cases hsign
  · exact Or.inr (isDigit_of_mem_toDigits hdigit)

theorem isBlank_of_isDigit {c : Char} (h : isDigit c = true) : Text.isBlank c = false := by
  simp only [isDigit, Bool.and_eq_true, decide_eq_true_eq, Char.le_def] at h
  have hlow : 48 ≤ c.toNat := h.1
  have hhigh : c.toNat ≤ 57 := h.2
  simp only [Text.isBlank, Bool.or_eq_false_iff, Bool.and_eq_false_iff, decide_eq_false_iff_not,
    beq_eq_false_iff_ne]
  omega

theorem isBlank_of_mem_toString {n : Int} {ch : Char} (h : ch ∈ (toString n).toList) :
    Text.isBlank ch = false := by
  rcases mem_toString h with rfl | hdigit
  · rfl
  · exact isBlank_of_isDigit hdigit

theorem not_mem_toString {n : Int} {ch : Char} (hsign : ch ≠ '-')
    (hdigit : isDigit ch = false) : ch ∉ (toString n).toList := by
  intro h
  rcases mem_toString h with rfl | hd
  · exact hsign rfl
  · rw [hdigit] at hd
    cases hd

end TaggerFeatures.Numeral
