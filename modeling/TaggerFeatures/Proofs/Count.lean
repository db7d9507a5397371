import TaggerFeatures.Number.Count
import TaggerFeatures.Proofs.Numeral
import TaggerFeatures.Proofs.Template.OneLine

/-!
Counts that are texts. Just those are read that spell an integer: a sign or none, then digits of any
script with single underscores between them, and blanks around.
-/
namespace TaggerFeatures.RawCount
open Unicode.Digit Unicode.Lowercase

/-! ## Digits and blanks -/

/-- No decimal digit of the table is blank. -/
theorem digits_not_blank : ∀ digits ∈ Unicode.Category.Numeric.decimalNumber.runs,
    ∀ run ∈ blanks, digits.2 < run.1 ∨ run.2 < digits.1 := by
  decide +kernel

theorem isBlank_of_decimalValue? {c : Char} {d : Nat} (h : decimalValue? c = some d) :
    Text.isBlank c = false := by
  obtain ⟨digits, hfind, _⟩ := Option.map_eq_some_iff.mp h
  have hdigits := List.mem_of_find?_eq_some hfind
  have hrange := List.find?_some hfind
  simp only [Bool.and_eq_true, decide_eq_true_eq] at hrange
  by_contra hb
  obtain ⟨run, hrun, hlow, hhigh⟩ := isBlank_iff.mp (by simpa using hb)
  have hclear := digits_not_blank digits hdigits run hrun
  omega

theorem isNumeralBlank_of_decimalValue? {c : Char} {d : Nat} (h : decimalValue? c = some d) :
    isNumeralBlank c = false := by
  rw [isNumeralBlank, isBlank_of_decimalValue? h, Bool.false_and]

theorem not_digit_of_isNumeralBlank {c : Char} (h : isNumeralBlank c = true) :
    decimalValue? c = none ∧ c ≠ '_' := by
  constructor
  · by_contra hdigit
    obtain ⟨d, hd⟩ := Option.ne_none_iff_exists'.mp hdigit
    rw [isNumeralBlank_of_decimalValue? hd] at h
    cases h
  · rintro rfl
    cases h

theorem ne_of_decimalValue? {c x : Char} {d : Nat} (h : decimalValue? c = some d)
    (hx : decimalValue? x = none) : c ≠ x := by
  rintro rfl
  rw [h] at hx
  cases hx

/-- Digits of any script, with single underscores between them, and their values. -/
inductive DigitRun : List Nat → List Char → Prop
  | last {c : Char} {d : Nat} : decimalValue? c = some d → DigitRun [d] [c]
  | digit {c : Char} {d : Nat} {ds : List Nat} {s : List Char} : decimalValue? c = some d →
      DigitRun ds s → DigitRun (d :: ds) (c :: s)
  | underscore {c : Char} {d : Nat} {ds : List Nat} {s : List Char} : decimalValue? c = some d →
      DigitRun ds s → DigitRun (d :: ds) (c :: '_' :: s)

variable {ds : List Nat} {run rest s : List Char}

theorem DigitRun.exists_cons (h : DigitRun ds run) :
    ∃ c d r, run = c :: r ∧ decimalValue? c = some d := by
  cases h with
  | last hc | digit hc _ | underscore hc _ => exact ⟨_, _, _, rfl, hc⟩

theorem digitRun_sound (h : digitRun s = some (ds, rest)) :
    ∃ run, DigitRun ds run ∧ s = run ++ rest := by
  fun_induction digitRun s generalizing ds rest with
  | case1 => cases h
  | case2 c cs hc => cases h
  | case3 c d hd =>
      cases h
      exact ⟨[c], .last hd, rfl⟩
  | case4 c d hd r ih =>
      obtain ⟨⟨ds', rest'⟩, hr, he⟩ := Option.map_eq_some_iff.mp h
      cases he
      obtain ⟨run, hrun, rfl⟩ := ih hr
      exact ⟨_, .underscore hd hrun, rfl⟩
  | case5 c d hd x r hx hdigit ih =>
      obtain ⟨⟨ds', rest'⟩, hr, he⟩ := Option.map_eq_some_iff.mp h
      cases he
      obtain ⟨run, hrun, hxr⟩ := ih hr
      exact ⟨c :: run, .digit hd hrun, by rw [hxr, List.cons_append]⟩
  | case6 c d hd x r hx hdigit =>
      cases h
      exact ⟨[c], .last hd, rfl⟩

theorem digitRun_digit {c x : Char} {d d' : Nat} {r : List Char} (hc : decimalValue? c = some d)
    (hx : decimalValue? x = some d') :
    digitRun (c :: x :: r) = (digitRun (x :: r)).map fun (ds, rest) => (d :: ds, rest) := by
  have hne : x ≠ '_' := ne_of_decimalValue? hx (by decide)
  have hdigit : (decimalValue? x).isSome = true := by rw [hx]; rfl
  rw [digitRun, hc]
  simp only [hdigit, if_true]

/-- A run is read to its end if neither an underscore nor another digit follows. -/
theorem DigitRun.digitRun_append (h : DigitRun ds run)
    (hrest : ∀ c ∈ rest.head?, decimalValue? c = none ∧ c ≠ '_') :
    digitRun (run ++ rest) = some (ds, rest) := by
  induction h with
  | @last c d hc =>
      cases rest with
      | nil => simp [digitRun, hc]
      | cons x r =>
          obtain ⟨hx, hne⟩ := hrest x rfl
          simp [digitRun, hc, hx]
  | @digit c d ds s hc hrun ih =>
      -- What follows a digit is read by its own first character, which is a digit again.
      obtain ⟨x, d', r, rfl, hx⟩ := hrun.exists_cons
      rw [List.cons_append] at ih
      rw [List.cons_append, List.cons_append, digitRun_digit hc hx, ih]
      rfl
  | @underscore c d ds s hc _ ih => simp [digitRun, hc, ih]

/-! ## Numerals -/

/-- A sign or none; a minus makes the numeral negative. -/
inductive Sign : Bool → List Char → Prop
  | none : Sign false []
  | plus : Sign false ['+']
  | minus : Sign true ['-']

theorem Sign.dropWhile_blank {negative : Bool} {sign : List Char} {c : Char}
    (h : Sign negative sign) (hc : isNumeralBlank c = false) (s : List Char) :
    (sign ++ c :: s).dropWhile isNumeralBlank = sign ++ c :: s := by
  cases h with
  | none => exact List.dropWhile_cons_of_neg (by simp [hc])
  | plus | minus => rfl

/-- The text is a numeral for the integer, and has no more digits than are read. -/
inductive Spells : List Char → Int → Prop
  | intro {before sign run after : List Char} {negative : Bool} {ds : List Nat} :
      (∀ c ∈ before, isNumeralBlank c = true) → Sign negative sign → DigitRun ds run →
      ds.length ≤ Numeral.maxDigits → (∀ c ∈ after, isNumeralBlank c = true) →
      Spells (before ++ (sign ++ (run ++ after)))
        (if negative then -(Nat.ofDigits 10 ds.reverse : Nat)
          else (Nat.ofDigits 10 ds.reverse : Nat))

theorem readNumeral_sound {text : String} {n : Int} (h : readNumeral text = .ok n) :
    Spells text.toList n := by
  unfold readNumeral at h
  split at h
  rename_i negative s hsign
  split at h
  · cases h
  rename_i ds after hds
  split at h
  · cases h
  rename_i hlength
  split at h
  case isFalse => cases h
  rename_i hafter
  obtain rfl := Except.ok.inj h
  obtain ⟨run, hrun, hs⟩ := digitRun_sound hds
  have hsigned : ∃ sign, Sign negative sign ∧
      text.toList.dropWhile isNumeralBlank = sign ++ s := by
    split at hsign
    · rename_i hd
      cases hsign
      exact ⟨_, .minus, hd⟩
    · rename_i hd
      cases hsign
      exact ⟨_, .plus, hd⟩
    · cases hsign
      exact ⟨_, .none, rfl⟩
  obtain ⟨sign, hsign, hd⟩ := hsigned
  have hbefore : ∀ c ∈ text.toList.takeWhile isNumeralBlank, isNumeralBlank c = true :=
    fun c hc => List.mem_takeWhile_imp hc
  have htext := List.takeWhile_append_dropWhile (p := isNumeralBlank) (l := text.toList)
  rw [hd, hs] at htext
  rw [← htext, Numeral.foldl_values]
  exact .intro hbefore hsign hrun (Nat.le_of_not_lt hlength) (List.all_eq_true.mp hafter)

theorem Spells.readNumeral_eq_ok {text : String} {n : Int} (h : Spells text.toList n) :
    readNumeral text = .ok n := by
  generalize htext : text.toList = s at h
  cases h with
  | @intro before sign run after negative ds hbefore hsign hrun hlength hafter =>
      -- Blanks are neither digits nor underscores, so they end the run.
      have hdigits : digitRun (run ++ after) = some (ds, after) :=
        hrun.digitRun_append fun x hx =>
          not_digit_of_isNumeralBlank (hafter x (List.mem_of_mem_head? hx))
      obtain ⟨c, d, r, rfl, hc⟩ := hrun.exists_cons
      have hdrop : text.toList.dropWhile isNumeralBlank = sign ++ c :: (r ++ after) := by
        rw [htext, List.dropWhile_append_of_pos hbefore]
        exact hsign.dropWhile_blank (isNumeralBlank_of_decimalValue? hc) _
      have hminus : c ≠ '-' := ne_of_decimalValue? hc (by decide)
      have hplus : c ≠ '+' := ne_of_decimalValue? hc (by decide)
      have hle : ¬ Numeral.maxDigits < ds.length := Nat.not_lt.mpr hlength
      rw [List.cons_append] at hdigits
      cases hsign <;>
        simpa [readNumeral, hdrop, hminus, hplus, hdigits, hle, Numeral.foldl_values] using hafter

theorem readNumeral_eq_ok_iff {text : String} {n : Int} :
    readNumeral text = .ok n ↔ Spells text.toList n :=
  ⟨readNumeral_sound, Spells.readNumeral_eq_ok⟩

end TaggerFeatures.RawCount
