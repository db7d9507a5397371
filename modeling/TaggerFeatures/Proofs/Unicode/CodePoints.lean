import TaggerFeatures.Unicode.CodePoints

/-!
Sets of code points as the bits of a number. Two tables are compared at all code points at once by
the numbers that they make.
-/
namespace TaggerFeatures.Unicode.CodePoints

variable {first last n : Nat}

/-- The bits from a first to a last one. -/
def runBits (first last : Nat) : Nat := (1 <<< (last + 1 - first) - 1) <<< first

theorem testBit_runBits :
    (runBits first last).testBit n = (decide (first ≤ n) && decide (n ≤ last)) := by
  rw [runBits, Nat.testBit_shiftLeft, Nat.one_shiftLeft, Nat.testBit_two_pow_sub_one]
  by_cases hfirst : first ≤ n
  · have hlast : n - first < last + 1 - first ↔ n ≤ last := by omega
    simp [hfirst, hlast]
  · simp [hfirst]

/-- As many bits as `count`, at the even places from the lowest on. -/
def evenBits : (count : Nat) → Nat
  | 0 => 0
  | count + 1 => 1 ||| evenBits count <<< 2

theorem testBit_evenBits (count : Nat) :
    (evenBits count).testBit n = (decide (n < 2 * count) && n % 2 == 0) := by
  induction count generalizing n with
  | zero => simp [evenBits]
  | succ count ih =>
      rw [evenBits, Nat.testBit_or, Nat.testBit_shiftLeft, ih]
      match n with
      | 0 => simp
      | 1 => simp [Nat.testBit_add_one]
      | n + 2 =>
          have hbound : n < 2 * count ↔ n + 2 < 2 * (count + 1) := by omega
          simp [hbound, Nat.testBit_add_one]

/-- The bits from a first to a last one, every second one. -/
def everySecondBits (first last : Nat) : Nat := evenBits ((last + 2 - first) / 2) <<< first

theorem testBit_everySecondBits :
    (everySecondBits first last).testBit n =
      (decide (first ≤ n) && decide (n ≤ last) && (n - first) % 2 == 0) := by
  rw [everySecondBits, Nat.testBit_shiftLeft, testBit_evenBits]
  by_cases hfirst : first ≤ n
  · by_cases heven : (n - first) % 2 = 0
    · have hlast : n - first < 2 * ((last + 2 - first) / 2) ↔ n ≤ last := by omega
      simp [hfirst, heven, hlast]
    · rw [beq_eq_false_iff_ne.mpr heven]
      simp only [Bool.and_false]
  · simp [hfirst]

/-- The code points of a set as bits. -/
def bits (s : CodePoints) : Nat :=
  s.runs.foldr (fun run rest => runBits run.1 run.2 ||| rest) 0 |||
    s.everySecond.foldr (fun run rest => everySecondBits run.1 run.2 ||| rest) 0

theorem testBit_foldr (f : Nat × Nat → Nat) (runs : List (Nat × Nat)) :
    (runs.foldr (fun run rest => f run ||| rest) 0).testBit n =
      runs.any fun run => (f run).testBit n := by
  induction runs with
  | nil => simp
  | cons run rest ih => rw [List.foldr_cons, Nat.testBit_or, ih, List.any_cons]

theorem testBit_bits (s : CodePoints) (n : Nat) : s.bits.testBit n = s.has n := by
  rw [bits, Nat.testBit_or, testBit_foldr, testBit_foldr]
  simp only [testBit_runBits, testBit_everySecondBits]
  rfl

end TaggerFeatures.Unicode.CodePoints
