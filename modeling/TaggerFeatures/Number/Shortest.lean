import TaggerFeatures.Number.Binary64

/-!
The fewest decimal digits that read back as the same floating-point number; of those the nearest.
-/
namespace TaggerFeatures.Binary64

/-- The decimal number `digits` · 10 ^ `exponent`. -/
structure Decimal where
  digits : Nat
  exponent : Int
deriving DecidableEq, Repr

namespace Decimal

/-- The numbers `a` · 10 ^ `k` and `b` · 2 ^ `q`, both multiplied by powers to make them natural. -/
def align (a : Nat) (k : Int) (b : Nat) (q : Int) : Nat × Nat :=
  (a * Nat.pow 10 k.toNat * Nat.pow 2 (-q).toNat, b * Nat.pow 2 q.toNat * Nat.pow 10 (-k).toNat)

/-- Whether `a` · 10 ^ `k` reads back as `m` · 2 ^ `q`. It does between the middles to the
neighbouring numbers, and on a middle if `m` is even. -/
def readsBack (m : Nat) (q : Int) (a : Nat) (k : Int) : Bool :=
  let below := if m = hidden ∧ leastExponent < q then 1 else 2
  let (x, low) := align a k (4 * m - below) (q - 2)
  let (y, high) := align a k (4 * m + 2) (q - 2)
  if m % 2 = 0 then low ≤ x && y ≤ high else low < x && y < high

/-- The greatest `a` with `a` · 10 ^ `k` ≤ `m` · 2 ^ `q`. -/
def gridBelow (m : Nat) (q : Int) (k : Int) : Nat :=
  m * Nat.pow 2 q.toNat * Nat.pow 10 (-k).toNat / (Nat.pow 10 k.toNat * Nat.pow 2 (-q).toNat)

/-- Whether `a` · 10 ^ `k` is nearer to `m` · 2 ^ `q` than `(a + 1)` · 10 ^ `k` is; a tie goes to
the even one. -/
def lowerIsNearer (m : Nat) (q : Int) (a : Nat) (k : Int) : Bool :=
  let (x, v) := align (2 * a + 1) k (2 * m) q
  v < x || (v == x && a % 2 == 0)

/-- The point of the grid of 10 ^ `k` that reads back as `m` · 2 ^ `q`, the nearer of two. -/
def onGrid? (m : Nat) (q : Int) (k : Int) : Option Nat :=
  let a := gridBelow m q k
  match readsBack m q a k, readsBack m q (a + 1) k with
  | true, true => some (if lowerIsNearer m q a k then a else a + 1)
  | true, false => some a
  | false, true => some (a + 1)
  | false, false => none

/-- The least `p` from `guess` on, in `fuel` steps, with `m` · 2 ^ `q` < 10 ^ `p`. -/
def magnitudeFrom (m : Nat) (q : Int) : (fuel : Nat) → (guess : Int) → Int
  | 0, p => p
  | fuel + 1, p =>
    let (x, v) := align 1 p m q
    if v < x then p else magnitudeFrom m q fuel (p + 1)

/-- The least `p` with `m` · 2 ^ `q` < 10 ^ `p`. -/
def magnitude (m : Nat) (q : Int) : Int :=
  let bits : Int := m.log2 + q
  magnitudeFrom m q 8 (Int.fdiv (bits * 30103) 100000 - 2)

/-- Tries ever finer grids, from one digit on. -/
def finer (m : Nat) (q p : Int) : (tries : Nat) → (size : Nat) → Decimal
  | 0, size => ⟨gridBelow m q (p - size), p - size⟩
  | tries + 1, size =>
    match onGrid? m q (p - size) with
    | some a => ⟨a, p - size⟩
    | none => finer m q p tries (size + 1)

/-- The shortest decimal of `m` · 2 ^ `q`, where `m` is positive. -/
def shortest (m : Nat) (q : Int) : Decimal := finer m q (magnitude m q) 17 1

end Decimal
end TaggerFeatures.Binary64
