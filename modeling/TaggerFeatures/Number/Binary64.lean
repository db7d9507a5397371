/-!
Floating-point numbers of 64 bits: reading a decimal to the nearest one, sums and products rounded
the same way, and dropping the fraction.
-/
namespace TaggerFeatures

/-- Not a number, an infinity, or ± `mantissa` · 2 ^ `exponent`. -/
inductive Binary64
  | nan
  | infinity (negative : Bool)
  | finite (negative : Bool) (mantissa : Nat) (exponent : Int)
deriving DecidableEq, Repr

namespace Binary64

/-- The exponent of the least numbers above zero. -/
def leastExponent : Int := -1074

/-- The exponent of the greatest finite numbers. -/
def greatestExponent : Int := 971

/-- Two to the 52nd: the least mantissa of a number that is not among the least ones. -/
def hidden : Nat := Nat.pow 2 52

def zero (negative : Bool) : Binary64 := .finite negative 0 leastExponent

/-- The quotient rounded to the nearest natural number, a half to the even neighbour. -/
def divRound (numerator denominator : Nat) : Nat :=
  let q := numerator / denominator
  let r := numerator % denominator
  if 2 * r < denominator then q
  else if denominator < 2 * r then q + 1
  else if q % 2 = 0 then q else q + 1

/-- The quotient of `numerator` and `denominator` · 2 ^ `e`, rounded to the nearest number. -/
def scaledRound (numerator denominator : Nat) (e : Int) : Nat :=
  if 0 ≤ e then divRound numerator (denominator * Nat.pow 2 e.toNat)
  else divRound (numerator * Nat.pow 2 (-e).toNat) denominator

/-- The greatest `e` with `2 ^ e ≤ numerator / denominator`, of two positive numbers. -/
def binaryExponent (numerator denominator : Nat) : Int :=
  let e : Int := numerator.log2 - denominator.log2
  let fits := if 0 ≤ e then denominator * Nat.pow 2 e.toNat ≤ numerator
    else denominator ≤ numerator * Nat.pow 2 (-e).toNat
  if fits then e else e - 1

/-- The number nearest to a quotient; a quotient beyond the greatest number gives infinity. -/
def ofRatio (negative : Bool) (numerator denominator : Nat) : Binary64 :=
  if numerator = 0 then zero negative else
    let e := max leastExponent (binaryExponent numerator denominator - 52)
    let m := scaledRound numerator denominator e
    let (m, e) := if m = 2 * hidden then (hidden, e + 1) else (m, e)
    if greatestExponent < e then .infinity negative else .finite negative m e

/-- The number nearest to `digits` · 10 ^ `exponent`. -/
def ofDecimal (negative : Bool) (digits : Nat) (exponent : Int) : Binary64 :=
  let size : Int := (Nat.toDigits 10 digits).length + exponent
  if digits = 0 then zero negative
  else if 310 < size then .infinity negative
  else if size < -330 then zero negative
  else if 0 ≤ exponent then ofRatio negative (digits * Nat.pow 10 exponent.toNat) 1
  else ofRatio negative digits (Nat.pow 10 (-exponent).toNat)

def ofInt (n : Int) : Binary64 := ofRatio (n < 0) n.natAbs 1

def neg : Binary64 → Binary64
  | nan => nan
  | infinity negative => infinity !negative
  | finite negative m e => finite (!negative) m e

/-- A mantissa with its sign, counted in units of 2 ^ `unit`, which is at most its exponent. -/
def inUnits (unit : Int) (negative : Bool) (m : Nat) (e : Int) : Int :=
  let n : Int := m * Nat.pow 2 (e - unit).toNat
  if negative then -n else n

/-- The number nearest to `n` · 2 ^ `unit`. -/
def ofUnits (n : Int) (unit : Int) : Binary64 :=
  if 0 ≤ unit then ofRatio (n < 0) (n.natAbs * Nat.pow 2 unit.toNat) 1
  else ofRatio (n < 0) n.natAbs (Nat.pow 2 (-unit).toNat)

def add : Binary64 → Binary64 → Binary64
  | nan, _ => nan
  | _, nan => nan
  | infinity a, infinity b => if a = b then infinity a else nan
  | infinity a, _ => infinity a
  | _, infinity b => infinity b
  | finite a m e, finite b n f =>
    let unit := min e f
    if a && b && m == 0 && n == 0 then zero true
    else ofUnits (inUnits unit a m e + inUnits unit b n f) unit

def mul : Binary64 → Binary64 → Binary64
  | nan, _ => nan
  | _, nan => nan
  | infinity a, infinity b => infinity (a != b)
  | infinity a, finite b n _ => if n = 0 then nan else infinity (a != b)
  | finite a m _, infinity b => if m = 0 then nan else infinity (a != b)
  | finite a m e, finite b n f =>
    if 0 ≤ e + f then ofRatio (a != b) (m * n * Nat.pow 2 (e + f).toNat) 1
    else ofRatio (a != b) (m * n) (Nat.pow 2 (-(e + f)).toNat)

/-- The integer that is left when the fraction of ± `m` · 2 ^ `e` is dropped. -/
def truncate (negative : Bool) (m : Nat) (e : Int) : Int :=
  let n : Nat := if 0 ≤ e then m * Nat.pow 2 e.toNat else m / Nat.pow 2 (-e).toNat
  if negative then -n else n

/-- The integer of the same value, if there is one. -/
def toInt? : Binary64 → Option Int
  | finite negative m e =>
    let n := truncate negative m e
    if 0 ≤ e || m % Nat.pow 2 (-e).toNat == 0 then some n else none
  | _ => none

end TaggerFeatures.Binary64
