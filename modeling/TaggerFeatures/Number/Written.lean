import TaggerFeatures.Number.Shortest

/-!
The written form of floating-point numbers: with all places while the first digit stands for
10 ^ −4 to 10 ^ 15, otherwise with an exponent of at least two digits.
-/
namespace TaggerFeatures.Binary64

/-- The digits of a number and the place of the point behind the first `point` of them; zeros at
the end are dropped. -/
def significant (d : Decimal) : List Char × Int :=
  let digits := Nat.toDigits 10 d.digits
  ((digits.reverse.dropWhile (· == '0')).reverse, d.exponent + digits.length)

/-- All places, with at least one on either side of the point. -/
def positional (digits : List Char) (point : Int) : List Char :=
  let whole := if point ≤ 0 then ['0']
    else digits.take point.toNat ++ List.replicate (point.toNat - digits.length) '0'
  let fraction := List.replicate (-point).toNat '0' ++ digits.drop point.toNat
  whole ++ '.' :: (if fraction.isEmpty then ['0'] else fraction)

/-- One digit, the others behind a point, and the exponent with its sign. -/
def scientific (digits : List Char) (point : Int) : List Char :=
  let x := point - 1
  let exponent := Nat.toDigits 10 x.natAbs
  let fraction := if digits.length ≤ 1 then [] else '.' :: digits.drop 1
  digits.take 1 ++ fraction ++ 'e' :: (if x < 0 then '-' else '+') ::
    (List.replicate (2 - exponent.length) '0' ++ exponent)

def written : Binary64 → String
  | nan => "nan"
  | infinity negative => if negative then "-inf" else "inf"
  | finite negative m e =>
    let digits := if m = 0 then ['0', '.', '0'] else
      let (ds, point) := significant (Decimal.shortest m e)
      if -4 < point ∧ point ≤ 16 then positional ds point else scientific ds point
    String.ofList (if negative then '-' :: digits else digits)

end TaggerFeatures.Binary64
