/-! Numerals in decimal digits, and the limit on how long one may be. -/
namespace TaggerFeatures

/-- The longest numeral that is read, counted in digits with leading zeros. -/
def Numeral.maxDigits : Nat := 4300

/-- A numeral above the limit, with its number of digits. -/
structure Numeral.TooLong where
  digits : Nat
deriving DecidableEq, Repr

/-- The text reported for a numeral above the limit. -/
def Numeral.TooLong.message (e : Numeral.TooLong) : String :=
  "Exceeds the limit (" ++ toString Numeral.maxDigits ++
    " digits) for integer string conversion: value has " ++ toString e.digits ++
    " digits; use sys.set_int_max_str_digits() to increase the limit"

/-- The text reported for an integer with more digits than are written. -/
def Numeral.unprintable : String :=
  "Exceeds the limit (" ++ toString Numeral.maxDigits ++
    " digits) for integer string conversion; use sys.set_int_max_str_digits() to increase the limit"

/-- The integer has no more digits than are read and written. -/
def Numeral.Readable (n : Int) : Prop := (Nat.toDigits 10 n.natAbs).length ≤ Numeral.maxDigits

instance : DecidablePred Numeral.Readable := fun _ => inferInstanceAs (Decidable (_ ≤ _))

/-- The digits of an integer behind its sign, unless there are more than the limit. -/
def Numeral.print? (n : Int) : Option String :=
  if Numeral.Readable n then some (toString n) else none

/-- A sign and the digits after it. -/
structure Numeral where
  negative : Bool
  digits : List Char
deriving DecidableEq, Repr

namespace Numeral

/-- One of the ten digits `0` to `9`. -/
def isDigit (c : Char) : Bool := '0' ≤ c && c ≤ '9'

def digitValue (c : Char) : Nat := c.toNat - '0'.toNat

def ofDigits (digits : List Char) : Nat :=
  digits.foldl (fun n c => 10 * n + digitValue c) 0

/-- Reads an optional sign and at least one digit, and nothing else. -/
def ofChars? (s : List Char) : Option Numeral :=
  let (negative, digits) := match s with
    | '-' :: r => (true, r)
    | '+' :: r => (false, r)
    | r => (false, r)
  if !digits.isEmpty && digits.all isDigit then some ⟨negative, digits⟩ else none

/-- The integer denoted, unless the numeral is above the limit. -/
def value (n : Numeral) : Except TooLong Int :=
  if n.digits.length ≤ maxDigits then
    .ok (if n.negative then -(ofDigits n.digits : Int) else ofDigits n.digits)
  else .error ⟨n.digits.length⟩

end TaggerFeatures.Numeral
