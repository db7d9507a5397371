import TaggerFeatures.Unicode.Category

/-! Digits and their values. -/
namespace TaggerFeatures.Unicode.Digit

/-- Digits that take no part in decimal notation: superscripts, circled digits and the like. -/
def other : CodePoints where
  runs := [
    (0xB2, 0xB3), (0xB9, 0xB9), (0x1369, 0x1371), (0x19DA, 0x19DA), (0x2070, 0x2070),
    (0x2074, 0x2079), (0x2080, 0x2089), (0x2460, 0x2468), (0x2474, 0x247C), (0x2488, 0x2490),
    (0x24EA, 0x24EA), (0x24F5, 0x24FD), (0x24FF, 0x24FF), (0x2776, 0x277E), (0x2780, 0x2788),
    (0x278A, 0x2792), (0x10A40, 0x10A43), (0x10E60, 0x10E68), (0x11052, 0x1105A),
    (0x1F100, 0x1F10A)]

/-- Whether a character is a digit, decimal or other. -/
def isDigit (c : Char) : Bool :=
  Category.Numeric.decimalNumber.contains c || other.contains c

/-- The value of a decimal digit. The decimal digits stand in rows of ten, zero first. -/
def decimalValue? (c : Char) : Option Nat :=
  (Category.Numeric.decimalNumber.runs.find? fun (first, last) =>
    first ≤ c.toNat && c.toNat ≤ last).map fun (first, _) => (c.toNat - first) % 10

end TaggerFeatures.Unicode.Digit
