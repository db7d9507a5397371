import TaggerFeatures.Unicode.Category

/-!
Text in quotation marks. The marks are single ones, unless the text holds single ones and no double
ones; characters without a visible form are escaped by their number.
-/
namespace TaggerFeatures.Text.Quoted

/-- A hexadecimal digit in lower case. -/
def hexDigit (n : Nat) : Char :=
  if n < 10 then Char.ofNat ('0'.toNat + n) else Char.ofNat ('a'.toNat + (n - 10))

/-- The lowest `width` hexadecimal digits of a number. -/
def hex : (width : Nat) → Nat → List Char
  | 0, _ => []
  | width + 1, n => hex width (n / 16) ++ [hexDigit (n % 16)]

/-- The written form of one character between marks of the kind `mark`. -/
def encodeChar (mark c : Char) : List Char :=
  if c = mark ∨ c = '\\' then ['\\', c]
  else if c = '\t' then ['\\', 't']
  else if c = '\n' then ['\\', 'n']
  else if c = '\r' then ['\\', 'r']
  else if Unicode.Category.isPrintable c then [c]
  else if c.toNat ≤ 0xFF then '\\' :: 'x' :: hex 2 c.toNat
  else if c.toNat ≤ 0xFFFF then '\\' :: 'u' :: hex 4 c.toNat
  else '\\' :: 'U' :: hex 8 c.toNat

/-- The mark that a text is put between. -/
def mark (s : List Char) : Char :=
  if s.contains '\'' && !s.contains '"' then '"' else '\''

def encode (s : List Char) : List Char :=
  mark s :: s.flatMap (encodeChar (mark s)) ++ [mark s]

end Quoted

def quoted (s : String) : String := String.ofList (Quoted.encode s.toList)

/-- Bytes between quotation marks behind a `b`; those without a visible form in ASCII are escaped. -/
def quotedBytes (bytes : List UInt8) : String :=
  let s := bytes.map fun b => Char.ofNat b.toNat
  let mark := Quoted.mark s
  let encodeByte (c : Char) : List Char :=
    if c.toNat < 0x7F then Quoted.encodeChar mark c else '\\' :: 'x' :: Quoted.hex 2 c.toNat
  String.ofList ('b' :: mark :: s.flatMap encodeByte ++ [mark])

/-- How much of a text between quotation marks a short report shows. -/
def briefLength : Nat := 200

/-- The start of a text between quotation marks. -/
def quotedBrief (s : String) : String :=
  String.ofList ((Quoted.encode s.toList).take briefLength)

end TaggerFeatures.Text
