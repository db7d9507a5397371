import TaggerFeatures.Number.Binary64
import TaggerFeatures.Number.Numeral
import TaggerFeatures.Text.Blank
import TaggerFeatures.Text.Quoted
import TaggerFeatures.Unicode.Digit

/-!
Counts as dictionaries give them, and the integers that they stand for. Fractions are dropped, truth
values count as 0 and 1, and a text is read as a numeral in the digits of any script.
-/
namespace TaggerFeatures

/-- A count as given. -/
inductive RawCount
  | integer (n : Int)
  | boolean (b : Bool)
  | real (x : Binary64)
  | text (s : String)
  | null
  | list
  | object
deriving DecidableEq, Repr

namespace RawCount

inductive Error
  | notANumber
  | infinite
  | notANumeral (text : String)
  | tooLong (error : Numeral.TooLong)
  | wrongKind (kind : String)
deriving DecidableEq, Repr

/-- The text reported for a count that is no integer. -/
def Error.message : Error → String
  | notANumber => "cannot convert float NaN to integer"
  | infinite => "cannot convert float infinity to integer"
  | notANumeral s => "invalid literal for int() with base 10: " ++ Text.quotedBrief s
  | tooLong error => error.message
  | wrongKind kind =>
    "int() argument must be a string, a bytes-like object or a real number, not '" ++ kind ++ "'"

/-- Blanks around a numeral; the information separators are none. -/
def isNumeralBlank (c : Char) : Bool :=
  Text.isBlank c && !(0x1C ≤ c.toNat && c.toNat ≤ 0x1F)

/-- The longest run of digits with single underscores between them, and the rest. Nothing is read
from a run that starts or ends with an underscore or has two in a row. -/
def digitRun : List Char → Option (List Nat × List Char)
  | [] => none
  | c :: cs =>
    match Unicode.Digit.decimalValue? c with
    | none => none
    | some d =>
      match cs with
      | [] => some ([d], [])
      | '_' :: r => (digitRun r).map fun (ds, rest) => (d :: ds, rest)
      | x :: r =>
        if (Unicode.Digit.decimalValue? x).isSome then
          (digitRun (x :: r)).map fun (ds, rest) => (d :: ds, rest)
        else some ([d], x :: r)

/-- Reads a numeral in the digits of any script: blanks around it, one sign, single underscores
between digits. A run above the limit is reported even if other text follows it. -/
def readNumeral (s : String) : Except Error Int :=
  let (negative, rest) := match s.toList.dropWhile isNumeralBlank with
    | '-' :: r => (true, r)
    | '+' :: r => (false, r)
    | r => (false, r)
  match digitRun rest with
  | none => .error (.notANumeral s)
  | some (digits, rest) =>
    if Numeral.maxDigits < digits.length then .error (.tooLong ⟨digits.length⟩)
    else if rest.all isNumeralBlank then
      let n : Nat := digits.foldl (fun n d => 10 * n + d) 0
      .ok (if negative then -(n : Int) else n)
    else .error (.notANumeral s)

def toInt : RawCount → Except Error Int
  | integer n => .ok n
  | boolean b => .ok (if b then 1 else 0)
  | real .nan => .error .notANumber
  | real (.infinity _) => .error .infinite
  | real (.finite negative m e) => .ok (Binary64.truncate negative m e)
  | text s => readNumeral s
  | null => .error (.wrongKind "NoneType")
  | list => .error (.wrongKind "list")
  | object => .error (.wrongKind "dict")

end TaggerFeatures.RawCount
