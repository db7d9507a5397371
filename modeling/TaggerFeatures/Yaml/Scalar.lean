import TaggerFeatures.Json
import TaggerFeatures.Number.Count
import TaggerFeatures.Number.Written
import TaggerFeatures.Text.Base64
import TaggerFeatures.Unicode.Lowercase
import TaggerFeatures.Yaml.Kind

/-! The values of YAML scalars. -/
namespace TaggerFeatures.Yaml

/-- The value of a scalar. Not-a-number is one value where it is written `.nan`; where it comes out
otherwise, it is another one at each place. -/
inductive Scalar
  | null
  | boolean (b : Bool)
  | integer (n : Int)
  | real (x : Binary64)
  | computedNan (place : Nat)
  | time (t : Time)
  | text (s : String)
  | bytes (bs : List UInt8)
deriving DecidableEq, Repr

namespace Scalar

/-! ## Numbers -/

/-- ASCII digits for the digits of any script, spaces for the blanks beyond ASCII, and question
marks for all else beyond it. -/
def plainDigit (c : Char) : Char :=
  if c.toNat < 127 then c
  else if Text.isBlank c then ' '
  else match Unicode.Digit.decimalValue? c with
    | some d => Char.ofNat ('0'.toNat + d)
    | none => '?'

def isNumeralBlank (c : Char) : Bool := c == ' ' || ('\t' ≤ c && c ≤ '\r')

/-- Whether a text has a minus sign, and the text behind its sign. -/
def signed (s : List Char) : Bool × List Char := (s.head? == some '-', Kind.unsigned s)

/-- The letter behind a zero that marks a base. -/
def baseMark : (base : Nat) → Char
  | 2 => 'b'
  | 8 => 'o'
  | _ => 'x'

/-- The text behind the mark of a base, if it has one. -/
def withoutMark (base : Nat) : List Char → List Char
  | '0' :: c :: rest => if c.toLower = baseMark base then rest else '0' :: c :: rest
  | s => s

/-- Reads an integer in base 2, 8 or 16: a sign, the mark of the base and blanks around are
allowed. -/
def readInBase (base : Nat) (s : List Char) : Except Error Int :=
  let (negative, cs) := signed ((s.map plainDigit).dropWhile isNumeralBlank)
  let cs := withoutMark base cs
  let belongs (c : Char) : Bool := (Json.hexValue? c).any (· < base)
  let digits := cs.takeWhile belongs
  if digits.isEmpty || !(cs.dropWhile belongs).all isNumeralBlank then
    .error (.notANumeral base (String.ofList s))
  else
    let n : Nat := (digits.filterMap Json.hexValue?).foldl (fun n d => n * base + d) 0
    .ok (if negative then -(n : Int) else n)

def readDecimal (s : List Char) : Except Error Int :=
  match RawCount.readNumeral (String.ofList s) with
  | .ok n => .ok n
  | .error (.tooLong e) => .error (.tooLong e)
  | .error _ => .error (.notANumeral 10 (String.ofList s))

/-- The value of parts that count in sixties, the last one in ones. -/
def inSixties (parts : List Int) : Int := parts.foldl (fun n part => n * 60 + part) 0

/-- The text without low lines. -/
def dense (s : String) : List Char := s.toList.filter (· != '_')

/-- Reads an integer behind its sign: binary behind `0b`, hexadecimal behind `0x`, octal behind
another zero, decimal, or decimal parts that count in sixties. -/
def readUnsigned : List Char → Except Error Int
  | [] => .error .emptyNumeral
  | ['0'] => .ok 0
  | '0' :: 'b' :: ds => readInBase 2 ds
  | '0' :: 'x' :: ds => readInBase 16 ds
  | '0' :: ds => readInBase 8 ('0' :: ds)
  | cs => ((Kind.colonParts cs).mapM readDecimal).map inSixties

def readInteger (s : String) : Except Error Int :=
  if (dense s).isEmpty then .error .emptyNumeral
  else
    let (negative, cs) := signed (dense s)
    (readUnsigned cs).map fun n => if negative then -n else n

def readMagnitude? (s : List Char) : Option Binary64 :=
  if ["inf", "infinity"].contains (String.ofList s) then some (.infinity false)
  else if s = "nan".toList then some .nan
  else
    let (whole, rest) := Json.digits s
    let (part, rest) := match rest with
      | '.' :: rest => Json.digits rest
      | rest => ([], rest)
    let (power, rest) := Json.exponent rest
    if rest.isEmpty && !(whole ++ part).isEmpty then
      let e : Int := power.getD 0 - part.length
      some (Binary64.ofDecimal false (Numeral.ofDigits (whole ++ part)) e)
    else none

/-- Reads a decimal number; a sign, and blanks around, are allowed. -/
def readPointed (s : List Char) : Except Error Binary64 :=
  let blankless := ((s.map plainDigit).dropWhile isNumeralBlank).reverse.dropWhile isNumeralBlank
  let (negative, cs) := signed blankless.reverse
  match readMagnitude? cs with
  | some x => .ok (if negative then x.neg else x)
  | none => .error (.notAReal (String.ofList s))

/-- Adds up parts that count in sixties, from the last one on, with rounding at every step. -/
def sumSixties : (base : Nat) → (sum : Binary64) → List Binary64 → Except Error Binary64
  | _, sum, [] => .ok sum
  | base, sum, x :: rest =>
    match Binary64.ofInt base with
    | .finite s m e => sumSixties (base * 60) (sum.add (x.mul (.finite s m e))) rest
    | _ => .error .tooGreat

def readReal (place : Nat) (s : String) : Except Error Scalar := do
  let cs := Unicode.lowercase (dense s)
  if cs.isEmpty then .error .emptyNumeral
  else
    let (negative, cs) := signed cs
    if cs = ".nan".toList then .ok (.real .nan)
    else
      let x ←
        if cs = ".inf".toList then .ok (Binary64.infinity false)
        else if cs.contains ':' then do
          let parts ← (Kind.colonParts cs).mapM readPointed
          sumSixties 1 (Binary64.zero false) parts.reverse
        else readPointed cs
      .ok (if x = .nan then .computedNan place else .real (if negative then x.neg else x))

/-! ## Scalars -/

def readTime (s : String) : Except Error Time :=
  match Time.ofChars? 1 (Kind.withoutLastBreak s.toList) with
  | some t => t.check
  | none => .error .notATime

def readTruth (s : String) : Except Error Bool :=
  let word := String.ofList (Unicode.lowercase s.toList)
  if Kind.trueWords.contains word then .ok true
  else if Kind.falseWords.contains word then .ok false
  else .error (.notATruth word)

def readBytes (s : String) : Except Error (List UInt8) :=
  match Text.Base64.decode? s.toList with
  | some decoded => .ok decoded
  | none => .error .malformed

/-- The value of a scalar of a kind, which stands at a place. -/
def read (place : Nat) (kind : Kind) (s : String) : Except Error Scalar :=
  match kind with
  | .null => .ok .null
  | .boolean => (readTruth s).map .boolean
  | .integer => (readInteger s).map .integer
  | .real => readReal place s
  | .time => (readTime s).map .time
  | .text => .ok (.text s)
  | .bytes => (readBytes s).map .bytes
  | _ => .error .malformed

/-- A value that counts as a number, if it does. -/
def number? : Scalar → Option (Int ⊕ Binary64)
  | boolean b => some (.inl (if b then 1 else 0))
  | integer n => some (.inl n)
  | real x => some (match x.toInt? with
    | some n => .inl n
    | none => .inr x)
  | _ => none

/-- Whether two values are one as keys. Numbers are compared by value, and truth values are
numbers. -/
def same (a b : Scalar) : Bool :=
  match a.number?, b.number? with
  | some (.inl m), some (.inl n) => m == n
  | some (.inr x), some (.inr y) => x = y
  | some _, some _ => false
  | _, _ =>
    match a, b with
    | time s, time t => s.same t
    | _, _ => a = b

/-- Whether a value counts as nothing: null, false, zero, and what is empty. -/
def isVoid : Scalar → Bool
  | null => true
  | boolean b => !b
  | integer n => n == 0
  | real (.finite _ m _) => m == 0
  | real _ => false
  | computedNan _ => false
  | time _ => false
  | text s => s.isEmpty
  | bytes bs => bs.isEmpty

/-! ## Written forms -/

def kindName : Scalar → String
  | null => "NoneType"
  | boolean _ => "bool"
  | integer _ => "int"
  | real _ => "float"
  | computedNan _ => "float"
  | time t => if t.clock.isSome then "datetime" else "date"
  | text _ => "str"
  | bytes _ => "bytes"

/-- The parts of a time between commas. -/
def timeParts (t : Time) : List String :=
  [toString t.date.year, toString t.date.month, toString t.date.day] ++
    match t.clock with
    | none => []
    | some c =>
      [toString c.hour, toString c.minute] ++
        (if c.second = 0 ∧ c.microsecond = 0 then [] else [toString c.second]) ++
        (if c.microsecond = 0 then [] else [toString c.microsecond]) ++
        match c.offset with
        | none => []
        | some 0 => ["tzinfo=datetime.timezone.utc"]
        | some minutes => ["tzinfo=datetime.timezone(" ++ printSpan minutes ++ ")"]

/-- The written form of a value inside a collection: text stands in quotation marks. There is none
for an integer with too many digits. -/
def inner? : Scalar → Option String
  | null => some "None"
  | boolean b => some (if b then "True" else "False")
  | integer n => Numeral.print? n
  | real x => some x.written
  | computedNan _ => some Binary64.nan.written
  | time t =>
    some ("datetime." ++ (if t.clock.isSome then "datetime" else "date") ++ "(" ++
      Text.joinWith ", " (timeParts t) ++ ")")
  | text s => some (Text.quoted s)
  | bytes bs => some (Text.quotedBytes bs)

/-- The written form of a value by itself: text is written as it is. -/
def print? : Scalar → Option String
  | text s => some s
  | time t => some t.print
  | value => value.inner?

end Scalar
end TaggerFeatures.Yaml
