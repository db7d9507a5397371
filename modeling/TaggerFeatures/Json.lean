import TaggerFeatures.Number.Binary64
import TaggerFeatures.Number.Numeral

/-!
JSON texts. Members of an object keep their order; of several with one name the last gives the value
and the first the place. Not-a-number and the infinities may be written by name.
-/
namespace TaggerFeatures

/-- A JSON value. Numbers with a fraction or an exponent are kept apart from integers. -/
inductive Json
  | null
  | boolean (b : Bool)
  | integer (n : Int)
  | real (x : Binary64)
  | text (s : String)
  | list (items : List Json)
  | object (members : List (String × Json))
deriving Repr

namespace Json

/-- Why a text is not read: it is malformed, an integer in it has too many digits, or a list or an
object in it is nested too deep. -/
inductive Error
  | malformed
  | tooLong (error : Numeral.TooLong)
  | tooDeep (isObject : Bool)
deriving DecidableEq, Repr

/-- Blanks between the parts of a text. -/
def isBlank (c : Char) : Bool := c == ' ' || c == '\t' || c == '\n' || c == '\r'

def skip (s : List Char) : List Char := s.dropWhile isBlank

def hexValue? (c : Char) : Option Nat :=
  if Numeral.isDigit c then some (Numeral.digitValue c)
  else if 'a' ≤ c && c ≤ 'f' then some (c.toNat - 'a'.toNat + 10)
  else if 'A' ≤ c && c ≤ 'F' then some (c.toNat - 'A'.toNat + 10)
  else none

def hexFour? : List Char → Option (Nat × List Char)
  | a :: b :: c :: d :: rest => do
    let a ← hexValue? a
    let b ← hexValue? b
    let c ← hexValue? c
    let d ← hexValue? d
    some (((a * 16 + b) * 16 + c) * 16 + d, rest)
  | _ => none

/-- The character that a letter after a backslash stands for. -/
def escaped? : Char → Option Char
  | '"' => some '"'
  | '\\' => some '\\'
  | '/' => some '/'
  | 'b' => some '\x08'
  | 'f' => some '\x0C'
  | 'n' => some '\n'
  | 'r' => some '\r'
  | 't' => some '\t'
  | _ => none

/-- A character by its number; half of a surrogate pair gives the replacement character. -/
def charOf (n : Nat) : Char :=
  if 0xD800 ≤ n && n ≤ 0xDFFF then '\uFFFD' else Char.ofNat n

/-- The character of a number escape, and what follows. Two halves of a surrogate pair, one after
the other, are one character. -/
def numberEscape? (s : List Char) : Option (Char × List Char) := do
  let (n, rest) ← hexFour? s
  match rest with
  | '\\' :: 'u' :: more =>
    match hexFour? more with
    | some (m, after) =>
      if 0xD800 ≤ n && n ≤ 0xDBFF && 0xDC00 ≤ m && m ≤ 0xDFFF then
        some (Char.ofNat (0x10000 + (n - 0xD800) * 0x400 + (m - 0xDC00)), after)
      else some (charOf n, rest)
    | none => some (charOf n, rest)
  | _ => some (charOf n, rest)

/-- Reads a string behind its opening mark, in as many steps as there are characters. -/
def readString : (fuel : Nat) → (read : List Char) → List Char →
    Except Error (String × List Char)
  | 0, _, _ => .error .malformed
  | _ + 1, _, [] => .error .malformed
  | _ + 1, read, '"' :: rest => .ok (String.ofList read.reverse, rest)
  | fuel + 1, read, '\\' :: 'u' :: rest =>
    match numberEscape? rest with
    | some (c, rest) => readString fuel (c :: read) rest
    | none => .error .malformed
  | fuel + 1, read, '\\' :: c :: rest =>
    match escaped? c with
    | some c => readString fuel (c :: read) rest
    | none => .error .malformed
  | fuel + 1, read, c :: rest =>
    if c.toNat < 0x20 || c == '\\' then .error .malformed else readString fuel (c :: read) rest

/-- The digits at the start of a text, and the rest. -/
def digits (s : List Char) : List Char × List Char :=
  (s.takeWhile Numeral.isDigit, s.dropWhile Numeral.isDigit)

/-- A fraction at the start of a text: a point and at least one digit. -/
def fraction (s : List Char) : Option (List Char) × List Char :=
  match s with
  | '.' :: r => match digits r with
    | ([], _) => (none, s)
    | (ds, rest) => (some ds, rest)
  | _ => (none, s)

/-- An exponent at the start of a text: a letter, an optional sign and at least one digit. -/
def exponent (s : List Char) : Option Int × List Char :=
  match s with
  | c :: r =>
    if c == 'e' || c == 'E' then
      let (negative, r) := match r with
        | '-' :: r => (true, r)
        | '+' :: r => (false, r)
        | r => (false, r)
      match digits r with
      | ([], _) => (none, s)
      | (ds, rest) =>
        let n : Nat := Numeral.ofDigits ds
        (some (if negative then -(n : Int) else n), rest)
    else (none, s)
  | [] => (none, s)

/-- Reads a number behind its sign. Further digits after a leading zero belong to no number. -/
def readNumber (negative : Bool) (s : List Char) : Except Error (Json × List Char) :=
  let (whole, rest) := match s with
    | '0' :: r => (['0'], r)
    | r => digits r
  match whole with
  | [] => .error .malformed
  | _ =>
    let (part, rest) := fraction rest
    let (power, rest) := exponent rest
    match part, power with
    | none, none =>
      match (Numeral.mk negative whole).value with
      | .ok n => .ok (.integer n, rest)
      | .error e => .error (.tooLong e)
    | _, _ =>
      let part := part.getD []
      let e : Int := power.getD 0 - part.length
      .ok (.real (Binary64.ofDecimal negative (Numeral.ofDigits (whole ++ part)) e), rest)

/-- The text after `word`, if the text starts with it. -/
def after? (word : String) (s : List Char) : Option (List Char) :=
  if word.toList.isPrefixOf s then some (s.drop word.length) else none

def readWord (s : List Char) : Except Error (Json × List Char) :=
  let words : List (String × Json) := [
    ("null", .null), ("true", .boolean true), ("false", .boolean false), ("NaN", .real .nan),
    ("Infinity", .real (.infinity false)), ("-Infinity", .real (.infinity true))]
  match words.findSome? fun (word, value) => (after? word s).map (value, ·) with
  | some reading => .ok reading
  | none => .error .malformed

/-- Puts a member at the end, or its value at the place of a member of the same name. -/
def putMember (name : String) (value : Json) : List (String × Json) → List (String × Json)
  | [] => [(name, value)]
  | (n, v) :: rest =>
    if n = name then (name, value) :: rest else (n, v) :: putMember name value rest

/-- How many lists and objects may be nested in one another. -/
def maxNesting : Nat := 991

mutual

/-- Reads a value that may nest lists and objects `depth` deep. -/
def readValue : (fuel depth : Nat) → List Char → Except Error (Json × List Char)
  | 0, _, _ => .error .malformed
  | fuel + 1, depth, s =>
    match skip s with
    | '"' :: rest => (readString fuel [] rest).map fun (s, rest) => (.text s, rest)
    | '[' :: rest =>
      match depth, skip rest with
      | 0, _ => .error (.tooDeep false)
      | _ + 1, ']' :: rest => .ok (.list [], rest)
      | depth + 1, rest => readItems fuel depth [] rest
    | '\x7b' :: rest =>
      match depth, skip rest with
      | 0, _ => .error (.tooDeep true)
      | _ + 1, '\x7d' :: rest => .ok (.object [], rest)
      | depth + 1, rest => readMembers fuel depth [] rest
    | s@('-' :: rest) =>
      match rest with
      | 'I' :: _ => readWord s
      | _ => readNumber true rest
    | s@(c :: _) => if Numeral.isDigit c then readNumber false s else readWord s
    | [] => .error .malformed

/-- Reads the items of a list behind those that were read. -/
def readItems : (fuel depth : Nat) → (read : List Json) → List Char →
    Except Error (Json × List Char)
  | 0, _, _, _ => .error .malformed
  | fuel + 1, depth, read, s => do
    let (item, rest) ← readValue fuel depth s
    match skip rest with
    | ',' :: rest => readItems fuel depth (item :: read) rest
    | ']' :: rest => .ok (.list (item :: read).reverse, rest)
    | _ => .error .malformed

/-- Reads the members of an object behind those that were read. -/
def readMembers : (fuel depth : Nat) → (read : List (String × Json)) → List Char →
    Except Error (Json × List Char)
  | 0, _, _, _ => .error .malformed
  | fuel + 1, depth, read, s =>
    match skip s with
    | '"' :: rest => do
      let (name, rest) ← readString fuel [] rest
      match skip rest with
      | ':' :: rest =>
        let (value, rest) ← readValue fuel depth rest
        let read := putMember name value read
        match skip rest with
        | ',' :: rest => readMembers fuel depth read rest
        | '\x7d' :: rest => .ok (.object read, rest)
        | _ => .error .malformed
      | _ => .error .malformed
    | _ => .error .malformed

end

/-- Reads a text that holds one value and nothing else but blanks. -/
def read (s : List Char) : Except Error Json := do
  let (value, rest) ← readValue (2 * s.length + 2) maxNesting s
  if (skip rest).isEmpty then .ok value else .error .malformed

def member? (name : String) : Json → Option Json
  | object members => members.lookup name
  | _ => none

end Json
end TaggerFeatures
