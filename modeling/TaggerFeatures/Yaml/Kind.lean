import TaggerFeatures.Text.Blank
import TaggerFeatures.Yaml.Time

/-! The kinds of values, told by tags or by the form of a scalar. -/
namespace TaggerFeatures.Yaml

/-- The kinds of values. The last two scalars, `<<` and `=`, have a meaning as keys only. -/
inductive Kind
  | null
  | boolean
  | integer
  | real
  | time
  | text
  | bytes
  | sequence
  | pairs
  | mapping
  | set
  | merge
  | default
  | other
deriving DecidableEq, Repr

namespace Kind

/-- The name space of the kinds. -/
def space : String := "tag:yaml.org,2002:"

def ofTag (tag : String) : Kind :=
  let named : List (String × Kind) := [
    ("null", null), ("bool", boolean), ("int", integer), ("float", real), ("timestamp", time),
    ("str", text), ("binary", bytes), ("seq", sequence), ("omap", pairs), ("pairs", pairs),
    ("map", mapping), ("set", set), ("merge", merge), ("value", default)]
  ((named.find? fun (name, _) => space ++ name == tag).map (·.2)).getD other

def nullWords : List String := ["", "~", "null", "Null", "NULL"]

def trueWords : List String := [
  "yes", "Yes", "YES", "true", "True", "TRUE", "on", "On", "ON"]

def falseWords : List String := [
  "no", "No", "NO", "false", "False", "FALSE", "off", "Off", "OFF"]

/-- The text without a sign at its start. -/
def unsigned : List Char → List Char
  | '+' :: rest => rest
  | '-' :: rest => rest
  | s => s

/-- Whether a text has characters, all of them with a property. -/
def allOf (p : Char → Bool) (s : List Char) : Bool := !s.isEmpty && s.all p

/-- A digit or a low line. -/
def isLoose (c : Char) : Bool := Numeral.isDigit c || c == '_'

/-- A digit below `base` or a low line. -/
def isLooseBelow (base : Nat) (c : Char) : Bool :=
  c == '_' || (Numeral.isDigit c && decide (Numeral.digitValue c < base))

def isLooseHex (c : Char) : Bool :=
  isLoose c || ('a' ≤ c && c ≤ 'f') || ('A' ≤ c && c ≤ 'F')

/-- Digits and low lines, a digit first. -/
def isLooseNumber (s : List Char) : Bool := s.head?.any Numeral.isDigit && s.all isLoose

/-- One digit, or two up to 59. -/
def isSixty : List Char → Bool
  | [a] => Numeral.isDigit a
  | [a, b] => isLooseBelow 6 a && a != '_' && Numeral.isDigit b
  | _ => false

def colonParts (s : List Char) : List (List Char) := Text.splitWhen (· == ':') s

/-- Whether a text without sign is written like an integer. -/
def isWholeNumber : List Char → Bool
  | ['0'] => true
  | '0' :: 'b' :: rest => allOf (isLooseBelow 2) rest
  | '0' :: 'x' :: rest => allOf isLooseHex rest
  | '0' :: rest => allOf (isLooseBelow 8) rest
  | s =>
    match colonParts s with
    | first :: rest => isLooseNumber first && rest.all isSixty
    | [] => false

/-- Whether a text is an exponent with its sign, or nothing. -/
def isPower : List Char → Bool
  | [] => true
  | e :: sign :: rest =>
    (e == 'e' || e == 'E') && (sign == '+' || sign == '-') && allOf Numeral.isDigit rest
  | _ => false

/-- Whether a text without sign is written like a number with a point behind its first digits. -/
def isPointed (s : List Char) : Bool :=
  let whole := s.takeWhile (· != '.')
  match s.dropWhile (· != '.') with
  | [] => false
  | _ :: rest =>
    match colonParts whole with
    | [whole] => isLooseNumber whole && isPower (rest.dropWhile isLoose)
    | first :: more => isLooseNumber first && more.all isSixty && rest.all isLoose
    | [] => false

/-- Whether a text is written like a number with a fraction, an infinity, or not-a-number. -/
def isReal (s : List Char) : Bool :=
  isPointed (unsigned s) ||
    (match s with
      | '.' :: c :: rest => Numeral.isDigit c && isPower (rest.dropWhile isLoose)
      | _ => false) ||
    [".inf", ".Inf", ".INF"].contains (String.ofList (unsigned s)) ||
    [".nan", ".NaN", ".NAN"].contains (String.ofList s)

/-- The text without one line end at its end, which the form of a scalar leaves out of account. -/
def withoutLastBreak (s : List Char) : List Char :=
  if s.getLast? = some '\n' ∧ 1 < s.length then s.dropLast else s

def ofForm (text : String) : Kind :=
  let cs := withoutLastBreak text.toList
  let s := String.ofList cs
  if nullWords.contains s then null
  else if trueWords.contains s || falseWords.contains s then boolean
  else if isReal cs then real
  else if isWholeNumber (unsigned cs) then integer
  else if (Time.ofChars? 2 cs).isSome then time
  else if s = "<<" then merge
  else if s = "=" then default
  else .text

end Kind
end TaggerFeatures.Yaml
