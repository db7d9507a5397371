import TaggerFeatures.Architecture.Split
import TaggerFeatures.Number.Numeral

/-!
The tokens of an architecture: a keyword, or a keyword with one list of arguments in parentheses.
Arguments stay text until a keyword asks for integers.
-/
namespace TaggerFeatures.Architecture
open Text

inductive Malformed
  | parentheses (fault : ParenthesisFault) (arch : String)
  | unmatchedInToken (token : String)
  | unclosedInToken (token : String)
  | textAfterArguments (token : String)
  | notAnInteger (argument token : String)
  | negativeRightOrder (order : Int) (token : String)
deriving DecidableEq, Repr

/-- The text reported for a malformed architecture. -/
def Malformed.message : Malformed → String
  | .parentheses (.nested column) arch =>
    "Nested parenthesis at column " ++ toString column ++ " of '" ++ arch ++ "'."
  | .parentheses (.unmatched column) arch =>
    "Unmatched ')' at column " ++ toString column ++ " of '" ++ arch ++ "'."
  | .parentheses .unclosed arch => "Unclosed '(' in '" ++ arch ++ "'."
  | .unmatchedInToken token => "Unmatched ')' in token '" ++ token ++ "'."
  | .unclosedInToken token => "Unclosed '(' in token '" ++ token ++ "'."
  | .textAfterArguments token => "Unexpected text after ')' in token '" ++ token ++ "'."
  | .notAnInteger argument token =>
    "Argument '" ++ argument ++ "' of '" ++ token ++ "' is not an integer."
  | .negativeRightOrder order token =>
    "Right order must be non-negative, not " ++ toString order ++ " (in '" ++ token ++ "')."

/-- Why the arguments of a token are no integers. -/
inductive ArgumentError
  | malformed (error : Malformed)
  | tooLong (error : Numeral.TooLong)
deriving DecidableEq, Repr

/-- A token: its text, its keyword, and the text between its parentheses if it has any. -/
structure Token where
  text : String
  name : String
  arguments : Option String := none
deriving DecidableEq, Repr

namespace Token

def parenthesized (t : Token) : Bool := t.arguments.isSome

/-- Reads one token. The first closing parenthesis after the first opening one must end it. -/
def ofChars (s : List Char) : Except Malformed Token :=
  let text := trim s
  let whole := String.ofList text
  match text.dropWhile (· != '(') with
  | [] => if text.contains ')' then .error (.unmatchedInToken whole) else .ok ⟨whole, whole, none⟩
  | _ :: rest =>
    match rest.dropWhile (· != ')') with
    | [] => .error (.unclosedInToken whole)
    | _ :: [] =>
      let name := String.ofList (trim (text.takeWhile (· != '(')))
      .ok ⟨whole, name, some (String.ofList (rest.takeWhile (· != ')')))⟩
    | _ :: _ :: _ => .error (.textAfterArguments whole)

def ofString (s : String) : Except Malformed Token := ofChars s.toList

/-- Reads one argument: a signed run of ASCII digits with blanks around it. -/
def readArgument (token : String) (s : List Char) : Except ArgumentError Int :=
  let argument := trim s
  match Numeral.ofChars? argument with
  | none => .error (.malformed (.notAnInteger (String.ofList argument) token))
  | some numeral => numeral.value.mapError .tooLong

/-- The arguments as integers. A missing or blank list has none. -/
def integers (t : Token) : Except ArgumentError (List Int) :=
  match t.arguments with
  | none => .ok []
  | some raw =>
    if (trim raw.toList).isEmpty then .ok []
    else (splitWhen (· == ',') raw.toList).mapM (readArgument t.text)

end Token

/-- The tokens of an architecture, or the first thing that is wrong with it. -/
def tokenize (arch : String) : Except Malformed (List Token) :=
  match splitStrict arch with
  | .error fault => .error (.parentheses fault arch)
  | .ok texts => texts.mapM Token.ofString

end TaggerFeatures.Architecture
