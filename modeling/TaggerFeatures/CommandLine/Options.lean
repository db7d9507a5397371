import TaggerFeatures.Text.Blank
import TaggerFeatures.Unicode.Digit

/-!
The options of the command line. Each takes one text, behind an equals sign or as the next argument,
and its name may be cut short as long as one option alone begins like that.
-/
namespace TaggerFeatures.CommandLine

inductive OptionName
  | help
  | arch
  | config
  | sentence
  | separator
deriving DecidableEq, Repr

namespace OptionName

def all : List OptionName := [help, arch, config, sentence, separator]

def name : OptionName → String
  | help => "--help"
  | arch => "--arch"
  | config => "--config"
  | sentence => "--sentence"
  | separator => "--separator"

def ofName? (s : List Char) : Option OptionName :=
  if s = ['-', 'h'] then some help else all.find? (·.name.toList == s)

/-- The options that begin like this. -/
def beginning (s : List Char) : List OptionName := all.filter fun o => s.isPrefixOf o.name.toList

end OptionName

/-- What is given for each option. -/
structure Options where
  arch : Option String := none
  config : Option String := none
  sentence : Option String := none
  separator : Option String := none
deriving DecidableEq, Repr

/-- The text given for an option, unless it is empty. -/
def unlessEmpty (given : Option String) : Option String := given.filter (!·.isEmpty)

/-- Gives an option; the last one counts. -/
def Options.give (o : Options) (name : OptionName) (s : String) : Options :=
  match name with
  | .help => o
  | .arch => { o with arch := some s }
  | .config => { o with config := some s }
  | .sentence => { o with sentence := some s }
  | .separator => { o with separator := some s }

/-! ## Arguments -/

/-- What an argument is by itself: a value, an option with what follows its equals sign, `-h` with
letters behind it, the mark before values, an option that there is none, or one that could be
several. -/
inductive Argument
  | value (s : String)
  | option (name : OptionName) (explicit : Option String)
  | letters (rest : List Char)
  | mark
  | unknown
  | ambiguous
deriving DecidableEq, Repr

/-- A decimal digit of any script. -/
def isDigit (c : Char) : Bool := (Unicode.Digit.decimalValue? c).isSome

/-- Whether a text is a negative number: digits, or digits behind a point. -/
def isNegativeNumber (s : List Char) : Bool :=
  let s := if s.getLast? = some '\n' then s.dropLast else s
  match s with
  | '-' :: rest =>
    (!rest.isEmpty && rest.all isDigit) ||
      match rest.dropWhile isDigit with
      | '.' :: ds => !ds.isEmpty && ds.all isDigit
      | _ => false
  | _ => false

/-- What stands before the first equals sign, and behind it if there is one. -/
def cutEquals (s : List Char) : List Char × Option String :=
  match s.dropWhile (· != '=') with
  | [] => (s, none)
  | _ :: rest => (s.takeWhile (· != '='), some (String.ofList rest))

/-- What an argument is that begins with a hyphen and is no option written in full. -/
def Argument.ofShortened (s : List Char) : Argument :=
  let (start, explicit) := cutEquals s
  let rest : Argument :=
    if isNegativeNumber s || s.contains ' ' then .value (String.ofList s) else .unknown
  match s with
  | '-' :: '-' :: _ =>
    match OptionName.beginning start with
    | [name] => .option name explicit
    | [] => rest
    | _ => .ambiguous
  | '-' :: 'h' :: more => .letters more
  | _ => rest

def Argument.ofString (s : String) : Argument :=
  let cs := s.toList
  if s = "--" then .mark
  else if cs.head? != some '-' || s = "-" then .value s
  else
    match OptionName.ofName? cs, cutEquals cs with
    | some name, _ => .option name none
    | none, (start, some explicit) =>
      match OptionName.ofName? start with
      | some name => .option name (some explicit)
      | none => .ofShortened cs
    | none, _ => .ofShortened cs

inductive Reading
  | run (options : Options)
  | help
  | rejected
deriving DecidableEq, Repr

/-- What is asked for by letters behind `-h`. Each further `h` asks for help again, and any other
letter ends them; a hyphen, or an equals sign behind an `h`, is out of place. -/
def Reading.ofLetters : List Char → Reading
  | '-' :: _ => .rejected
  | 'h' :: '=' :: _ => .rejected
  | 'h' :: rest => ofLetters rest
  | _ => .help

/-- Reads the arguments from left to right. What is no option and belongs to none is left over, and
nothing may be left over at the end. -/
def readArguments (leftOver : Bool) (o : Options) : List Argument → Reading
  | [] => if leftOver then .rejected else .run o
  | .value _ :: rest => readArguments true o rest
  | .unknown :: rest => readArguments true o rest
  | .mark :: _ => .rejected
  | .ambiguous :: _ => .rejected
  | .letters letters :: _ => .ofLetters letters
  | .option .help none :: _ => .help
  | .option .help (some _) :: _ => .rejected
  | .option name (some s) :: rest => readArguments leftOver (o.give name s) rest
  | .option name none :: .value s :: rest => readArguments leftOver (o.give name s) rest
  | .option _ none :: _ => .rejected

/-- Reads the command line. An option that could be several rejects it at once; behind the mark
there are values only. -/
def Reading.ofStrings (arguments : List String) : Reading :=
  let read := arguments.map Argument.ofString
  if (read.takeWhile (· != .mark)).contains .ambiguous then .rejected
  else readArguments false {} read

end TaggerFeatures.CommandLine
