import TaggerFeatures.Number.Numeral
import TaggerFeatures.Text.Blank
import TaggerFeatures.Text.Quoted

/-! Why a YAML text has no value. -/
namespace TaggerFeatures.Yaml

/-- The parts of a date or a time that have a range. -/
inductive TimePart
  | month
  | hour
  | minute
  | second
deriving DecidableEq, Repr

/-- A text that is no YAML, or a scalar that looks like a value and is none. -/
inductive Error
  | malformed
  | noCharacter
  | characterTooLarge
  | emptyNumeral
  | notANumeral (base : Nat) (text : String)
  | notAReal (text : String)
  | notATruth (text : String)
  | notATime
  | timeOfMapping
  | tooGreat
  | tooLong (error : Numeral.TooLong)
  | yearOutside (year : Nat)
  | partOutside (part : TimePart)
  | dayOutside
  | offsetTooLarge (minutes : Int)
deriving DecidableEq, Repr

/-- The text reported for a part of a date or time that is outside its range. -/
def TimePart.message : TimePart → String
  | month => "month must be in 1..12"
  | hour => "hour must be in 0..23"
  | minute => "minute must be in 0..59"
  | second => "second must be in 0..59"

/-- The written form of a span of time: whole days, and the seconds beyond them. -/
def printSpan (minutes : Int) : String :=
  let days := Int.fdiv minutes 1440
  let seconds := (minutes - days * 1440) * 60
  "datetime.timedelta(" ++ Text.joinWith ", " (
    (if days = 0 then [] else ["days=" ++ toString days]) ++
      (if seconds = 0 then [] else ["seconds=" ++ toString seconds])) ++ ")"

/-- The text reported for a scalar without a value; what is malformed is reported with the name of
the file. -/
def Error.message : Error → String
  | malformed => ""
  | noCharacter => "chr() arg not in range(0x110000)"
  | characterTooLarge => "Python int too large to convert to C int"
  | emptyNumeral => "string index out of range"
  | notANumeral base text =>
    "invalid literal for int() with base " ++ toString base ++ ": " ++ Text.quotedBrief text
  | notATruth text => Text.quoted text
  | notATime => "'NoneType' object has no attribute 'groupdict'"
  | timeOfMapping => "expected string or bytes-like object, got 'list'"
  | tooGreat => "int too large to convert to float"
  | notAReal text => "could not convert string to float: " ++ Text.quoted text
  | tooLong error => error.message
  | yearOutside year => "year " ++ toString year ++ " is out of range"
  | partOutside part => part.message
  | dayOutside => "day is out of range for month"
  | offsetTooLarge minutes =>
    "offset must be a timedelta strictly between -timedelta(hours=24) and timedelta(hours=24), " ++
      "not " ++ printSpan minutes ++ "."

end TaggerFeatures.Yaml
