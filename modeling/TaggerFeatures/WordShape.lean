import TaggerFeatures.Unicode.Digit
import TaggerFeatures.Unicode.Lowercase
import TaggerFeatures.Text.Blank

/-!
Word shapes. A shape keeps the classes of the first and last two characters and the set of the
classes between them; a word of at most four characters keeps all its classes.
-/
namespace TaggerFeatures

namespace WordShape
open Unicode

/-- Characters of no number category that read as digits. -/
def extraNumerals : List Char :=
  ['一', '二', '三', '四', '五', '六', '七', '八', '九', '十', '零', '〇', '百', '千', '万', '亿',
    '兩', '○', '◯']

/-- Digits, lower case, upper case; any other character is a class of its own. -/
def simpleClass (c : Char) : Char :=
  if Digit.isDigit c then 'd'
  else if isLowercase c then 'x'
  else if isUppercase c || isTitlecase c then 'X'
  else c

/-- The class of a character by its general category. -/
def categoryClass (c : Char) : Char :=
  if extraNumerals.contains c then 'd' else
    match Category.ofChar c with
    | .decimalNumber | .letterNumber | .otherNumber => 'd'
    | .lowercaseLetter => 'x'
    | .uppercaseLetter | .titlecaseLetter => 'X'
    | category =>
      if Text.isBlank c then 's' else
        match category with
        | .otherLetter => 'c'
        | .currencySymbol => '$'
        | .mathSymbol => '+'
        | .otherSymbol => '|'
        | .openPunctuation => '('
        | .closePunctuation => ')'
        | .initialPunctuation => '\x60'
        | .finalPunctuation => '\''
        | .otherPunctuation => if c = '\'' then '\'' else if c = '%' then '%' else '.'
        | .connectorPunctuation => '_'
        | .dashPunctuation => '-'
        | _ => 'q'

/-- Puts a character at its place among ascending ones, unless it is there already. -/
def insertClass (c : Char) : List Char → List Char
  | [] => [c]
  | x :: xs => if c < x then c :: x :: xs else if c = x then x :: xs else x :: insertClass c xs

/-- The characters that occur, each once, in ascending order. -/
def classSet (cs : List Char) : List Char := cs.foldr insertClass []

/-- How many characters at either end keep their classes. -/
def edge : Nat := 2

def collapse (classes : List Char) : List Char :=
  if classes.length ≤ 2 * edge then classes
  else
    let inner := classes.length - 2 * edge
    classes.take edge ++ classSet ((classes.drop edge).take inner) ++
      classes.drop (edge + inner)

/-- The shape of a word by the classes of its characters. -/
def ofClasses (classOf : Char → Char) (word : String) : String :=
  String.ofList (collapse (word.toList.map classOf))

end WordShape

/-- A way to shape words, and the name that it is known by. -/
structure Shaper where
  name : String
  shape : String → String

namespace Shaper

def none : Shaper := ⟨"none", fun word => word⟩

def chris2 : Shaper := ⟨"chris2", WordShape.ofClasses WordShape.simpleClass⟩

def chris4 : Shaper := ⟨"chris4", WordShape.ofClasses WordShape.categoryClass⟩

/-- The shapers that are known by name, in the order of their names. -/
def all : List Shaper := [chris2, chris4, none]

/-- No shaper has this name. -/
structure Unknown where
  name : String
deriving DecidableEq, Repr

def Unknown.message (e : Unknown) : String :=
  "Unknown word shaper '" ++ e.name ++ "'. Known shapers: " ++
    Text.joinWith ", " (all.map Shaper.name)

/-- The shaper of a name, in upper or lower case. -/
def ofName (name : String) : Except Unknown Shaper :=
  match all.find? (·.name.toList == Unicode.lowercase name.toList) with
  | some shaper => .ok shaper
  | Option.none => .error ⟨name⟩

end Shaper
end TaggerFeatures
