import TaggerFeatures.Architecture.Token
import TaggerFeatures.Template

/-!
The keywords of architectures, and the templates that each stands for. Missing arguments count as 0
and surplus ones are ignored.
-/
namespace TaggerFeatures.Architecture

inductive Failure
  | malformed (error : Malformed)
  | tooLong (error : Numeral.TooLong)
  | count (error : RawCount.Error)
deriving DecidableEq, Repr

def Failure.message : Failure → String
  | malformed error => error.message
  | tooLong error => error.message
  | count error => error.message

def Failure.ofArgumentError : ArgumentError → Failure
  | .malformed error => malformed error
  | .tooLong error => tooLong error

/-- Keywords that take integers. -/
inductive Keyword
  | words
  | tags
  | biwords
  | biword
  | twoTags
  | lowercaseWords
  | order
  | wordTag
  | wordTwoTags
  | threeTags
  | participle
  | wordShapes
  | unicodeShapes
  | unicodeShapeConjunction
deriving DecidableEq, Repr

namespace Keyword

def all : List Keyword := [
  words, tags, biwords, biword, twoTags, lowercaseWords, order, wordTag, wordTwoTags, threeTags,
  participle, wordShapes, unicodeShapes, unicodeShapeConjunction]

/-- The name of a keyword in an architecture. -/
def name : Keyword → String
  | words => "words"
  | tags => "tags"
  | biwords => "biwords"
  | biword => "biword"
  | twoTags => "twoTags"
  | lowercaseWords => "lowercasewords"
  | order => "order"
  | wordTag => "wordTag"
  | wordTwoTags => "wordTwoTags"
  | threeTags => "threeTags"
  | participle => "vbn"
  | wordShapes => "allwordshapes"
  | unicodeShapes => "allunicodeshapes"
  | unicodeShapeConjunction => "allunicodeshapeconjunction"

def ofName? (name : String) : Option Keyword := all.find? (·.name == name)

/-- The tag template that reaches to an offset: a single tag next to the cursor, a window farther
away, none at the cursor itself. -/
def rung (offset : Int) : Option Template :=
  if offset = 0 then none
  else if offset = -1 ∨ offset = 1 then some (.tag offset)
  else some (.tagWindow offset)

/-- Ever shorter tag windows on the left, then ever longer ones on the right. -/
def ladder (left right : Int) : List Template := (Offsets.upTo left right).filterMap rung

/-- The argument at an index, 0 if there is none. -/
def argument (arguments : List Int) (index : Nat) : Int := arguments.getD index 0

/-- The templates that a keyword with arguments stands for. -/
def templates (k : Keyword) (token : String) (arguments : List Int) (source : RawDictionary) :
    Except Failure (List Template) :=
  let a := argument arguments 0
  let b := argument arguments 1
  let c := argument arguments 2
  match k with
  | words => .ok ((Offsets.upTo a b).map .word)
  | tags => .ok ((Offsets.upTo a b).map .tag)
  | biwords => .ok ((Offsets.upTo a (b - 1)).map Template.adjacentWords)
  | biword => .ok [.twoWords (.of a b)]
  | twoTags => .ok [.twoTags (.of a b)]
  | lowercaseWords => .ok ((Offsets.upTo a b).map .lowercaseWord)
  | order =>
    if b < 0 then .error (.malformed (.negativeRightOrder b token))
    else .ok (ladder (-(a.natAbs : Int)) b)
  | wordTag => .ok [.wordTag a b]
  | wordTwoTags => .ok [.wordTwoTags a (.of b c)]
  | threeTags => .ok [.threeTags (.of a b c)]
  | participle =>
    match TagDictionary.ofRaw source with
    | .ok dictionary => .ok [.participle a dictionary]
    | .error e => .error (.count e)
  | wordShapes => .ok ((Offsets.upTo a b).map (.wordShape · .chris2))
  | unicodeShapes => .ok ((Offsets.upTo a b).map (.wordShape · .chris4))
  | unicodeShapeConjunction => .ok [.shapeConjunction a b .chris4]

end Keyword

/-! ## Words with a fixed meaning -/

/-- Architectures that are no macros but fixed lists of templates. -/
inductive FixedSet
  | sighan2005
  | german
deriving DecidableEq, Repr

namespace FixedSet

def templates : FixedSet → List Template
  | sighan2005 => [
    .word 0, .word (-1), .word (-2), .word 1, .word 2, .tag (-1), .tag (-2), .tagWindow (-2)]
  | german => [
    .word 0, .word (-1), .word 1, .tag 1, .tag (-1), .tagWindow (-2), .wordTag 0 (-1),
    .twoWords (.of (-1) 0)]

end FixedSet

def lowered (token : String) : String := String.ofList (Unicode.lowercase token.toList)

/-- The fixed list that a token text names. Case counts in one of the two names only. -/
def fixedSet? (token : String) : Option FixedSet :=
  if token = "sighan2005" then some .sighan2005
  else if lowered token = "german" then some .german
  else none

/-- Words that another compiler reads, in upper or lower case. -/
def reservedWords : List String := [
  "naacl2003unknowns", "lnaacl2003unknowns", "caselessnaacl2003unknowns",
  "naacl2003conjunctions", "frenchunknowns", "motleyunknown", "lctagfeatures"]

/-- Names before parentheses that another compiler reads. -/
def reservedFunctions : List String := [
  "wordshapes", "suffix", "prefix", "capitalizationsuffix", "distsim", "distsimconjunction",
  "unicodeshapes", "chinesedictionaryfeatures", "unicodeshapeconjunction"]

/-- The first letters of tokens that another compiler reads. -/
def reservedStart : String := "prefixsuffix"

/-- Whether a token is for another compiler. -/
def Token.isReserved (t : Token) : Bool :=
  reservedWords.contains (lowered t.text) ||
    (t.parenthesized && reservedFunctions.contains t.name) ||
    reservedStart.toList.isPrefixOf t.text.toList

/-- What a token is: a fixed list, a keyword with arguments, for another compiler, or unknown. -/
inductive Token.Meaning
  | fixed (set : FixedSet)
  | keyword (k : Keyword)
  | reserved
  | unknown
deriving DecidableEq, Repr

def Token.keyword? (t : Token) : Option Keyword :=
  if t.parenthesized then Keyword.ofName? t.name else none

def Token.meaning (t : Token) : Meaning :=
  match fixedSet? t.text with
  | some set => .fixed set
  | none =>
    match t.keyword? with
    | some k => .keyword k
    | none => if t.isReserved then .reserved else .unknown

end TaggerFeatures.Architecture
