/-! What is left of a YAML text, and where its first character stands. -/
namespace TaggerFeatures.Yaml

/-- The characters that end a line. Other ways to write a line end are unified beforehand. -/
def isBreak (c : Char) : Bool := c == '\n' || c == '\x85' || c == '\u2028' || c == '\u2029'

def isSpace (c : Char) : Bool := c == ' ' || c == '\t'

/-- Whether nothing follows on the line. -/
def endsLine : Option Char → Bool
  | none => true
  | some c => isBreak c

/-- Whether a blank, or nothing on the line, follows. -/
def isGap : Option Char → Bool
  | none => true
  | some c => isSpace c || isBreak c

/-- Whether a space, or nothing on the line, follows; a tab does not count. -/
def isWordEnd : Option Char → Bool
  | none => true
  | some c => c == ' ' || isBreak c

/-- Whether a character may occur in a YAML text. -/
def isAllowed (c : Char) : Bool :=
  let n := c.toNat
  n == 0x09 || n == 0x0A || n == 0x0D || (0x20 ≤ n && n ≤ 0x7E) || n == 0x85 ||
    (0xA0 ≤ n && n ≤ 0xD7FF) || (0xE000 ≤ n && n ≤ 0xFFFD) || 0x10000 ≤ n

/-- The characters that are left, and how many characters, lines and columns lie before them. -/
structure Source where
  rest : List Char
  index : Nat := 0
  line : Nat := 0
  column : Nat := 0

namespace Source

def peek (s : Source) : Option Char := s.rest.head?

/-- The character at a distance from the first. -/
def peekAt (s : Source) (distance : Nat) : Option Char := s.rest[distance]?

def sees (s : Source) (c : Char) : Bool := s.peek == some c

/-- Whether the first character has a property. -/
def seesAny (s : Source) (p : Char → Bool) : Bool := s.peek.any p

/-- Goes past the first character. A byte order mark has no width. -/
def advance (s : Source) : Source :=
  match s.rest with
  | [] => s
  | c :: rest =>
    if isBreak c then ⟨rest, s.index + 1, s.line + 1, 0⟩
    else ⟨rest, s.index + 1, s.line, if c == '\uFEFF' then s.column else s.column + 1⟩

def advanceBy : (count : Nat) → Source → Source
  | 0, s => s
  | count + 1, s => advanceBy count s.advance

/-- The first characters that have a property. -/
def leading (s : Source) (p : Char → Bool) : List Char := s.rest.takeWhile p

/-- Goes past the first characters that have a property. -/
def skipWhile (s : Source) (p : Char → Bool) : Source := s.advanceBy (s.leading p).length

def skipSpaces (s : Source) : Source := s.skipWhile (· == ' ')

def skipComment (s : Source) : Source :=
  if s.sees '#' then s.skipWhile (!isBreak ·) else s

def skipIndent (column : Nat) (s : Source) : Source :=
  s.advanceBy (min (column - s.column) (s.leading (· == ' ')).length)

/-- Takes a line end. The separators of lines and paragraphs stay what they are. -/
def takeBreak? (s : Source) : Option (Char × Source) :=
  match s.peek with
  | some c =>
    if isBreak c then some (if c == '\n' || c == '\x85' then '\n' else c, s.advance) else none
  | none => none

/-- Whether the text starts with `---` or `...` and a gap, which ends a document. -/
def atMarker (s : Source) : Bool :=
  match s.rest with
  | a :: b :: c :: rest => (a == '-' || a == '.') && b == a && c == a && isGap rest.head?
  | _ => false

end Source
end TaggerFeatures.Yaml
