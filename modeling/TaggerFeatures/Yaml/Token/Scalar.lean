import TaggerFeatures.Json
import TaggerFeatures.Yaml.Error
import TaggerFeatures.Yaml.Source

/-!
Scalars of a YAML text: plain ones, quoted ones, and blocks of lines. Line ends inside a scalar are
folded: a single one is a space, of several the first is dropped.
-/
namespace TaggerFeatures.Yaml

/-- The folded form of a line end and the line ends after it. -/
def foldBreaks (first : Char) (more : List Char) : List Char :=
  if first == '\n' then (if more.isEmpty then [' '] else more) else first :: more

/-! ## Quoted scalars -/

/-- Line ends and blanks at the start of a line; a document must not end inside quotes. -/
def quotedBreaks : (fuel : Nat) → Source → Except Error (List Char × Source)
  | 0, _ => .error .malformed
  | fuel + 1, s =>
    if s.atMarker then .error .malformed
    else
      let s := s.skipWhile isSpace
      match s.takeBreak? with
      | some (c, s) => do
        let (more, s) ← quotedBreaks fuel s
        .ok (c :: more, s)
      | none => .ok ([], s)

/-- Blanks and line ends between words. -/
def quotedGap (s : Source) : Except Error (List Char × Source) :=
  let blanks := s.leading isSpace
  let s := s.skipWhile isSpace
  match s.takeBreak? with
  | some (first, s) => do
    let (more, s) ← quotedBreaks (s.rest.length + 1) s
    .ok (foldBreaks first more, s)
  | none => .ok (blanks, s)

/-- The character that one letter after a backslash stands for. -/
def escaped? : Char → Option Char
  | '0' => some '\x00'
  | 'a' => some '\x07'
  | 'b' => some '\x08'
  | 't' => some '\t'
  | '\t' => some '\t'
  | 'n' => some '\n'
  | 'v' => some '\x0B'
  | 'f' => some '\x0C'
  | 'r' => some '\r'
  | 'e' => some '\x1B'
  | ' ' => some ' '
  | '"' => some '"'
  | '\\' => some '\\'
  | '/' => some '/'
  | 'N' => some '\x85'
  | '_' => some '\xA0'
  | 'L' => some '\u2028'
  | 'P' => some '\u2029'
  | _ => none

/-- How many hexadecimal digits follow a letter after a backslash. -/
def escapeWidth? : Char → Option Nat
  | 'x' => some 2
  | 'u' => some 4
  | 'U' => some 8
  | _ => none

def hexNumber? (digits : List Char) : Option Nat :=
  digits.foldl (fun n c => do some ((← n) * 16 + (← Json.hexValue? c))) (some 0)

/-- The character of a number escape of the given width. -/
def numberEscape (width : Nat) (s : Source) : Except Error (Char × Source) :=
  let digits := s.rest.take width
  match hexNumber? digits with
  | none => .error .malformed
  | some n =>
    if digits.length < width then .error .malformed
    else if n < 0x110000 then .ok (Json.charOf n, s.advanceBy width)
    else if n < 0x80000000 then .error .noCharacter
    else .error .characterTooLarge

/-- The characters that an escape stands for, read behind the backslash. -/
def escape (s : Source) : Except Error (List Char × Source) :=
  match s.peek with
  | none => .error .malformed
  | some c =>
    match escaped? c, escapeWidth? c, s.takeBreak? with
    | some c, _, _ => .ok ([c], s.advance)
    | _, some width, _ => (numberEscape width s.advance).map fun (c, s) => ([c], s)
    | _, _, some (_, s) => quotedBreaks (s.rest.length + 1) s
    | _, _, _ => .error .malformed

/-- The text up to the closing mark, read behind the opening one. -/
def quotedText (double : Bool) : (fuel : Nat) → Source → Except Error (List Char × Source)
  | 0, _ => .error .malformed
  | fuel + 1, s =>
    match s.peek with
    | none => .error .malformed
    | some c =>
      if isSpace c || isBreak c then do
        let (gap, s) ← quotedGap s
        let (more, s) ← quotedText double fuel s
        .ok (gap ++ more, s)
      else if double && c == '\\' then do
        let (cs, s) ← escape s.advance
        let (more, s) ← quotedText double fuel s
        .ok (cs ++ more, s)
      else if c == (if double then '"' else '\'') then
        if !double && s.peekAt 1 == some '\'' then do
          let (more, s) ← quotedText double fuel (s.advanceBy 2)
          .ok ('\'' :: more, s)
        else .ok ([], s.advance)
      else do
        let (more, s) ← quotedText double fuel s.advance
        .ok (c :: more, s)

def quotedScalar (double : Bool) (s : Source) : Except Error (String × Source) := do
  let (text, s) ← quotedText double (s.rest.length + 1) s.advance
  .ok (String.ofList text, s)

/-! ## Plain scalars -/

/-- The characters that end plain text inside brackets. -/
def isFlowEnd (c : Char) : Bool :=
  c == ',' || c == '?' || c == '[' || c == ']' || c == '\x7b' || c == '\x7d'

/-- The characters before which a colon ends plain text inside brackets. -/
def endsFlowKey (c : Char) : Bool :=
  c == ',' || c == '[' || c == ']' || c == '\x7b' || c == '\x7d'

/-- How many characters of plain text there are up to a blank or an indicator. -/
def plainLength (inFlow : Bool) : List Char → Nat
  | [] => 0
  | c :: cs =>
    if isGap (some c) || (c == ':' && (isGap cs.head? || (inFlow && cs.head?.any endsFlowKey))) ||
        (inFlow && isFlowEnd c) then 0
    else plainLength inFlow cs + 1

/-- Line ends and spaces between lines of plain text; nothing if the document ends there. -/
def plainBreaks : (fuel : Nat) → Source → Option (List Char) × Source
  | 0, s => (none, s)
  | fuel + 1, s =>
    if s.atMarker then (none, s)
    else
      let s := s.skipSpaces
      match s.takeBreak? with
      | some (c, s) =>
        let (more, s) := plainBreaks fuel s
        (more.map (c :: ·), s)
      | none => (some [], s)

/-- What stands between two runs of plain text, and whether it has a line end; nothing if the
scalar ends. -/
def plainGap (s : Source) : Option (List Char) × Bool × Source :=
  let blanks := s.leading (· == ' ')
  let s := s.skipSpaces
  match s.takeBreak? with
  | some (first, s) =>
    let (more, s) := plainBreaks (s.rest.length + 1) s
    (more.map (foldBreaks first), true, s)
  | none => (if blanks.isEmpty then none else some blanks, false, s)

/-- Plain text, whether it ends behind a line end, and what follows. Outside brackets further lines
have to be indented. -/
def plainText (inFlow : Bool) (indent : Int) : (fuel : Nat) → (gap : List Char) →
    (crossed : Bool) → Source → List Char × Bool × Source
  | 0, _, crossed, s => ([], crossed, s)
  | fuel + 1, gap, crossed, s =>
    let length := if s.sees '#' then 0 else plainLength inFlow s.rest
    if length = 0 then ([], crossed, s)
    else
      let run := gap ++ s.rest.take length
      match plainGap (s.advanceBy length) with
      | (none, crossed, s) => (run, crossed, s)
      | (some gap, crossed, s) =>
        if s.sees '#' || (!inFlow && decide ((s.column : Int) < indent + 1)) then (run, crossed, s)
        else
          let (more, crossed, s) := plainText inFlow indent fuel gap crossed s
          (run ++ more, crossed, s)

/-- Reads a plain scalar; tells too whether it ends behind a line end. -/
def plainScalar (inFlow : Bool) (indent : Int) (s : Source) : String × Bool × Source :=
  let (text, crossed, s) := plainText inFlow indent (s.rest.length + 1) [] false s
  (String.ofList text, crossed, s)

/-! ## Blocks of lines -/

/-- What becomes of the line ends at the end of a block. -/
inductive Chomping
  | strip
  | clip
  | keep
deriving DecidableEq, Repr

def chomping? : Option Char → Option Chomping
  | some '+' => some .keep
  | some '-' => some .strip
  | _ => none

def indentDigit? : Option Char → Option Nat
  | some c => if Numeral.isDigit c then some (Numeral.digitValue c) else none
  | none => none

/-- Reads the sign and the digit behind the mark of a block, in either order. -/
def blockHeader (s : Source) : Except Error (Chomping × Option Nat × Source) :=
  let (chomping, s) := match chomping? s.peek with
    | some c => (some c, s.advance)
    | none => (none, s)
  let (digit, s) := match indentDigit? s.peek with
    | some d => (some d, s.advance)
    | none => (none, s)
  let (chomping, s) := match chomping, digit, chomping? s.peek with
    | none, some _, some c => (some c, s.advance)
    | _, _, _ => (chomping, s)
  if digit = some 0 || !isWordEnd s.peek then .error .malformed
  else .ok (chomping.getD .clip, digit, s)

/-- Goes past the rest of a line that holds nothing but a comment. -/
def ignoredLine (s : Source) : Except Error Source :=
  let s := s.skipSpaces.skipComment
  if !endsLine s.peek then .error .malformed
  else .ok (match s.takeBreak? with
    | some (_, s) => s
    | none => s)

/-- The line ends before the first line of a block, and the greatest indentation seen. -/
def blockStart : (fuel : Nat) → (greatest : Nat) → Source → List Char × Nat × Source
  | 0, greatest, s => ([], greatest, s)
  | fuel + 1, greatest, s =>
    match s.takeBreak? with
    | some (c, s) =>
      let (more, greatest, s) := blockStart fuel greatest s
      (c :: more, greatest, s)
    | none =>
      if s.sees ' ' then
        let s := s.advance
        blockStart fuel (max greatest s.column) s
      else ([], greatest, s)

/-- Line ends between the lines of a block; spaces up to the indentation are dropped. -/
def blockBreaks (indent : Nat) : (fuel : Nat) → Source → List Char × Source
  | 0, s => ([], s)
  | fuel + 1, s =>
    let s := s.skipIndent indent
    match s.takeBreak? with
    | some (c, s) =>
      let (more, s) := blockBreaks indent fuel s
      (c :: more, s)
    | none => ([], s)

/-- What stands for the line end between two lines of a block and the empty lines after it. A
folded block keeps line ends next to lines that start with a blank. -/
def blockJoin (folded : Bool) (ending : List Char) (breaks : List Char) (above below : Bool) :
    List Char :=
  if folded && ending == ['\n'] && above && below then
    (if breaks.isEmpty then [' '] else breaks)
  else ending ++ breaks

/-- The lines of a block from the first one on, then the last line end and the empty lines. -/
def blockLines (folded : Bool) (indent : Nat) : (fuel : Nat) → Source →
    List Char × List Char × List Char × Source
  | 0, s => ([], [], [], s)
  | fuel + 1, s =>
    let above := !s.seesAny isSpace
    let line := s.leading (!isBreak ·)
    let s := s.skipWhile (!isBreak ·)
    let (ending, s) := match s.takeBreak? with
      | some (c, s) => ([c], s)
      | none => ([], s)
    let (breaks, s) := blockBreaks indent (s.rest.length + 1) s
    if s.column = indent && s.peek.isSome then
      let glue := blockJoin folded ending breaks above (!s.seesAny isSpace)
      let (more, ending, breaks, s) := blockLines folded indent fuel s
      (line ++ glue ++ more, ending, breaks, s)
    else (line, ending, breaks, s)

/-- Reads a block of lines below the given indentation. -/
def blockScalar (folded : Bool) (indent : Int) (s : Source) : Except Error (String × Source) := do
  let (chomping, digit, s) ← blockHeader s.advance
  let s ← ignoredLine s
  let least := max (indent + 1) 1
  let (start, indent, s) := match digit with
    | none =>
      let (start, greatest, s) := blockStart (s.rest.length + 1) 0 s
      (start, max least.toNat greatest, s)
    | some d =>
      let indent := least.toNat + d - 1
      let (start, s) := blockBreaks indent (s.rest.length + 1) s
      (start, indent, s)
  let (text, ending, breaks, s) :=
    if s.column = indent && s.peek.isSome then
      let (text, ending, breaks, s) := blockLines folded indent (s.rest.length + 1) s
      (start ++ text, ending, breaks, s)
    else ([], [], start, s)
  let tail := match chomping with
    | .strip => []
    | .clip => ending
    | .keep => ending ++ breaks
  .ok (String.ofList (text ++ tail), s)

end TaggerFeatures.Yaml
