import TaggerFeatures.Yaml.Token.Tag

/-!
Reading a YAML text into tokens. Indentation opens and closes blocks; what turns out to stand before
a colon becomes a key afterwards.
-/
namespace TaggerFeatures.Yaml

/-- A place where a key may have begun: how many tokens stand before it, and its position. -/
structure PossibleKey where
  place : Nat
  required : Bool
  index : Nat
  line : Nat
  column : Nat

/-- What has been read: the tokens, latest first, and what decides on the next one. Keys are kept by
the number of open brackets. -/
structure Layout where
  source : Source
  flow : Nat := 0
  indent : Int := -1
  outer : List Int := []
  keyAllowed : Bool := true
  keys : List (Nat × PossibleKey) := []
  tokens : List Token := []

namespace Layout

def push (l : Layout) (t : Token) : Layout := { l with tokens := t :: l.tokens }

/-- Puts a token behind the first `place` ones. -/
def insert (l : Layout) (place : Nat) (t : Token) : Layout :=
  let later := l.tokens.length - place
  { l with tokens := l.tokens.take later ++ t :: l.tokens.drop later }

/-- Whether the text stands inside brackets. -/
def inFlow (l : Layout) : Bool := l.flow != 0

/-- Goes past spaces, comments and line ends. Outside brackets a key may begin behind a line end. -/
def skipToToken : (fuel : Nat) → Layout → Layout
  | 0, l => l
  | fuel + 1, l =>
    let s := l.source.skipSpaces.skipComment
    match s.takeBreak? with
    | some (_, s) =>
      skipToToken fuel { l with source := s, keyAllowed := l.keyAllowed || !l.inFlow }
    | none => { l with source := s }

/-- Whether what began at a place lies on an earlier line or too far back to be a key. -/
def isStale (l : Layout) (k : PossibleKey) : Bool :=
  k.line != l.source.line || k.index + 1024 < l.source.index

/-- Drops the possible keys that are none. -/
def dropStale (l : Layout) : Except Error Layout :=
  if l.keys.any fun (_, k) => l.isStale k && k.required then .error .malformed
  else .ok { l with keys := l.keys.filter fun (_, k) => !l.isStale k }

/-- Drops the possible key at the current depth. -/
def dropKey (l : Layout) : Except Error Layout :=
  if l.keys.any fun (depth, k) => depth == l.flow && k.required then .error .malformed
  else .ok { l with keys := l.keys.filter fun (depth, _) => depth != l.flow }

def noteKey (l : Layout) : Except Error Layout :=
  if l.keyAllowed then do
    let l ← l.dropKey
    let k : PossibleKey := {
      place := l.tokens.length
      required := !l.inFlow && l.indent == l.source.column
      index := l.source.index
      line := l.source.line
      column := l.source.column }
    .ok { l with keys := (l.flow, k) :: l.keys }
  else .ok l

/-- Closes the blocks that are indented more than `column`. -/
def closeBlocks (column : Int) : (outer : List Int) → Layout → Layout
  | [], l => l
  | indent :: outer, l =>
    if column < l.indent then closeBlocks column outer ({ l with indent, outer }.push .blockEnd)
    else l

/-- Closes the blocks that are indented more than `column`; inside brackets there are none. -/
def unindent (column : Int) (l : Layout) : Layout :=
  if l.inFlow then l else closeBlocks column l.outer l

/-- Opens a block at a column that lies to the right of the current one. -/
def openBlock (column : Nat) (t : Token) (place : Nat) (l : Layout) : Layout :=
  if l.indent < column then { l with indent := column, outer := l.indent :: l.outer }.insert place t
  else l

/-- Goes on behind a token of one character. -/
def single (l : Layout) (t : Token) : Layout := { l with source := l.source.advance }.push t

/-- The end of the text closes everything. -/
def atEnd (l : Layout) : Except Error Layout := do
  let l ← (l.unindent (-1)).dropKey
  .ok ({ l with keyAllowed := false, keys := [] }.push .streamEnd)

/-- A directive or a document mark closes all blocks. -/
def atDocument (l : Layout) (read : Source → Except Error (Token × Source)) :
    Except Error Layout := do
  let l ← (l.unindent (-1)).dropKey
  let (t, s) ← read l.source
  .ok ({ l with keyAllowed := false, source := s }.push t)

def atOpening (l : Layout) (t : Token) : Except Error Layout := do
  let l ← l.noteKey
  .ok ({ l with flow := l.flow + 1, keyAllowed := true }.single t)

def atClosing (l : Layout) (t : Token) : Except Error Layout := do
  let l ← l.dropKey
  .ok ({ l with flow := l.flow - 1, keyAllowed := false }.single t)

def atComma (l : Layout) : Except Error Layout := do
  let l ← { l with keyAllowed := true }.dropKey
  .ok (l.single .flowEntry)

def atDash (l : Layout) : Except Error Layout := do
  if !l.inFlow && !l.keyAllowed then .error .malformed
  else
    let l := if l.inFlow then l
      else l.openBlock l.source.column .blockSequenceStart l.tokens.length
    let l ← { l with keyAllowed := true }.dropKey
    .ok (l.single .blockEntry)

def atQuestion (l : Layout) : Except Error Layout := do
  if !l.inFlow && !l.keyAllowed then .error .malformed
  else
    let l := if l.inFlow then l
      else l.openBlock l.source.column .blockMappingStart l.tokens.length
    let l ← { l with keyAllowed := !l.inFlow }.dropKey
    .ok (l.single .key)

/-- The colon behind a key. What was noted as a possible key becomes one. -/
def atColon (l : Layout) : Except Error Layout := do
  match l.keys.lookup l.flow with
  | some k =>
    let l := { l with keys := l.keys.filter fun (depth, _) => depth != l.flow }
    let l := l.insert k.place .key
    let l := if l.inFlow then l else l.openBlock k.column .blockMappingStart k.place
    .ok ({ l with keyAllowed := false }.single .value)
  | none =>
    if !l.inFlow && !l.keyAllowed then .error .malformed
    else
      let l := if l.inFlow then l
        else l.openBlock l.source.column .blockMappingStart l.tokens.length
      let l ← { l with keyAllowed := !l.inFlow }.dropKey
      .ok (l.single .value)

/-- A token that may be, or begin, a key. -/
def atContent (l : Layout) (read : Source → Except Error (Token × Source)) :
    Except Error Layout := do
  let l ← l.noteKey
  let (t, s) ← read l.source
  .ok ({ l with keyAllowed := false, source := s }.push t)

def atQuote (l : Layout) (double : Bool) : Except Error Layout :=
  l.atContent fun s => do
    let (text, s) ← quotedScalar double s
    .ok (.scalar text false, s)

def atBlock (l : Layout) (folded : Bool) : Except Error Layout := do
  let l ← { l with keyAllowed := true }.dropKey
  let (text, s) ← blockScalar folded l.indent l.source
  .ok ({ l with source := s }.push (.scalar text false))

def atPlain (l : Layout) : Except Error Layout := do
  let l ← l.noteKey
  let (text, crossed, s) := plainScalar l.inFlow l.indent l.source
  .ok ({ l with keyAllowed := crossed, source := s }.push (.scalar text true))

def startsPlain (inFlow : Bool) (s : Source) : Bool :=
  match s.peek with
  | none => false
  | some c =>
    !(isGap (some c) || "-?:,[]\x7b\x7d#&*!|>'\"%@\x60".toList.contains c) ||
      (!isGap (s.peekAt 1) && (c == '-' || (!inFlow && (c == '?' || c == ':'))))

def marker (t : Token) (s : Source) : Except Error (Token × Source) := .ok (t, s.advanceBy 3)

def named (make : String → Token) (s : Source) : Except Error (Token × Source) :=
  (anchorName s).map fun (name, s) => (make name, s)

/-- Reads the next token, and the tokens that the indentation tells. -/
def next (l : Layout) : Except Error Layout := do
  let l ← (l.skipToToken (l.source.rest.length + 1)).dropStale
  let l := l.unindent l.source.column
  let s := l.source
  let indicator := l.inFlow || isGap (s.peekAt 1)
  let atMark := s.column == 0 && s.atMarker
  match s.peek with
  | none => l.atEnd
  | some c =>
    if c == '%' && s.column == 0 then l.atDocument readDirective
    else if c == '-' && atMark then l.atDocument (marker .documentStart)
    else if c == '.' && atMark then l.atDocument (marker .documentEnd)
    else if c == '[' then l.atOpening .flowSequenceStart
    else if c == '\x7b' then l.atOpening .flowMappingStart
    else if c == ']' then l.atClosing .flowSequenceEnd
    else if c == '\x7d' then l.atClosing .flowMappingEnd
    else if c == ',' then l.atComma
    else if c == '-' && isGap (s.peekAt 1) then l.atDash
    else if c == '?' && indicator then l.atQuestion
    else if c == ':' && indicator then l.atColon
    else if c == '*' then l.atContent (named .reference)
    else if c == '&' then l.atContent (named .anchor)
    else if c == '!' then l.atContent readTag
    else if c == '|' && !l.inFlow then l.atBlock false
    else if c == '>' && !l.inFlow then l.atBlock true
    else if c == '\'' then l.atQuote false
    else if c == '"' then l.atQuote true
    else if startsPlain l.inFlow s then l.atPlain
    else .error .malformed

/-- The tokens before a failure. What may still turn out to stand before a colon is not told: the
failure takes its place. -/
def failed (l : Layout) (e : Error) : List Token :=
  let undecided := l.keys.filterMap fun (_, k) => if l.isStale k then none else some k.place
  l.tokens.reverse.take (undecided.foldl min l.tokens.length) ++ [.failure e]

/-- Reads tokens up to the end of the text or the first failure. -/
def readAll : (fuel : Nat) → Layout → List Token
  | 0, l => l.failed .malformed
  | fuel + 1, l =>
    match l.next with
    | .error e => l.failed e
    | .ok l =>
      if l.tokens.head? = some .streamEnd then l.tokens.reverse else readAll fuel l

end Layout

/-- The tokens of a text. A byte order mark at the start is skipped. -/
def Token.ofText (text : List Char) : List Token :=
  if text.all isAllowed then
    let s : Source := { rest := text }
    let s := if s.sees '\uFEFF' then s.advance else s
    Layout.readAll (text.length + 2) { source := s }
  else [.failure .malformed]

end TaggerFeatures.Yaml
