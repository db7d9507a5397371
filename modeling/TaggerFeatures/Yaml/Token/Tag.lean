import TaggerFeatures.Text.Utf8
import TaggerFeatures.Yaml.Token
import TaggerFeatures.Yaml.Source
import TaggerFeatures.Yaml.Token.Scalar

/-! Names, tags and directives of a YAML text. -/
namespace TaggerFeatures.Yaml

/-- The characters of names: ASCII letters, digits, hyphen and low line. -/
def isNameChar (c : Char) : Bool := c.isAlphanum || c == '-' || c == '_'

def endsName : Option Char → Bool
  | none => true
  | some c => isGap (some c) || "?:,]\x7d%@\x60".toList.contains c

/-- Reads the name behind the mark of an anchor or a reference. -/
def anchorName (s : Source) : Except Error (String × Source) :=
  let s := s.advance
  let name := s.leading isNameChar
  let s := s.skipWhile isNameChar
  if name.isEmpty || !endsName s.peek then .error .malformed else .ok (String.ofList name, s)

/-- The characters of tags, escapes apart. -/
def isTagChar (c : Char) : Bool :=
  c.isAlphanum || "-;/?:@&=+$,_.!~*'()[]".toList.contains c

/-- The bytes of consecutive escapes in a tag. -/
def tagEscapes : (fuel : Nat) → Source → Except Error (List UInt8 × Source)
  | 0, s => .ok ([], s)
  | fuel + 1, s =>
    if s.sees '%' then
      match hexNumber? ((s.rest.drop 1).take 2) with
      | some n =>
        if s.rest.length < 3 then .error .malformed
        else do
          let (more, s) ← tagEscapes fuel (s.advanceBy 3)
          .ok (UInt8.ofNat n :: more, s)
      | none => .error .malformed
    else .ok ([], s)

/-- The characters of a tag, with escapes resolved. -/
def tagText : (fuel : Nat) → Source → Except Error (List Char × Source)
  | 0, s => .ok ([], s)
  | fuel + 1, s =>
    match s.peek with
    | some '%' => do
      let (bytes, s) ← tagEscapes (s.rest.length + 1) s
      let cs ← (Text.Utf8.decode bytes).mapError fun _ => .malformed
      let (more, s) ← tagText fuel s
      .ok (cs ++ more, s)
    | some c =>
      if isTagChar c then do
        let (more, s) ← tagText fuel s.advance
        .ok (c :: more, s)
      else .ok ([], s)
    | none => .ok ([], s)

def tagName (s : Source) : Except Error (String × Source) := do
  let (cs, s) ← tagText (s.rest.length + 1) s
  if cs.isEmpty then .error .malformed else .ok (String.ofList cs, s)

/-- Reads a tag handle: one exclamation mark, or a name between two. -/
def tagHandle (s : Source) : Except Error (String × Source) :=
  if !s.sees '!' then .error .malformed
  else
    let s := s.advance
    if s.sees ' ' then .ok ("!", s)
    else
      let name := s.leading isNameChar
      let s := s.skipWhile isNameChar
      if s.sees '!' then .ok (String.ofList ('!' :: name ++ ['!']), s.advance)
      else .error .malformed

/-- Reads a tag: in angle brackets, an exclamation mark alone, or a handle and a name. -/
def readTag (s : Source) : Except Error (Token × Source) := do
  let (token, s) ←
    if s.peekAt 1 == some '<' then do
      let (suffix, s) ← tagName (s.advanceBy 2)
      if s.sees '>' then .ok (.tag none suffix, s.advance) else .error .malformed
    else if isGap (s.peekAt 1) then .ok (.tag none "!", s.advance)
    else
      let word := s.advance.leading fun c => !(c == ' ' || isBreak c)
      let (handle, s) ← if word.contains '!' then tagHandle s else .ok ("!", s.advance)
      let (suffix, s) ← tagName s
      .ok (.tag (some handle) suffix, s)
  if isWordEnd s.peek then .ok (token, s) else .error .malformed

def versionNumber (s : Source) : Except Error (Int × Source) :=
  let digits := s.leading Numeral.isDigit
  if digits.isEmpty then .error .malformed
  else match (⟨false, digits⟩ : Numeral).value with
    | .ok n => .ok (n, s.skipWhile Numeral.isDigit)
    | .error e => .error (.tooLong e)

/-- Reads what follows the name of a directive. -/
def directiveValue (name : List Char) (s : Source) : Except Error (Directive × Source) :=
  match String.ofList name with
  | "YAML" => do
    let (major, s) ← versionNumber s.skipSpaces
    if s.sees '.' then
      let (_, s) ← versionNumber s.advance
      if isWordEnd s.peek then .ok (.version major, s) else .error .malformed
    else .error .malformed
  | "TAG" => do
    let (handle, s) ← tagHandle s.skipSpaces
    if s.sees ' ' then
      let (replacement, s) ← tagName s.skipSpaces
      if isWordEnd s.peek then .ok (.handle handle replacement, s) else .error .malformed
    else .error .malformed
  | _ => .ok (.other, s.skipWhile (!isBreak ·))

/-- Reads a directive to the end of its line. -/
def readDirective (s : Source) : Except Error (Token × Source) := do
  let s := s.advance
  let name := s.leading isNameChar
  let s := s.skipWhile isNameChar
  if name.isEmpty || !isWordEnd s.peek then .error .malformed
  else
    let (directive, s) ← directiveValue name s
    let s ← ignoredLine s
    .ok (.directive directive, s)

end TaggerFeatures.Yaml
