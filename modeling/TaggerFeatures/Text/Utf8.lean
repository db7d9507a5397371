/-! Text from bytes in UTF-8, and the place and the reason where bytes are none. -/
namespace TaggerFeatures.Text.Utf8

inductive Reason
  | invalidStart
  | invalidContinuation
  | unexpectedEnd
deriving DecidableEq, Repr

/-- The bytes from `start` on, `count` of them beginning with `first`, are no text. -/
structure Error where
  start : Nat
  count : Nat
  first : UInt8
  reason : Reason
deriving DecidableEq, Repr

/-- The text reported for bytes that are no text. -/
def Error.message (e : Error) : String :=
  let hexDigits := Nat.toDigits 16 e.first.toNat
  let byte := String.ofList (List.replicate (2 - hexDigits.length) '0' ++ hexDigits)
  let place := if e.count = 1 then "byte 0x" ++ byte ++ " in position " ++ toString e.start
    else "bytes in position " ++ toString e.start ++ "-" ++ toString (e.start + e.count - 1)
  let reason := match e.reason with
    | .invalidStart => "invalid start byte"
    | .invalidContinuation => "invalid continuation byte"
    | .unexpectedEnd => "unexpected end of data"
  "'utf-8' codec can't decode " ++ place ++ ": " ++ reason

/-- A character of several bytes that is not yet complete. -/
structure Partial where
  start : Nat
  first : UInt8
  missing : Nat
  value : Nat
  low : UInt8 := 0x80
  high : UInt8 := 0xBF

/-- What a byte begins that is no character by itself. The range of the second byte keeps out
overlong forms, surrogates, and numbers beyond the last character. -/
def begin? (start : Nat) (b : UInt8) : Option Partial :=
  if 0xC2 ≤ b && b ≤ 0xDF then some ⟨start, b, 1, b.toNat - 0xC0, 0x80, 0xBF⟩
  else if b == 0xE0 then some ⟨start, b, 2, 0, 0xA0, 0xBF⟩
  else if b == 0xED then some ⟨start, b, 2, 0xD, 0x80, 0x9F⟩
  else if 0xE1 ≤ b && b ≤ 0xEF then some ⟨start, b, 2, b.toNat - 0xE0, 0x80, 0xBF⟩
  else if b == 0xF0 then some ⟨start, b, 3, 0, 0x90, 0xBF⟩
  else if 0xF1 ≤ b && b ≤ 0xF3 then some ⟨start, b, 3, b.toNat - 0xF0, 0x80, 0xBF⟩
  else if b == 0xF4 then some ⟨start, b, 3, 4, 0x80, 0x8F⟩
  else none

/-- Decodes the bytes from `position` on, behind a character that may be incomplete. -/
def decodeFrom : (position : Nat) → Option Partial → List UInt8 → Except Error (List Char)
  | _, none, [] => .ok []
  | position, some p, [] => .error ⟨p.start, position - p.start, p.first, .unexpectedEnd⟩
  | position, none, b :: bs =>
    if b < 0x80 then (decodeFrom (position + 1) none bs).map (Char.ofNat b.toNat :: ·)
    else match begin? position b with
      | none => .error ⟨position, 1, b, .invalidStart⟩
      | some p => decodeFrom (position + 1) (some p) bs
  | position, some p, b :: bs =>
    if p.low ≤ b && b ≤ p.high then
      let value := p.value * 64 + (b.toNat - 0x80)
      if p.missing = 1 then (decodeFrom (position + 1) none bs).map (Char.ofNat value :: ·)
      else decodeFrom (position + 1) (some ⟨p.start, p.first, p.missing - 1, value, 0x80, 0xBF⟩) bs
    else .error ⟨p.start, position - p.start, p.first, .invalidContinuation⟩

def decode (bytes : List UInt8) : Except Error (List Char) := decodeFrom 0 none bytes

/-- Whether an error lies in an incomplete last character, which is looked at again by itself. -/
def Error.inTail (e : Error) (bytes : List UInt8) : Bool :=
  e.reason = .unexpectedEnd ||
    match bytes.drop e.start with
    | [a, b] => a == 0xED && 0xA0 ≤ b && b ≤ 0xBF
    | _ => false

/-- How many bytes arrive at once. -/
def portion : Nat := 8192

/-- Decodes bytes that arrive in portions, behind an incomplete character. Places are counted from
the start of the portion, or of the incomplete character in front of it. -/
def decodeRest : (fuel : Nat) → (incomplete bytes : List UInt8) → Except Error (List Char)
  | 0, incomplete, bytes => decode (incomplete ++ bytes)
  | fuel + 1, incomplete, bytes =>
    if bytes.isEmpty then decode incomplete
    else
      let present := incomplete ++ bytes.take portion
      match decode present with
      | .ok cs => (decodeRest fuel [] (bytes.drop portion)).map (cs ++ ·)
      | .error e =>
        if e.inTail present then do
          let cs ← decode (present.take e.start)
          let more ← decodeRest fuel (present.drop e.start) (bytes.drop portion)
          .ok (cs ++ more)
        else .error e

def decodePortions (bytes : List UInt8) : Except Error (List Char) :=
  decodeRest (bytes.length / portion + 1) [] bytes

/-- One line break for each way of writing one. -/
def unifyBreaks : List Char → List Char
  | [] => []
  | '\r' :: '\n' :: cs => '\n' :: unifyBreaks cs
  | '\r' :: cs => '\n' :: unifyBreaks cs
  | c :: cs => c :: unifyBreaks cs

end TaggerFeatures.Text.Utf8
