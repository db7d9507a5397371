/-!
Bytes from text in 64 digits, each of which gives six bits. Characters that are no digits are left
out of account, and text behind the padding is not looked at.
-/
namespace TaggerFeatures.Text.Base64

def value? (c : Char) : Option Nat :=
  if 'A' ≤ c && c ≤ 'Z' then some (c.toNat - 'A'.toNat)
  else if 'a' ≤ c && c ≤ 'z' then some (c.toNat - 'a'.toNat + 26)
  else if '0' ≤ c && c ≤ '9' then some (c.toNat - '0'.toNat + 52)
  else if c == '+' then some 62
  else if c == '/' then some 63
  else none

/-- Decodes what follows `count` digits of a group of four, of which the bits in `left` are not yet
used, and `pads` padding characters. A group may only be left incomplete by padding. -/
def decodeFrom : (count left pads : Nat) → List Char → Option (List UInt8)
  | count, _, _, [] => if count = 0 then some [] else none
  | count, left, pads, c :: cs =>
    if c = '=' then
      if 2 ≤ count then
        if 4 ≤ count + pads + 1 then some [] else decodeFrom count left (pads + 1) cs
      else decodeFrom count left pads cs
    else
      match value? c with
      | none => decodeFrom count left pads cs
      | some d =>
        let bits := left * 64 + d
        match count with
        | 0 => decodeFrom 1 d 0 cs
        | 1 => (decodeFrom 2 (bits % 16) 0 cs).map (UInt8.ofNat (bits / 16) :: ·)
        | 2 => (decodeFrom 3 (bits % 4) 0 cs).map (UInt8.ofNat (bits / 4) :: ·)
        | _ => (decodeFrom 0 0 0 cs).map (UInt8.ofNat bits :: ·)

/-- Decodes a text, which has to be plain ASCII. -/
def decode? (s : List Char) : Option (List UInt8) :=
  if s.all (·.toNat < 128) then decodeFrom 0 0 0 s else none

end TaggerFeatures.Text.Base64
