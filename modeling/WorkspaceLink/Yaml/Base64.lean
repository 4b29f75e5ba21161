/-!
# Bytes as text

Bytes written six bits at a time, as letters, digits and two signs. What belongs to none of them is
skipped, and the signs that fill up the last group end the text.
-/

namespace WorkspaceLink.Yaml.Base64

def bits? (c : Char) : Option Nat :=
  if c.isUpper then some (c.toNat - 'A'.toNat)
  else if c.isLower then some (c.toNat - 'a'.toNat + 26)
  else if c.isDigit then some (c.toNat - '0'.toNat + 52)
  else if c = '+' then some 62
  else if c = '/' then some 63
  else none

/-- The byte that the bits left over from the characters before and the bits of the next one
complete: two characters after the start of a group it is the first, then the second and third. -/
def byteOf (place left bits : Nat) : UInt8 :=
  match place with
  | 1 => UInt8.ofNat (left * 4 + bits / 16)
  | 2 => UInt8.ofNat (left * 16 + bits / 4)
  | _ => UInt8.ofNat (left * 64 + bits)

/-- The bits of a character that belong to the next byte. -/
def leftOver (place bits : Nat) : Nat :=
  match place with
  | 0 => bits
  | 1 => bits % 16
  | 2 => bits % 4
  | _ => 0

/-- Reads characters from a place in a group of four on, after so many filling signs in a row. A
group that is neither empty nor complete has to be filled up. -/
def decodeFrom (place pads left : Nat) : List Char → Option (List UInt8)
  | [] => if place = 0 then some [] else none
  | c :: cs =>
    if c = '=' then
      if 2 ≤ place then
        if 4 ≤ place + pads + 1 then some [] else decodeFrom place (pads + 1) left cs
      else decodeFrom place pads left cs
    else
      match bits? c with
      | none => decodeFrom place pads left cs
      | some b =>
        let rest := decodeFrom ((place + 1) % 4) 0 (leftOver place b) cs
        if place = 0 then rest else rest.map (byteOf place left b :: ·)

/-- The bytes that an ASCII text writes. -/
def decode? (cs : List Char) : Option (List UInt8) :=
  if cs.all fun c => c.toNat < 0x80 then decodeFrom 0 0 0 cs else none

end WorkspaceLink.Yaml.Base64
