/-!
# UTF-8

Bytes as a text: every character in its shortest form, and no halves of surrogate pairs. Reading
stops at the first byte that cannot belong to a text.
-/

namespace WorkspaceLink.Text

/-- Least and greatest values of a byte. -/
abbrev ByteRange := UInt8 × UInt8

/-- Any byte that continues a character. -/
def anyFollower : ByteRange := (0x80, 0xbf)

/-- What may follow the first byte of a character. -/
def followers? (first : UInt8) : Option (List ByteRange) :=
  if first < 0x80 then some []
  else if first < 0xc2 then none
  else if first < 0xe0 then some [anyFollower]
  else if first = 0xe0 then some [(0xa0, 0xbf), anyFollower]
  else if first = 0xed then some [(0x80, 0x9f), anyFollower]
  else if first < 0xf0 then some [anyFollower, anyFollower]
  else if first = 0xf0 then some [(0x90, 0xbf), anyFollower, anyFollower]
  else if first < 0xf4 then some [anyFollower, anyFollower, anyFollower]
  else if first = 0xf4 then some [(0x80, 0x8f), anyFollower, anyFollower]
  else none

/-- The bits that the first byte of a character gives it, by the number of bytes that follow. -/
def firstBits (first : UInt8) : Nat → Nat
  | 0 => first.toNat
  | 1 => first.toNat % 0x20
  | 2 => first.toNat % 0x10
  | _ => first.toNat % 0x08

/-- Bytes that have been read. -/
structure Decoded where
  /-- The characters, each with the number of its bytes. -/
  chars : List (Char × Nat)
  /-- The place of the first byte that does not fit; the end, if a character is not complete. -/
  stop : Option Nat

/-- Reads bytes from a place on, inside a character of which some bytes are still due. -/
def decodeFrom (done : List (Char × Nat)) (place : Nat) (due : List ByteRange) (bits size : Nat) :
    List UInt8 → Decoded
  | [] => ⟨done.reverse, if due.isEmpty then none else some place⟩
  | b :: bs =>
    match due with
    | [] =>
      match followers? b with
      | none => ⟨done.reverse, some place⟩
      | some [] => decodeFrom ((Char.ofNat b.toNat, 1) :: done) (place + 1) [] 0 0 bs
      | some later => decodeFrom done (place + 1) later (firstBits b later.length) 1 bs
    | (low, high) :: later =>
      if low ≤ b && b ≤ high then
        let bits := bits * 0x40 + (b.toNat - 0x80)
        if later.isEmpty then
          decodeFrom ((Char.ofNat bits, size + 1) :: done) (place + 1) [] 0 0 bs
        else decodeFrom done (place + 1) later bits (size + 1) bs
      else ⟨done.reverse, some place⟩

def decode (bytes : List UInt8) : Decoded :=
  decodeFrom [] 0 [] 0 0 bytes

/-- The text that bytes encode, if they encode one. -/
def decodeUtf8? (bytes : List UInt8) : Option (List Char) :=
  let d := decode bytes
  if d.stop.isNone then some (d.chars.map (·.1)) else none

/-- The characters among the first bytes, so many in number. -/
def Decoded.within (d : Decoded) (bytes : Nat) : List Char :=
  go bytes d.chars
where
  go (left : Nat) : List (Char × Nat) → List Char
    | [] => []
    | (c, size) :: rest => if size ≤ left then c :: go (left - size) rest else []

/-- A text whose line ends are all newlines: a carriage return, with the newline after it if there
is one, becomes a newline. -/
def unifyNewlines : List Char → List Char
  | [] => []
  | '\r' :: '\n' :: cs => '\n' :: unifyNewlines cs
  | '\r' :: cs => '\n' :: unifyNewlines cs
  | c :: cs => c :: unifyNewlines cs

end WorkspaceLink.Text
