import WorkspaceLink.Yaml.Source

/-!
# A customary machine

Sets are hash tables, files are decoded in chunks, and calls may be nested a thousand deep, of which
the program has used some. Only whole numbers lie in a table where their values say; other scalars
are left in the order in which they were put in.
-/

namespace WorkspaceLink.Customary

/-! ## Sets -/

/-- The hash of a whole number or a truth value, as a machine word. -/
def hash? : Scalar → Option Nat
  | .bool b => some b.toNat
  | .int n =>
    let r : Nat := n.natAbs % (Nat.pow 2 61 - 1)
    some (if n < 0 then Nat.pow 2 64 - (if r = 1 then 2 else r) else r)
  | _ => none

/-- The size of a table for so many members: a power of two that leaves more than half of it
free. -/
def tableSize (count : Nat) : Nat :=
  if count < 5 then 8 else Nat.pow 2 ((2 * count).log2 + 1)

/-- How many places after one are tried before the search goes on elsewhere. -/
def neighbours : Nat := 9

/-- The free place for a hash in a table: near a place, or near the next one that what is left of
the hash leads to. So many such places are tried. -/
def freePlace (size : Nat) (taken : List Nat) : Nat → Nat → Nat → Nat
  | 0, _, i => i
  | n + 1, hash, i =>
    let near := if i + neighbours < size then List.range' i (neighbours + 1) else [i]
    match near.find? fun j => !taken.contains j with
    | some j => j
    | none => freePlace size taken n (hash / 32) ((i * 5 + 1 + hash / 32) % size)

/-- The places of hashes that are put into a table one after another. -/
def places (size : Nat) (taken : List Nat) : List Nat → List Nat
  | [] => []
  | h :: hs =>
    -- what is left of a hash is used up after thirteen steps, and then every place is tried
    let p := freePlace size taken (size + 13) h (h % size)
    p :: places size (p :: taken) hs

theorem length_places (size : Nat) (taken hs : List Nat) :
    (places size taken hs).length = hs.length := by
  induction hs generalizing taken with
  | nil => rfl
  | cons h hs ih => simp [places, ih]

def arrange (members : List Scalar) : List Scalar :=
  if members.all fun s => (hash? s).isSome then
    let ps := places (tableSize members.length) [] (members.map fun s => (hash? s).getD 0)
    ((members.zip ps).mergeSort fun a b => a.2 ≤ b.2).map (·.1)
  else members

theorem arrange_perm (members : List Scalar) : (arrange members).Perm members := by
  unfold arrange
  split
  · refine ((List.mergeSort_perm _ _).map _).trans ?_
    rw [List.map_fst_zip (by simp [length_places])]
  · exact .refl _

/-! ## Files -/

/-- The least number of bytes in a chunk. -/
def leastChunk : Nat := 8192

/-- The number of characters among the first bytes. A carriage return at the end of them waits for
the next chunk. -/
def decodedWithin (d : Text.Decoded) (bytes : Nat) : Nat :=
  let cs := d.within bytes
  (Text.unifyNewlines (if cs.getLast? = some '\r' then cs.dropLast else cs)).length

/-- The number of characters decoded before the chunk with the byte at `stop`, after `offset` bytes
of `size`. The last chunk, of `bytes` bytes, made `chars` characters; the next one is made as large
as the characters that are still wanted would take at that rate. -/
def decodedUpTo (d : Text.Decoded) (size stop : Nat) : Nat → Nat → Nat → Nat → Nat
  | 0, offset, _, _ => decodedWithin d offset
  | n + 1, offset, bytes, chars =>
    let before := decodedWithin d offset
    let wanted := Yaml.Source.portion - before % Yaml.Source.portion
    let next := min size (offset + max leastChunk (max wanted (bytes * wanted / chars)))
    if stop < next ∨ next = offset then before
    else decodedUpTo d size stop n next (next - offset) (decodedWithin d next - before)

def decoded (bytes : List UInt8) : Nat :=
  let d := Text.decode bytes
  decodedUpTo d bytes.length (d.stop.getD bytes.length) (bytes.length / leastChunk + 2) 0 0 0

theorem length_go_le (left : Nat) (chars : List (Char × Nat)) :
    (Text.Decoded.within.go left chars).length ≤ chars.length := by
  induction chars generalizing left with
  | nil => exact Nat.le_refl _
  | cons c chars ih =>
      unfold Text.Decoded.within.go
      split
      · exact Nat.succ_le_succ (ih _)
      · exact Nat.zero_le _

theorem length_unifyNewlines_le (cs : List Char) : (Text.unifyNewlines cs).length ≤ cs.length := by
  fun_induction Text.unifyNewlines cs <;> simp only [List.length_nil, List.length_cons] <;> omega

theorem decodedWithin_le (d : Text.Decoded) (bytes : Nat) :
    decodedWithin d bytes ≤ d.chars.length := by
  have within : (d.within bytes).length ≤ d.chars.length := length_go_le bytes d.chars
  refine Nat.le_trans (length_unifyNewlines_le _) ?_
  split
  · rw [List.length_dropLast]
    omega
  · exact within

theorem decodedUpTo_le (d : Text.Decoded) (size stop n offset bytes chars : Nat) :
    decodedUpTo d size stop n offset bytes chars ≤ d.chars.length := by
  induction n generalizing offset bytes chars with
  | zero => exact decodedWithin_le d offset
  | succ n ih =>
      unfold decodedUpTo
      dsimp only
      split
      · exact decodedWithin_le d offset
      · exact ih _ _ _

end WorkspaceLink.Customary

namespace WorkspaceLink

/-- A machine where a call may be nested in hundreds of others. -/
instance Host.customary : Host where
  arrange := Customary.arrange
  arrange_perm := Customary.arrange_perm
  decoded := Customary.decoded
  decoded_le := fun _ => Customary.decodedUpTo_le _ _ _ _ _ _ _
  nameRoom := 960
  tagRoom := 962
  nesting := 488
  merging := 960
  standing := 960

end WorkspaceLink
