import WorkspaceLink.Decimal.Reader
import WorkspaceLink.Yaml.Fault
import WorkspaceLink.Yaml.Token.Plain

/-!
# Quoted texts of documents

Between single quotes only the quote itself is written twice; between double quotes a backslash
starts an escape. Lines are joined as in plain texts.
-/

namespace WorkspaceLink.Yaml.Quoted

/-- The character of an escape of one letter. -/
def escape? : Char → Option Char
  | '0' => some '\x00'
  | 'a' => some '\x07'
  | 'b' => some '\x08'
  | 't' | '\t' => some '\t'
  | 'n' => some '\n'
  | 'v' => some '\x0b'
  | 'f' => some '\x0c'
  | 'r' => some '\r'
  | 'e' => some '\x1b'
  | ' ' => some ' '
  | '"' => some '"'
  | '\\' => some '\\'
  | '/' => some '/'
  | 'N' => some '\u0085'
  | '_' => some '\u00a0'
  | 'L' => some '\u2028'
  | 'P' => some '\u2029'
  | _ => none

/-- The number of digits of an escape by code point. -/
def escapeDigits? : Char → Option Nat
  | 'x' => some 2
  | 'u' => some 4
  | 'U' => some 8
  | _ => none

/-- The character of a code point. Halves of surrogate pairs stand for no character of their own and
become the replacement character, so texts that differ in nothing but such halves are the same
here. -/
def codePoint (n : Nat) : Except Fault Char :=
  if 0x80000000 ≤ n then .error (.scalar .overflow)
  else if 0x10ffff < n then .error (.scalar .codePoint)
  else if 0xd800 ≤ n ∧ n ≤ 0xdfff then .ok '\ufffd'
  else .ok (Char.ofNat n)

/-- Line ends inside quotes, and the place after them and the gap of the next line. -/
def breaks : Nat → Cursor → Except Fault (List Char × Cursor)
  | 0, c => .ok ([], c)
  | n + 1, c =>
    if c.atAnyMark then .error .malformed
    else
      let c := c.dropWhile isGap
      match c.peek with
      | some ch =>
        if isBreak ch then do
          let (more, after) ← breaks n c.next
          return (breakChar ch :: more, after)
        else .ok ([], c)
      | none => .ok ([], c)

/-- A gap inside quotes: spaces, or line ends. -/
def gap (c : Cursor) : Except Fault (List Char × Cursor) :=
  let (spaces, c) := c.takeWhile isGap
  match c.peek with
  | none => .error .truncated
  | some ch =>
    if isBreak ch then do
      let (more, after) ← breaks (c.left + 1) c.next
      return (Plain.joint ch more, after)
    else .ok (spaces, c)

/-- An escape, after its backslash. -/
def escaped (c : Cursor) : Except Fault (List Char × Cursor) :=
  match c.peek with
  | none => .error .truncated
  | some ch =>
    match escape? ch, escapeDigits? ch with
    | some e, _ => .ok ([e], c.next)
    | none, some width =>
      let digits := (c.next.rest.take width).takeWhile isHexDigit
      let after := c.next.skip digits.length
      if digits.length = width then do
        let e ← codePoint ((Decimal.natOfDigits? 16 digits).getD 0)
        return ([e], after)
      else .error after.unexpected
    | none, none => if isBreak ch then breaks (c.left + 1) c.next else .error .malformed

/-- The characters that end a run inside quotes. -/
def endsRun (c : Char) : Bool :=
  c == '\'' || c == '"' || c == '\\' || isGap c || isBreak c

/-- Characters and escapes up to a gap or the closing quote. -/
def solid (double : Bool) : Nat → Cursor → Except Fault (List Char × Cursor)
  | 0, c => .ok ([], c)
  | n + 1, c => do
    let (run, c) := c.takeWhile fun ch => !endsRun ch
    let piece? ← match double, c.rest with
      | false, '\'' :: '\'' :: _ => pure (some (['\''], c.skip 2))
      | true, '\'' :: _ => pure (some (['\''], c.next))
      | false, '"' :: _ => pure (some (['"'], c.next))
      | false, '\\' :: _ => pure (some (['\\'], c.next))
      | true, '\\' :: _ => some <$> escaped c.next
      | _, _ => pure none
    match piece? with
    | none => return (run, c)
    | some (piece, c) => do
      let (more, after) ← solid double n c
      return (run ++ piece ++ more, after)

def read (double : Bool) (quote : Char) : Nat → Cursor → Except Fault (List Char × Cursor)
  | 0, _ => .error .malformed
  | n + 1, c =>
    if c.peek = some quote then .ok ([], c.next)
    else do
      let (spaces, c) ← gap c
      let (run, c) ← solid double (c.left + 1) c
      let (more, after) ← read double quote n c
      return (spaces ++ run ++ more, after)

/-- Reads the quoted text at a place. -/
def scan (c : Cursor) : Except Fault (List Char × Cursor) := do
  let double := c.peek == some '"'
  let c := c.next
  let (run, after) ← solid double (c.left + 1) c
  let (more, after) ← read double (if double then '"' else '\'') (c.left + 1) after
  return (run ++ more, after)

end WorkspaceLink.Yaml.Quoted
