import WorkspaceLink.Client

/-!
# Scripted services

A service that answers each kind of call from a list of replies, in order; the last one repeats.
-/

namespace WorkspaceLink

namespace Script

/-- A reply to a question for an object. -/
inductive GetReply where
  | fail (f : Failure)
  | give (r : Option Remote)
  /-- The object given, with what was last written. -/
  | echo (r : Remote)

/-- A reply to a request to write or delete. -/
inductive DoneReply where
  | fail (f : Failure)
  /-- The request is accepted and fails later. -/
  | failLater (f : Failure)
  | done

/-- A reply to a question for all objects: the objects, and a failure that may end them. -/
inductive ListReply where
  | fail (f : Failure)
  | give (rs : List (Option Remote)) (failure : Option Failure)

end Script

/-- The replies still to be given, and what was last written. -/
structure Script where
  gets : List Script.GetReply
  writes : List Script.DoneReply
  deletes : List Script.DoneReply
  lists : List Script.ListReply
  written : Option Payload

namespace Script

/-- The next of a list of replies, and the list after it. -/
def next {α : Type} (otherwise : α) : List α → α × List α
  | [] => (otherwise, [])
  | [r] => (r, [r])
  | r :: rs => (r, rs)

/-- An object with what was last written. -/
def echoed (r : Remote) (written : Option Payload) : Remote :=
  { r with
    resourceId := Value.ofString? (written.bind Payload.resourceId)
    tags := some ((written.map fun p => p.tags.toValue).getD .null) }

/-- Answers a question for an object. -/
def get (s : Script) : Except Failure (Option Remote) × Script :=
  let (reply, rest) := next (.give none) s.gets
  let s := { s with gets := rest }
  match reply with
  | .fail f => (.error f, s)
  | .give r => (.ok r, s)
  | .echo r => (.ok (some (echoed r s.written)), s)

/-- Answers a request to write. What is accepted counts as written. -/
def write (p : Payload) (s : Script) : Except Failure Unit × Script :=
  let (reply, rest) := next .done s.writes
  let s := { s with writes := rest }
  match reply with
  | .fail f => (.error f, s)
  | .failLater f => (.error f, { s with written := some p })
  | .done => (.ok (), { s with written := some p })

def delete (s : Script) : Except Failure Unit × Script :=
  let (reply, rest) := next .done s.deletes
  let s := { s with deletes := rest }
  match reply with
  | .fail f | .failLater f => (.error f, s)
  | .done => (.ok (), s)

/-- Answers a question for all objects. -/
def list (s : Script) : Except Failure (List (Option Remote)) × Script :=
  let (reply, rest) := next (.give [] none) s.lists
  let s := { s with lists := rest }
  match reply with
  | .fail f | .give _ (some f) => (.error f, s)
  | .give rs none => (.ok rs, s)

/-- The scripted client, which does not look at addresses. -/
def client : Client Script where
  get _ := get
  write _ := write
  delete _ := delete
  list _ _ := list

end Script

end WorkspaceLink
