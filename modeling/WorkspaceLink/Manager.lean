import WorkspaceLink.Client
import WorkspaceLink.Plan

/-!
# The life of a linked service

Creating, reading, updating, deleting, importing and listing linked services through a client, and
bringing one towards a wanted configuration. Nothing is retried: a failed request ends an operation,
unless it says that the resource does not exist where that is an answer.
-/

namespace WorkspaceLink

/-- A client, and the policy for objects that exist already: fail rather than adopt them. -/
structure Manager (σ : Type) where
  client : Client σ
  requireImport : Bool

namespace Manager

variable {σ : Type}

/-- How a failed request ends an operation: failures of the service are told with what the request
was for, others go through. -/
def failed (request : Request) (f : Failure) : Fault :=
  if f.isService then .requestFailed request f else .failure f

/-- How a failed reading back ends an operation. -/
def unverified (a : Address) (f : Failure) : Fault :=
  if f.isService then .unverified a (some f) else .failure f

/-- Fails if there is an object at an address already. -/
def checkAbsent (m : Manager σ) (a : Address) : Action σ Unit := do
  match ← m.client.getting a with
  | .ok r =>
    if (Remote.idOf r).truthy then
      .fail (.alreadyExists (.str resourceTypeName) (Remote.idOf r))
    else pure ()
  | .error f => if f.isNotFound then pure () else .fail (failed (.checking a) f)

/-- The snapshot of an answer at the address of an id. -/
def answered (link : LinkId) (r : Option Remote) : Action σ Snapshot :=
  match r with
  | none => pure .absent
  | some r =>
    if r.id.truthy then .ofExcept (Fault.ofMisfit (r.toSnapshot link)) else pure .absent

/-- Reads the linked service with an id; one that does not exist is absent. -/
def read (m : Manager σ) (id : Value) : Action σ Snapshot := do
  let link ← .ofExcept (LinkId.parse id)
  match ← m.client.getting link.address with
  | .ok r => answered link r
  | .error f =>
    if f.isNotFound then do
      .log .warning ("Linked Service " ++ link.address.describe ++
        " was not found, removing from state.")
      pure .absent
    else .fail (failed (.reading link.address) f)

/-- Takes over the linked service with an id. -/
def importExisting (m : Manager σ) (id : Value) : Action σ Snapshot :=
  m.read id

def write (m : Manager σ) (c : Config) : Action σ Unit := do
  match ← m.client.writing c.address (.ofConfig c) with
  | .ok () => pure ()
  | .error f => .fail (failed (.creating c.address) f)

/-- The id under which a configuration that was written is found again. -/
def verify (m : Manager σ) (a : Address) : Action σ Value := do
  match ← m.client.getting a with
  | .ok r =>
    if (Remote.idOf r).truthy then pure (Remote.idOf r) else .fail (.unverified a none)
  | .error f => .fail (unverified a f)

/-- Creates the configured linked service, or updates it if the snapshot says that it is there, and
reads it back. -/
def createOrUpdate (m : Manager σ) (c : Config) (s : Snapshot) : Action σ Snapshot := do
  .log .info "preparing arguments for Log Analytics Linked Service creation."
  if m.requireImport && !s.isPresent then m.checkAbsent c.address else pure ()
  m.write c
  let id ← m.verify c.address
  m.read id

/-- Deletes the linked service with an id; one that is gone already is fine. -/
def delete (m : Manager σ) (id : Value) : Action σ Unit := do
  let link ← .ofExcept (LinkId.parse id)
  match ← m.client.deleting link.address with
  | .ok () => pure ()
  | .error f =>
    if f.isNotFound then pure () else .fail (failed (.deleting link.address) f)

/-- Deletes a linked service and creates the configured one in its place. -/
def replace (m : Manager σ) (c : Config) (id : Value) (p : Plan) : Action σ Snapshot := do
  .log .info ("Replacing Linked Service " ++ id.display ++ ", changed: " ++
    ", ".intercalate p.keys)
  m.delete id
  m.createOrUpdate c .absent

/-- Brings a linked service towards a configuration: nothing is done if nothing differs, and it is
replaced if a difference takes a new one. -/
def apply (m : Manager σ) (c : Config) (s : Snapshot) : Action σ Snapshot :=
  match s with
  | .absent => m.createOrUpdate c .absent
  | .present id data =>
    let p := Plan.between data c
    if !p.hasChanges then pure s
    else if p.requiresReplacement then m.replace c id p
    else m.createOrUpdate c s

/-- The snapshot of an object in a list; one without an id is left out. -/
def listed (r : Option Remote) : Except Fault (Option Snapshot) :=
  match r with
  | none => .ok none
  | some r =>
    if r.id.truthy then do
      let link ← LinkId.parse r.id
      return some (← Fault.ofMisfit (r.toSnapshot link))
    else .ok none

/-- The snapshots of all linked services of a workspace. -/
def list (m : Manager σ) (group workspace : Value) : Action σ (List Snapshot) := do
  match ← m.client.listing group workspace with
  | .ok rs => .ofExcept ((rs.mapM listed).map fun ss => ss.filterMap (·))
  | .error f => .fail (failed (.listing group workspace) f)

end Manager

end WorkspaceLink
