import WorkspaceLink.Remote

/-!
# Clients

A client answers calls from a state of its own. Operations are actions on such a state: they end
with a result or a fault, and leave behind the calls they made and what they logged.
-/

namespace WorkspaceLink

inductive Call where
  | get (a : Address)
  | write (a : Address) (payload : Payload)
  | delete (a : Address)
  | list (group workspace : Value)

/-- How much a log entry matters. -/
inductive LogLevel where
  | info
  | warning
  deriving DecidableEq

structure LogEntry where
  level : LogLevel
  text : String
  deriving DecidableEq

/-- A service as it answers, in a state `σ`. -/
structure Client (σ : Type) where
  get : Address → σ → Except Failure (Option Remote) × σ
  write : Address → Payload → σ → Except Failure Unit × σ
  delete : Address → σ → Except Failure Unit × σ
  list : Value → Value → σ → Except Failure (List (Option Remote)) × σ

/-- The course of an operation: how it ended, the state it left, and what it did on the way. -/
structure Course (σ α : Type) where
  result : Except Fault α
  service : σ
  calls : List Call
  logs : List LogEntry

/-- An operation on a service in state `σ`. -/
def Action (σ α : Type) : Type := σ → Course σ α

namespace Action

variable {σ α β : Type}

/-- Ends with a result. -/
def done (a : α) : Action σ α := fun s => ⟨.ok a, s, [], []⟩

def fail (e : Fault) : Action σ α := fun s => ⟨.error e, s, [], []⟩

/-- Goes on from a course with its result; a fault ends it. -/
def resume (c : Course σ α) (f : α → Action σ β) : Course σ β :=
  match c.result with
  | .error e => ⟨.error e, c.service, c.calls, c.logs⟩
  | .ok a =>
    let d := f a c.service
    ⟨d.result, d.service, c.calls ++ d.calls, c.logs ++ d.logs⟩

/-- Goes on with the result of an action. -/
def andThen (x : Action σ α) (f : α → Action σ β) : Action σ β := fun s =>
  resume (x s) f

instance : Monad (Action σ) where
  pure := done
  bind := andThen

/-- Ends as a computation ended. -/
def ofExcept : Except Fault α → Action σ α
  | .ok a => done a
  | .error e => fail e

/-- Adds a log entry. -/
def log (level : LogLevel) (text : String) : Action σ Unit := fun s =>
  ⟨.ok (), s, [], [⟨level, text⟩]⟩

/-- Makes a call; the answer of the service, a failure too, is the result. -/
def call (c : Call) (answer : σ → α × σ) : Action σ α := fun s =>
  ⟨.ok (answer s).1, (answer s).2, [c], []⟩

@[simp] theorem pure_apply (a : α) (s : σ) :
    (pure a : Action σ α) s = ⟨.ok a, s, [], []⟩ := rfl

@[simp] theorem fail_apply (e : Fault) (s : σ) :
    (fail e : Action σ α) s = ⟨.error e, s, [], []⟩ := rfl

@[simp] theorem log_apply (level : LogLevel) (text : String) (s : σ) :
    (log level text : Action σ Unit) s = ⟨.ok (), s, [], [⟨level, text⟩]⟩ := rfl

@[simp] theorem call_apply (c : Call) (answer : σ → α × σ) (s : σ) :
    (call c answer : Action σ α) s = ⟨.ok (answer s).1, (answer s).2, [c], []⟩ := rfl

theorem bind_apply (x : Action σ α) (f : α → Action σ β) (s : σ) :
    (x >>= f) s = resume (x s) f := rfl

theorem bind_ok {x : Action σ α} {f : α → Action σ β} {s t : σ} {a : α} {calls : List Call}
    {logs : List LogEntry} (h : x s = ⟨.ok a, t, calls, logs⟩) :
    (x >>= f) s =
      ⟨(f a t).result, (f a t).service, calls ++ (f a t).calls, logs ++ (f a t).logs⟩ := by
  simp [bind_apply, resume, h]

theorem bind_error {x : Action σ α} {f : α → Action σ β} {s t : σ} {e : Fault}
    {calls : List Call} {logs : List LogEntry} (h : x s = ⟨.error e, t, calls, logs⟩) :
    (x >>= f) s = ⟨.error e, t, calls, logs⟩ := by
  simp [bind_apply, resume, h]

end Action

namespace Client

variable {σ : Type}

/-- Asks for the object at an address. -/
def getting (c : Client σ) (a : Address) : Action σ (Except Failure (Option Remote)) :=
  .call (.get a) (c.get a)

/-- Writes an object and waits for the end of it. -/
def writing (c : Client σ) (a : Address) (p : Payload) : Action σ (Except Failure Unit) :=
  .call (.write a p) (c.write a p)

/-- Deletes an object and waits for the end of it. -/
def deleting (c : Client σ) (a : Address) : Action σ (Except Failure Unit) :=
  .call (.delete a) (c.delete a)

/-- Asks for all objects of a workspace. -/
def listing (c : Client σ) (group workspace : Value) :
    Action σ (Except Failure (List (Option Remote))) :=
  .call (.list group workspace) (c.list group workspace)

/-- A client whose calls are counted, and fail without an effect where a schedule says so. -/
def failing (c : Client σ) (schedule : Nat → Option Failure) : Client (Nat × σ) where
  get a := attempt schedule (c.get a)
  write a p := attempt schedule (c.write a p)
  delete a := attempt schedule (c.delete a)
  list group workspace := attempt schedule (c.list group workspace)
where
  attempt {α : Type} (schedule : Nat → Option Failure) (answer : σ → Except Failure α × σ) :
      Nat × σ → Except Failure α × (Nat × σ) := fun (n, s) =>
    match schedule n with
    | some f => (.error f, (n + 1, s))
    | none => ((answer s).1, (n + 1, (answer s).2))

end Client

end WorkspaceLink
