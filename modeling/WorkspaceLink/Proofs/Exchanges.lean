import WorkspaceLink.Proofs.ReadBack

/-!
# Exchanges with a service

An exchange is a call with the failure that answered it, if one did. The exchanges of an operation
and its end follow a pattern, whatever the service answers: every operation is put together from
steps that make one call each.
-/

namespace WorkspaceLink

/-- A call, and the failure that answered it, if one did. -/
structure Exchange where
  call : Call
  failure : Option Failure

namespace Client

variable {σ α : Type} {client : Client σ}

def failureOf : Except Failure α → Option Failure
  | .ok _ => none
  | .error f => some f

/-- How a service takes a call: with which failure it answers, and the state it goes on in. -/
def take (client : Client σ) : Call → σ → Option Failure × σ
  | .get a, s => (failureOf (client.get a s).1, (client.get a s).2)
  | .write a p, s => (failureOf (client.write a p s).1, (client.write a p s).2)
  | .delete a, s => (failureOf (client.delete a s).1, (client.delete a s).2)
  | .list group workspace, s =>
    (failureOf (client.list group workspace s).1, (client.list group workspace s).2)

/-- The exchanges of calls that are made one after another. -/
def exchanges (client : Client σ) : List Call → σ → List Exchange
  | [], _ => []
  | call :: rest, s => ⟨call, (client.take call s).1⟩ :: client.exchanges rest (client.take call s).2

/-- The state in which calls that are made one after another leave a service. -/
def after (client : Client σ) : List Call → σ → σ
  | [], s => s
  | call :: rest, s => client.after rest (client.take call s).2

theorem after_append (xs ys : List Call) (s : σ) :
    client.after (xs ++ ys) s = client.after ys (client.after xs s) := by
  induction xs generalizing s with
  | nil => rfl
  | cons x xs ih => exact ih _

theorem exchanges_append (xs ys : List Call) (s : σ) :
    client.exchanges (xs ++ ys) s =
      client.exchanges xs s ++ client.exchanges ys (client.after xs s) := by
  induction xs generalizing s with
  | nil => rfl
  | cons x xs ih => simp [exchanges, after, ih]

theorem map_call_exchanges (calls : List Call) (s : σ) :
    (client.exchanges calls s).map (·.call) = calls := by
  induction calls generalizing s with
  | nil => rfl
  | cons x xs ih => simp [exchanges, ih]

end Client

/-! ## Patterns -/

namespace Action

variable {σ α β : Type} {client : Client σ}

/-- All that an action does to a service it does by its calls, and its exchanges and its end follow
a pattern. -/
def Follows (client : Client σ) (x : Action σ α) (Q : List Exchange → Except Fault α → Prop) :
    Prop :=
  ∀ s, (x s).service = client.after (x s).calls s ∧
    Q (client.exchanges (x s).calls s) (x s).result

variable {P Q : List Exchange → Except Fault α → Prop} {R : List Exchange → Except Fault β → Prop}

theorem follows_pure {a : α} (h : Q [] (.ok a)) : (pure a : Action σ α).Follows client Q :=
  fun _ => ⟨rfl, h⟩

theorem follows_fail {e : Fault} (h : Q [] (.error e)) : (fail e : Action σ α).Follows client Q :=
  fun _ => ⟨rfl, h⟩

theorem follows_ofExcept {x : Except Fault α} (h : Q [] x) :
    (ofExcept x : Action σ α).Follows client Q := by
  intro s
  rw [ofExcept_apply]
  exact ⟨rfl, h⟩

theorem Follows.mono {x : Action σ α} (h : x.Follows client P) (hPQ : ∀ es r, P es r → Q es r) :
    x.Follows client Q :=
  fun s => ⟨(h s).1, hPQ _ _ (h s).2⟩

theorem Follows.bind {x : Action σ α} {f : α → Action σ β} (hx : x.Follows client P)
    (error : ∀ es e, P es (.error e) → R es (.error e))
    (ok : ∀ es a, P es (.ok a) → (f a).Follows client fun es' r => R (es ++ es') r) :
    (x >>= f).Follows client R := by
  intro s
  obtain ⟨service, hp⟩ := hx s
  rw [bind_apply, resume]
  cases hr : (x s).result with
  | error e =>
      rw [hr] at hp
      exact ⟨service, error _ _ hp⟩
  | ok a =>
      rw [hr] at hp
      obtain ⟨service', hq⟩ := ok _ a hp (x s).service
      dsimp only
      rw [Client.after_append, Client.exchanges_append, ← service]
      exact ⟨service', hq⟩

theorem Follows.log_bind {level : LogLevel} {text : String} {f : Unit → Action σ β}
    (h : (f ()).Follows client R) : (log level text >>= f).Follows client R := by
  have logged : (log level text : Action σ Unit).Follows client fun es r => es = [] ∧ r = .ok () :=
    fun _ => ⟨rfl, rfl, rfl⟩
  refine logged.bind ?_ ?_
  · rintro es e ⟨-, he⟩
    cases he
  · rintro es a ⟨rfl, -⟩
    exact h

theorem Follows.call_bind {call : Call} {answer : σ → Except Failure α × σ}
    {f : Except Failure α → Action σ β}
    (taken : ∀ s, client.take call s = (Client.failureOf (answer s).1, (answer s).2))
    (h : ∀ r, (f r).Follows client fun es x => R (⟨call, Client.failureOf r⟩ :: es) x) :
    (Action.call call answer >>= f).Follows client R := by
  have called : (Action.call call answer).Follows client
      fun es x => ∃ r, es = [⟨call, Client.failureOf r⟩] ∧ x = .ok r := by
    intro s
    simp only [call_apply, Client.after, Client.exchanges, taken]
    exact ⟨trivial, _, rfl, rfl⟩
  refine called.bind ?_ ?_
  · rintro es e ⟨r, -, he⟩
    cases he
  · rintro es a ⟨r, rfl, he⟩
    obtain rfl := Except.ok.inj he
    exact h a

end Action

/-! ## Steps that make one call -/

/-- The failure of a call that a fault tells of. -/
def Fault.failure? : Fault → Option Failure
  | .requestFailed _ f => some f
  | .unverified _ cause => cause
  | .failure f => some f
  | _ => none

/-- If it is a fault, it tells of no failure. -/
def Undisturbed {α : Type} (x : Except Fault α) : Prop := ∀ e, x = .error e → e.failure? = none

section Undisturbed

variable {α β : Type}

theorem undisturbed_ok (a : α) : Undisturbed (.ok a : Except Fault α) := by
  intro e h
  cases h

theorem undisturbed_error {e : Fault} (h : e.failure? = none) :
    Undisturbed (.error e : Except Fault α) := by
  intro e' he
  obtain rfl := Except.error.inj he
  exact h

theorem Undisturbed.bind {x : Except Fault α} {f : α → Except Fault β} (hx : Undisturbed x)
    (hf : ∀ a, Undisturbed (f a)) : Undisturbed (x >>= f) := by
  cases x with
  | ok a => exact hf a
  | error e => exact undisturbed_error (hx e rfl)

theorem undisturbed_mapM {f : α → Except Fault β} (h : ∀ a, Undisturbed (f a)) (xs : List α) :
    Undisturbed (xs.mapM f) := by
  induction xs with
  | nil => exact undisturbed_ok _
  | cons x xs ih =>
      rw [List.mapM_cons]
      exact (h x).bind fun _ => ih.bind fun _ => undisturbed_ok _

theorem undisturbed_ofMisfit (x : Except Misfit α) : Undisturbed (Fault.ofMisfit x) := by
  intro e h
  obtain ⟨m, -, rfl⟩ := mapError_eq_error.mp h
  rfl

theorem LinkId.undisturbed_parse (id : Value) : Undisturbed (LinkId.parse id) := by
  intro e h
  rcases LinkId.parse_eq_error h with ⟨reason, rfl⟩ | ⟨rfl, -⟩ <;> rfl

theorem Manager.undisturbed_snapshotOf (link : LinkId) (r : Option Remote) :
    Undisturbed (Manager.snapshotOf link r) := by
  cases r with
  | none => exact undisturbed_ok _
  | some r =>
      rw [Manager.snapshotOf]
      split
      · exact undisturbed_ofMisfit _
      · exact undisturbed_ok _

theorem Manager.undisturbed_listed (r : Option Remote) : Undisturbed (Manager.listed r) := by
  cases r with
  | none => exact undisturbed_ok _
  | some r =>
      rw [Manager.listed]
      split
      · exact (LinkId.undisturbed_parse r.id).bind fun _ =>
          (undisturbed_ofMisfit _).bind fun _ => undisturbed_ok _
      · exact undisturbed_ok _

end Undisturbed

/-- A step that makes one call: it ends in one of some ways if that is answered, with what an
absence stands for, if it stands for anything, and else with what is told of the failure. -/
inductive Single {α : Type} (call : Call) (answers : Except Fault α → Prop) (absence : Option α)
    (told : Failure → Fault) : List Exchange → Except Fault α → Prop
  | answered {x : Except Fault α} : answers x → Single call answers absence told [⟨call, none⟩] x
  | absent {f : Failure} {a : α} : f.isNotFound = true → absence = some a →
      Single call answers absence told [⟨call, some f⟩] (.ok a)
  | failed {f : Failure} : f.isNotFound = false ∨ absence = none →
      Single call answers absence told [⟨call, some f⟩] (.error (told f))

/-- Where an absence is an answer, any other failure is told. -/
theorem Action.follows_absence {σ α : Type} {client : Client σ} {call : Call}
    {answers : Except Fault α → Prop} {a : α} {told : Failure → Fault} {f : Failure}
    {y : Action σ α} (hy : y.Follows client fun es x => es = [] ∧ x = .ok a) :
    (if f.isNotFound then y else fail (told f)).Follows client fun es x =>
      Single call answers (some a) told (⟨call, some f⟩ :: es) x := by
  split
  · rename_i hf
    refine hy.mono ?_
    rintro es x ⟨rfl, rfl⟩
    exact .absent hf rfl
  · rename_i hf
    exact follows_fail (.failed (.inl (by simpa using hf)))

/-- A step that is taken where an id leads, if it can be read. -/
inductive Led {α : Type} (id : Value) (step : LinkId → List Exchange → Except Fault α → Prop) :
    List Exchange → Except Fault α → Prop
  | astray {e : Fault} : LinkId.parse id = .error e → Led id step [] (.error e)
  | led {link : LinkId} {es : List Exchange} {x : Except Fault α} : LinkId.parse id = .ok link →
      step link es x → Led id step es x

theorem Action.follows_led {σ α : Type} {client : Client σ} {id : Value}
    {step : LinkId → List Exchange → Except Fault α → Prop} {f : LinkId → Action σ α}
    (h : ∀ link, (f link).Follows client (step link)) :
    (ofExcept (LinkId.parse id) >>= f).Follows client (Led id step) := by
  cases hp : LinkId.parse id with
  | error e => exact follows_fail (.astray hp)
  | ok link => exact (h link).mono fun es x hx => .led hp hx

namespace Manager

variable {σ : Type} {m : Manager σ} {c : Config} {t : Snapshot} {id group workspace : Value}

def Checking (c : Config) : List Exchange → Except Fault Unit → Prop :=
  Single (.get c.address) Undisturbed (some ()) (failed (.checking c.address))

def Writing (c : Config) : List Exchange → Except Fault Unit → Prop :=
  Single (.write c.address (.ofConfig c)) (· = .ok ()) none (failed (.creating c.address))

def Verifying (a : Address) : List Exchange → Except Fault Value → Prop :=
  Single (.get a) Undisturbed none (unverified a)

def Reading (link : LinkId) : List Exchange → Except Fault Snapshot → Prop :=
  Single (.get link.address) Undisturbed (some .absent) (failed (.reading link.address))

def Deleting (link : LinkId) : List Exchange → Except Fault Unit → Prop :=
  Single (.delete link.address) (· = .ok ()) (some ()) (failed (.deleting link.address))

def Listing (group workspace : Value) : List Exchange → Except Fault (List Snapshot) → Prop :=
  Single (.list group workspace) Undisturbed none (failed (.listing group workspace))

theorem follows_checkAbsent : (m.checkAbsent c.address).Follows m.client (Checking c) := by
  refine Action.Follows.call_bind (fun _ => rfl) fun r => ?_
  cases r with
  | ok r =>
      dsimp only
      split
      · exact Action.follows_fail (.answered (undisturbed_error rfl))
      · exact Action.follows_pure (.answered (undisturbed_ok _))
  | error f => exact Action.follows_absence (Action.follows_pure ⟨rfl, rfl⟩)

theorem follows_write : (m.write c).Follows m.client (Writing c) := by
  refine Action.Follows.call_bind (fun _ => rfl) fun r => ?_
  cases r with
  | ok _ => exact Action.follows_pure (.answered rfl)
  | error f => exact Action.follows_fail (.failed (.inr rfl))

theorem follows_verify {a : Address} : (m.verify a).Follows m.client (Verifying a) := by
  refine Action.Follows.call_bind (fun _ => rfl) fun r => ?_
  cases r with
  | ok r =>
      dsimp only
      split
      · exact Action.follows_pure (.answered (undisturbed_ok _))
      · exact Action.follows_fail (.answered (undisturbed_error rfl))
  | error f => exact Action.follows_fail (.failed (.inr rfl))

theorem follows_read (id : Value) : (m.read id).Follows m.client (Led id Reading) := by
  refine Action.follows_led fun link => Action.Follows.call_bind (fun _ => rfl) fun r => ?_
  cases r with
  | ok r =>
      dsimp only
      rw [answered_eq]
      exact Action.follows_ofExcept (.answered (undisturbed_snapshotOf link r))
  | error f =>
      exact Action.follows_absence (Action.Follows.log_bind (Action.follows_pure ⟨rfl, rfl⟩))

theorem follows_delete (id : Value) : (m.delete id).Follows m.client (Led id Deleting) := by
  refine Action.follows_led fun link => Action.Follows.call_bind (fun _ => rfl) fun r => ?_
  cases r with
  | ok _ => exact Action.follows_pure (.answered rfl)
  | error f => exact Action.follows_absence (Action.follows_pure ⟨rfl, rfl⟩)

theorem follows_list : (m.list group workspace).Follows m.client (Listing group workspace) := by
  refine Action.Follows.call_bind (fun _ => rfl) fun r => ?_
  cases r with
  | ok rs =>
      refine Action.follows_ofExcept (.answered ?_)
      exact (undisturbed_mapM undisturbed_listed rs).bind fun _ => undisturbed_ok _
  | error f => exact Action.follows_fail (.failed (.inr rfl))

/-! ## Operations of several steps -/

/-- Writing, verifying and reading back. -/
inductive Settling (c : Config) : List Exchange → Except Fault Snapshot → Prop
  | unwritten {es : List Exchange} {e : Fault} : Writing c es (.error e) → Settling c es (.error e)
  | unverified {es es' : List Exchange} {e : Fault} : Writing c es (.ok ()) →
      Verifying c.address es' (.error e) → Settling c (es ++ es') (.error e)
  | readBack {es es' es'' : List Exchange} {id : Value} {x : Except Fault Snapshot} :
      Writing c es (.ok ()) → Verifying c.address es' (.ok id) → Led id Reading es'' x →
      Settling c (es ++ (es' ++ es'')) x

/-- Settling, after a check where one is due. -/
inductive Creating (m : Manager σ) (c : Config) (t : Snapshot) :
    List Exchange → Except Fault Snapshot → Prop
  | unchecked {es : List Exchange} {x : Except Fault Snapshot} : Settling c es x →
      Creating m c t es x
  | refused {es : List Exchange} {e : Fault} : m.requireImport = true → t.isPresent = false →
      Checking c es (.error e) → Creating m c t es (.error e)
  | checked {es es' : List Exchange} {x : Except Fault Snapshot} : m.requireImport = true →
      t.isPresent = false → Checking c es (.ok ()) → Settling c es' x → Creating m c t (es ++ es') x

/-- Nothing, or creating, after a deletion where one is due. -/
inductive Applying (m : Manager σ) (c : Config) :
    Snapshot → List Exchange → Except Fault Snapshot → Prop
  | unchanged {id : Value} {data : Fields} : (Plan.between data c).hasChanges = false →
      Applying m c (.present id data) [] (.ok (.present id data))
  | absent {es : List Exchange} {x : Except Fault Snapshot} : Creating m c .absent es x →
      Applying m c .absent es x
  | kept {id : Value} {data : Fields} {es : List Exchange} {x : Except Fault Snapshot} :
      (Plan.between data c).requiresReplacement = false → Creating m c (.present id data) es x →
      Applying m c (.present id data) es x
  | undeleted {id : Value} {data : Fields} {es : List Exchange} {e : Fault} :
      (Plan.between data c).requiresReplacement = true → Led id Deleting es (.error e) →
      Applying m c (.present id data) es (.error e)
  | replaced {id : Value} {data : Fields} {es es' : List Exchange} {x : Except Fault Snapshot} :
      (Plan.between data c).requiresReplacement = true → Led id Deleting es (.ok ()) →
      Creating m c .absent es' x → Applying m c (.present id data) (es ++ es') x

theorem follows_settle : (m.settle c).Follows m.client (Settling c) := by
  refine follows_write.bind (fun es e h => .unwritten h) fun es _ written => ?_
  refine follows_verify.bind (fun es' e h => .unverified written h) fun es' id verified => ?_
  exact (follows_read _).mono fun es'' x h => .readBack written verified h

theorem follows_createOrUpdate : (m.createOrUpdate c t).Follows m.client (Creating m c t) := by
  rw [createOrUpdate_eq]
  refine Action.Follows.log_bind ?_
  split
  · rename_i hcheck
    simp only [Bool.and_eq_true, Bool.not_eq_true'] at hcheck
    refine follows_checkAbsent.bind (fun es e h => .refused hcheck.1 hcheck.2 h) ?_
    exact fun es _ passed => follows_settle.mono fun es' x h => .checked hcheck.1 hcheck.2 passed h
  · exact follows_settle.mono fun es x h => .unchecked h

theorem follows_apply : (m.apply c t).Follows m.client (Applying m c t) := by
  cases t with
  | absent => exact follows_createOrUpdate.mono fun es x h => .absent h
  | present id data =>
      rcases apply_route m c id data with ⟨hc, route⟩ | ⟨hr, route⟩ | ⟨-, hr, route⟩ <;> rw [route]
      · exact Action.follows_pure (.unchanged hc)
      · refine Action.Follows.log_bind ?_
        refine (follows_delete _).bind (fun es e h => .undeleted hr h) fun es _ deleted => ?_
        exact follows_createOrUpdate.mono fun es' x h => .replaced hr deleted h
      · exact follows_createOrUpdate.mono fun es x h => .kept hr h

end Manager

end WorkspaceLink
