import WorkspaceLink.Manager
import WorkspaceLink.Proofs.Plan
import WorkspaceLink.Proofs.Store

/-!
# Operations through any client

The calls that an operation makes and the faults that it can end with, whatever the service answers.
-/

namespace WorkspaceLink

namespace Action

variable {σ α β : Type} {P : Fault → Prop}

/-! ## First steps -/

theorem ofExcept_apply (x : Except Fault α) (s : σ) : ofExcept x s = ⟨x, s, [], []⟩ := by
  cases x <;> rfl

theorem ofExcept_ok_bind (a : α) (f : α → Action σ β) : ofExcept (.ok a) >>= f = f a := rfl

theorem ofExcept_error_bind (e : Fault) (f : α → Action σ β) :
    ofExcept (.error e) >>= f = fail e := rfl

theorem mem_calls_bind {x : Action σ α} {f : α → Action σ β} {s : σ} {call : Call} :
    call ∈ ((x >>= f) s).calls ↔
      call ∈ (x s).calls ∨ ∃ a, (x s).result = .ok a ∧ call ∈ (f a (x s).service).calls := by
  rw [bind_apply, resume]
  split
  · rename_i e he
    simp [he]
  · rename_i a ha
    simp [ha]

theorem getting_apply {c : Client σ} {a : Address} {s t : σ} {r : Except Failure (Option Remote)}
    (h : c.get a s = (r, t)) : c.getting a s = ⟨.ok r, t, [.get a], []⟩ := by
  rw [Client.getting, call_apply, h]

/-! ## Faults that an action can end with -/

/-- Whatever fault an action ends with is of a kind. -/
def FailsWith (P : Fault → Prop) (x : Action σ α) : Prop :=
  ∀ s e, (x s).result = .error e → P e

theorem failsWith_pure (a : α) : (pure a : Action σ α).FailsWith P := by
  intro s e h
  cases h

theorem failsWith_fail {e : Fault} (h : P e) : (fail e : Action σ α).FailsWith P := by
  intro s e' he
  obtain rfl := Except.error.inj he
  exact h

theorem failsWith_log (level : LogLevel) (text : String) :
    (log level text : Action σ Unit).FailsWith P := by
  intro s e h
  cases h

theorem failsWith_call (c : Call) (answer : σ → α × σ) : (call c answer).FailsWith P := by
  intro s e h
  cases h

theorem failsWith_ofExcept {x : Except Fault α} (h : ∀ e, x = .error e → P e) :
    (ofExcept x : Action σ α).FailsWith P := by
  cases x with
  | ok a => exact failsWith_pure a
  | error e => exact failsWith_fail (h e rfl)

theorem FailsWith.bind {x : Action σ α} {f : α → Action σ β} (hx : x.FailsWith P)
    (hf : ∀ a, (f a).FailsWith P) : (x >>= f).FailsWith P := by
  intro s e h
  rw [bind_apply, resume] at h
  split at h
  · rename_i e' he
    obtain rfl := Except.error.inj h
    exact hx s e' he
  · exact hf _ _ e h

end Action

namespace Manager

variable {σ : Type} {m : Manager σ}

/-! ## Reading and deleting through any client -/

/-- The snapshot that an answer makes where an id leads. -/
def snapshotOf (link : LinkId) : Option Remote → Except Fault Snapshot
  | none => .ok .absent
  | some r => if r.id.truthy then Fault.ofMisfit (r.toSnapshot link) else .ok .absent

theorem answered_eq (link : LinkId) (r : Option Remote) :
    (answered link r : Action σ Snapshot) = .ofExcept (snapshotOf link r) := by
  cases r with
  | none => rfl
  | some r =>
      simp only [answered, snapshotOf]
      split <;> rfl

theorem read_of_parse_error {id : Value} {e : Fault} (h : LinkId.parse id = .error e) (s : σ) :
    m.read id s = ⟨.error e, s, [], []⟩ := by
  rw [read, h, Action.ofExcept_error_bind, Action.fail_apply]

theorem calls_read {id : Value} {link : LinkId} (h : LinkId.parse id = .ok link) (s : σ) :
    (m.read id s).calls = [.get link.address] := by
  rw [read, h, Action.ofExcept_ok_bind, Action.bind_ok (Action.getting_apply rfl)]
  cases (m.client.get link.address s).1 with
  | ok r => simp [answered_eq, Action.ofExcept_apply]
  | error f =>
      dsimp only
      split <;> rfl

theorem read_of_answer {id : Value} {link : LinkId} {s t : σ} {r : Option Remote}
    (h : LinkId.parse id = .ok link) (hget : m.client.get link.address s = (.ok r, t)) :
    m.read id s = ⟨snapshotOf link r, t, [.get link.address], []⟩ := by
  rw [read, h, Action.ofExcept_ok_bind, Action.bind_ok (Action.getting_apply hget)]
  simp [answered_eq, Action.ofExcept_apply]

theorem read_of_absence {id : Value} {link : LinkId} {s t : σ} {f : Failure}
    (h : LinkId.parse id = .ok link) (hget : m.client.get link.address s = (.error f, t))
    (hf : f.isNotFound = true) :
    ∃ logs, m.read id s = ⟨.ok .absent, t, [.get link.address], logs⟩ := by
  rw [read, h, Action.ofExcept_ok_bind, Action.bind_ok (Action.getting_apply hget)]
  simp only [hf, if_true]
  exact ⟨_, rfl⟩

theorem read_of_not_found {id : Value} {link : LinkId} {s t : σ} {f : Failure}
    (h : LinkId.parse id = .ok link) (hget : m.client.get link.address s = (.error f, t))
    (hf : f.isNotFound = true) :
    (m.read id s).result = .ok .absent ∧ (m.read id s).service = t := by
  obtain ⟨logs, course⟩ := read_of_absence h hget hf
  rw [course]
  exact ⟨rfl, rfl⟩

theorem read_of_failure {id : Value} {link : LinkId} {s t : σ} {f : Failure}
    (h : LinkId.parse id = .ok link) (hget : m.client.get link.address s = (.error f, t))
    (hf : f.isNotFound = false) :
    m.read id s = ⟨.error (failed (.reading link.address) f), t, [.get link.address], []⟩ := by
  rw [read, h, Action.ofExcept_ok_bind, Action.bind_ok (Action.getting_apply hget)]
  simp [hf]

/-- A snapshot is read where the service answers with an object that it is made of. -/
theorem read_eq_present_iff {id id' : Value} {data : Fields} {s : σ} :
    (m.read id s).result = .ok (.present id' data) ↔
      ∃ link r, LinkId.parse id = .ok link ∧ (m.client.get link.address s).1 = .ok (some r) ∧
        r.id.truthy = true ∧ r.toSnapshot link = .ok (.present id' data) := by
  constructor
  · intro h
    cases hp : LinkId.parse id with
    | error e =>
        rw [read_of_parse_error hp] at h
        cases h
    | ok link =>
        cases hget : m.client.get link.address s with
        | mk answer t =>
            cases answer with
            | error f =>
                cases hf : f.isNotFound with
                | true =>
                    rw [(read_of_not_found hp hget hf).1] at h
                    cases h
                | false =>
                    rw [read_of_failure hp hget hf] at h
                    cases h
            | ok r =>
                rw [read_of_answer hp hget] at h
                cases r with
                | none => cases h
                | some r =>
                    simp only [snapshotOf] at h
                    split at h
                    · rename_i truthy
                      exact ⟨link, r, rfl, by rw [hget], truthy, mapError_eq_ok.mp h⟩
                    · cases h
  · rintro ⟨link, r, hp, answer, truthy, made⟩
    rw [read_of_answer hp (Prod.ext answer rfl), snapshotOf, if_pos truthy, made]
    rfl

/-- Verifying finds an id wherever the answer shows one. -/
theorem verify_of_answer {a : Address} {s t : σ} {r : Option Remote}
    (hget : m.client.get a s = (.ok r, t)) (hid : (Remote.idOf r).truthy = true) :
    m.verify a s = ⟨.ok (Remote.idOf r), t, [.get a], []⟩ := by
  rw [verify, Action.bind_ok (Action.getting_apply hget)]
  simp [hid]

theorem delete_of_parse_error {id : Value} {e : Fault} (h : LinkId.parse id = .error e) (s : σ) :
    m.delete id s = ⟨.error e, s, [], []⟩ := by
  rw [delete, h, Action.ofExcept_error_bind, Action.fail_apply]

theorem calls_delete {id : Value} {link : LinkId} (h : LinkId.parse id = .ok link) (s : σ) :
    (m.delete id s).calls = [.delete link.address] := by
  rw [delete, h, Action.ofExcept_ok_bind,
    Action.bind_ok (x := m.client.deleting link.address) rfl]
  cases (m.client.delete link.address s).1 with
  | ok _ => rfl
  | error f =>
      dsimp only
      split <;> rfl

/-! ## The ways of applying -/

section Apply

variable {c : Config} {id : Value} {data : Fields}

/-- Nothing is done where nothing differs. -/
theorem apply_of_unchanged (h : (Plan.between data c).hasChanges = false) :
    m.apply c (.present id data) = pure (.present id data) := by
  simp [apply, h]

theorem apply_of_replaced (h : (Plan.between data c).requiresReplacement = true) :
    m.apply c (.present id data) = m.replace c id (Plan.between data c) := by
  simp [apply, Plan.hasChanges_of_requiresReplacement h, h]

/-- Once the deletion is done, replacing goes on as creating does. -/
theorem replace_of_deleted {s u : σ} {calls : List Call} {logs : List LogEntry}
    (h : m.delete id s = ⟨.ok (), u, calls, logs⟩) (p : Plan) :
    (m.replace c id p s).result = (m.createOrUpdate c .absent u).result ∧
      (m.replace c id p s).service = (m.createOrUpdate c .absent u).service ∧
      (m.replace c id p s).calls = calls ++ (m.createOrUpdate c .absent u).calls := by
  rw [replace, Action.bind_ok (Action.log_apply _ _ s), Action.bind_ok h]
  exact ⟨rfl, rfl, rfl⟩

theorem apply_of_kept (h : (Plan.between data c).hasChanges = true)
    (h' : (Plan.between data c).requiresReplacement = false) :
    m.apply c (.present id data) = m.createOrUpdate c (.present id data) := by
  simp [apply, h, h']

/-- All ways in which applying to something tracked can go. -/
theorem apply_route (m : Manager σ) (c : Config) (id : Value) (data : Fields) :
    ((Plan.between data c).hasChanges = false ∧
      m.apply c (.present id data) = pure (.present id data)) ∨
    ((Plan.between data c).requiresReplacement = true ∧
      m.apply c (.present id data) = m.replace c id (Plan.between data c)) ∨
    ((Plan.between data c).hasChanges = true ∧ (Plan.between data c).requiresReplacement = false ∧
      m.apply c (.present id data) = m.createOrUpdate c (.present id data)) := by
  cases hchanges : (Plan.between data c).hasChanges with
  | false => exact .inl ⟨rfl, apply_of_unchanged hchanges⟩
  | true =>
      cases hreplace : (Plan.between data c).requiresReplacement with
      | true => exact .inr (.inl ⟨rfl, apply_of_replaced hreplace⟩)
      | false => exact .inr (.inr ⟨rfl, rfl, apply_of_kept hchanges hreplace⟩)

end Apply

/-! ## Checks and conflicts -/

/-- The fault does not say that something is there already. -/
def NoConflict (e : Fault) : Prop := ∀ type id, e ≠ .alreadyExists type id

theorem noConflict_failed (request : Request) (f : Failure) : NoConflict (failed request f) := by
  intro type id h
  unfold failed at h
  split at h <;> cases h

theorem noConflict_unverified (a : Address) (f : Failure) : NoConflict (unverified a f) := by
  intro type id h
  unfold unverified at h
  split at h <;> cases h

theorem noConflict_ofMisfit {α : Type} {x : Except Misfit α} {e : Fault}
    (h : Fault.ofMisfit x = .error e) : NoConflict e := by
  intro type id he
  subst he
  cases x <;> cases h

theorem noConflict_parse {id : Value} {e : Fault} (h : LinkId.parse id = .error e) :
    NoConflict e := by
  intro type id' he
  subst he
  unfold LinkId.parse at h
  split at h
  · cases h
  · split at h
    · obtain ⟨r, -, hr⟩ := mapError_eq_error.mp h
      cases hr
    · cases h

theorem noConflict_snapshotOf {link : LinkId} {r : Option Remote} {e : Fault}
    (h : snapshotOf link r = .error e) : NoConflict e := by
  cases r with
  | none => cases h
  | some r =>
      rw [snapshotOf] at h
      split at h
      · exact noConflict_ofMisfit h
      · cases h

theorem noConflict_read (id : Value) : (m.read id).FailsWith NoConflict := by
  refine (Action.failsWith_ofExcept fun e he => noConflict_parse he).bind fun link => ?_
  refine (Action.failsWith_call _ _).bind fun answer => ?_
  cases answer with
  | ok r =>
      dsimp only
      rw [answered_eq]
      exact Action.failsWith_ofExcept fun e he => noConflict_snapshotOf he
  | error f =>
      dsimp only
      split
      · exact (Action.failsWith_log _ _).bind fun _ => Action.failsWith_pure _
      · exact Action.failsWith_fail (noConflict_failed _ f)

/-- Writes a configuration and reads it back: what creating does once nothing is in the way. -/
def settle (m : Manager σ) (c : Config) : Action σ Snapshot := do
  m.write c
  let id ← m.verify c.address
  m.read id

theorem createOrUpdate_eq (c : Config) (s : Snapshot) :
    m.createOrUpdate c s = (do
      .log .info "preparing arguments for Log Analytics Linked Service creation."
      if m.requireImport && !s.isPresent then do
        m.checkAbsent c.address
        m.settle c
      else m.settle c) := rfl

theorem noConflict_settle (c : Config) : (m.settle c).FailsWith NoConflict := by
  refine Action.FailsWith.bind ?_ fun _ => Action.FailsWith.bind ?_ fun id => noConflict_read id
  · refine (Action.failsWith_call _ _).bind fun answer => ?_
    cases answer with
    | ok _ => exact Action.failsWith_pure _
    | error f => exact Action.failsWith_fail (noConflict_failed _ f)
  · refine (Action.failsWith_call _ _).bind fun answer => ?_
    cases answer with
    | ok r =>
        dsimp only
        split
        · exact Action.failsWith_pure _
        · exact Action.failsWith_fail fun type id h => by cases h
    | error f => exact Action.failsWith_fail (noConflict_unverified _ f)

/-- A check for what is there fails in one call, or it lets through. -/
theorem checkAbsent_conflict {a : Address} {s : σ} {type id : Value}
    (h : (m.checkAbsent a s).result = .error (.alreadyExists type id)) :
    ∃ r, (m.client.get a s).1 = .ok r ∧ type = .str resourceTypeName ∧ id = Remote.idOf r ∧
      m.checkAbsent a s =
        ⟨.error (.alreadyExists type id), (m.client.get a s).2, [.get a], []⟩ := by
  rw [checkAbsent, Action.bind_ok (Action.getting_apply rfl)] at h ⊢
  cases hr : (m.client.get a s).1 with
  | ok r =>
      simp only [hr] at h ⊢
      split at h
      · rename_i ht
        obtain ⟨rfl, rfl⟩ := Fault.alreadyExists.inj (Except.error.inj h)
        refine ⟨r, rfl, rfl, rfl, ?_⟩
        rw [if_pos ht]
        rfl
      · cases h
  | error f =>
      simp only [hr] at h
      split at h
      · cases h
      · exact absurd (Except.error.inj h) (noConflict_failed _ f type id)

/-- A check lets through where the answer shows no id, or that there is nothing. -/
theorem checkAbsent_ok {a : Address} {s : σ} (h : (m.checkAbsent a s).result = .ok ()) :
    (∃ r, (m.client.get a s).1 = .ok r ∧ (Remote.idOf r).truthy = false) ∨
      ∃ f, (m.client.get a s).1 = .error f ∧ f.isNotFound = true := by
  rw [checkAbsent, Action.bind_ok (Action.getting_apply rfl)] at h
  cases hr : (m.client.get a s).1 with
  | ok r =>
      simp only [hr] at h
      split at h
      · cases h
      · rename_i ht
        exact .inl ⟨r, rfl, by simpa using ht⟩
  | error f =>
      simp only [hr] at h
      split at h
      · rename_i hf
        exact .inr ⟨f, rfl, hf⟩
      · cases h

/-- Creating ends with a conflict only where the check finds one, before anything is written. -/
theorem createOrUpdate_conflict {c : Config} {s : Snapshot} {t : σ} {type id : Value}
    (h : (m.createOrUpdate c s t).result = .error (.alreadyExists type id)) :
    s.isPresent = false ∧ ∃ r, (m.client.get c.address t).1 = .ok r ∧
      type = .str resourceTypeName ∧ id = Remote.idOf r ∧
      (m.createOrUpdate c s t).calls = [.get c.address] ∧
      (m.createOrUpdate c s t).service = (m.client.get c.address t).2 := by
  rw [createOrUpdate_eq, Action.bind_ok (Action.log_apply _ _ t)] at h ⊢
  split at h
  · rename_i hcheck
    rw [if_pos hcheck]
    cases hr : (m.checkAbsent c.address t).result with
    | ok _ =>
        rw [Action.bind_apply, Action.resume, hr] at h
        exact absurd rfl (noConflict_settle c _ _ h type id)
    | error e =>
        rw [Action.bind_apply, Action.resume, hr] at h
        obtain rfl := Except.error.inj h
        obtain ⟨r, hget, htype, hid, hcourse⟩ := checkAbsent_conflict hr
        rw [Action.bind_error hcourse]
        simp only [Bool.and_eq_true, Bool.not_eq_true'] at hcheck
        exact ⟨hcheck.2, r, hget, htype, hid, rfl, rfl⟩
  · exact absurd rfl (noConflict_settle c _ _ h type id)

end Manager

end WorkspaceLink
