import WorkspaceLink.Proofs.Manager

/-!
# What operations keep

An operation does to the service what its calls do: it asks for objects, writes the configuration at
its address and deletes where an id leads. So what these calls keep, the operation keeps, however it
ends and whichever calls fail.
-/

namespace WorkspaceLink

namespace Action

variable {σ α β : Type} {I : σ → Prop}

/-- An action keeps a property of the service, however it ends. -/
def Keeps (I : σ → Prop) (x : Action σ α) : Prop := ∀ s, I s → I (x s).service

theorem keeps_pure (a : α) : (pure a : Action σ α).Keeps I := fun _ h => h

theorem keeps_fail (e : Fault) : (fail e : Action σ α).Keeps I := fun _ h => h

theorem keeps_log (level : LogLevel) (text : String) :
    (log level text : Action σ Unit).Keeps I := fun _ h => h

theorem keeps_call {c : Call} {answer : σ → α × σ} (h : ∀ s, I s → I (answer s).2) :
    (call c answer).Keeps I := h

theorem keeps_ofExcept (x : Except Fault α) : (ofExcept x : Action σ α).Keeps I := by
  intro s h
  rwa [ofExcept_apply]

/-- What follows an action has to keep a property only after the results that the action can have. -/
theorem kept_bind {x : Action σ α} {f : α → Action σ β} {s : σ} (hx : I (x s).service)
    (hf : ∀ a, (x s).result = .ok a → I (f a (x s).service).service) :
    I ((x >>= f) s).service := by
  rw [bind_apply, resume]
  split
  · exact hx
  · rename_i a ha
    exact hf a ha

theorem Keeps.bind {x : Action σ α} {f : α → Action σ β} (hx : x.Keeps I)
    (hf : ∀ a, (f a).Keeps I) : (x >>= f).Keeps I :=
  fun s h => kept_bind (hx s h) fun a _ => hf a _ (hx s h)

end Action

namespace Manager

variable {σ : Type} {m : Manager σ} {I : σ → Prop} {c : Config}

/-! ## Operations through any client -/

/-- Asking for objects keeps a property. -/
def Asks (m : Manager σ) (I : σ → Prop) : Prop := ∀ a s, I s → I (m.client.get a s).2

/-- Writing a configuration keeps a property. -/
def Writes (m : Manager σ) (I : σ → Prop) (c : Config) : Prop :=
  ∀ s, I s → I (m.client.write c.address (.ofConfig c) s).2

/-- Deleting where an id leads keeps a property. -/
def Deletes (m : Manager σ) (I : σ → Prop) (id : Value) : Prop :=
  ∀ link, LinkId.parse id = .ok link → ∀ s, I s → I (m.client.delete link.address s).2

theorem keeps_read (asks : m.Asks I) (id : Value) : (m.read id).Keeps I := by
  refine (Action.keeps_ofExcept _).bind fun link => (Action.keeps_call (asks _)).bind fun r => ?_
  cases r with
  | ok r =>
      dsimp only
      rw [answered_eq]
      exact Action.keeps_ofExcept _
  | error f =>
      dsimp only
      split
      · exact (Action.keeps_log _ _).bind fun _ => Action.keeps_pure _
      · exact Action.keeps_fail _

theorem keeps_checkAbsent (asks : m.Asks I) (a : Address) : (m.checkAbsent a).Keeps I := by
  refine (Action.keeps_call (asks a)).bind fun r => ?_
  cases r with
  | ok r =>
      dsimp only
      split
      · exact Action.keeps_fail _
      · exact Action.keeps_pure _
  | error f =>
      dsimp only
      split
      · exact Action.keeps_pure _
      · exact Action.keeps_fail _

theorem keeps_settle (asks : m.Asks I) (writes : m.Writes I c) : (m.settle c).Keeps I := by
  refine Action.Keeps.bind ?_ fun _ => Action.Keeps.bind ?_ fun id => keeps_read asks id
  · refine (Action.keeps_call writes).bind fun r => ?_
    cases r with
    | ok _ => exact Action.keeps_pure _
    | error f => exact Action.keeps_fail _
  · refine (Action.keeps_call (asks _)).bind fun r => ?_
    cases r with
    | ok r =>
        dsimp only
        split
        · exact Action.keeps_pure _
        · exact Action.keeps_fail _
    | error f => exact Action.keeps_fail _

theorem keeps_createOrUpdate (asks : m.Asks I) (writes : m.Writes I c) (t : Snapshot) :
    (m.createOrUpdate c t).Keeps I := by
  rw [createOrUpdate_eq]
  refine (Action.keeps_log _ _).bind fun _ => ?_
  split
  · exact (keeps_checkAbsent asks _).bind fun _ => keeps_settle asks writes
  · exact keeps_settle asks writes

theorem keeps_delete {id : Value} (deletes : m.Deletes I id) : (m.delete id).Keeps I := by
  cases hp : LinkId.parse id with
  | error e =>
      intro s h
      rwa [delete_of_parse_error hp]
  | ok link =>
      rw [delete, hp, Action.ofExcept_ok_bind]
      refine (Action.keeps_call (deletes link hp)).bind fun r => ?_
      cases r with
      | ok _ => exact Action.keeps_pure _
      | error f =>
          dsimp only
          split
          · exact Action.keeps_pure _
          · exact Action.keeps_fail _

theorem keeps_replace {id : Value} (deletes : m.Deletes I id)
    (creates : (m.createOrUpdate c .absent).Keeps I) (p : Plan) : (m.replace c id p).Keeps I :=
  (Action.keeps_log _ _).bind fun _ => (keeps_delete deletes).bind fun _ => creates

theorem keeps_apply (asks : m.Asks I) (writes : m.Writes I c) (deletes : ∀ id, m.Deletes I id)
    (t : Snapshot) : (m.apply c t).Keeps I := by
  have creates (t : Snapshot) := keeps_createOrUpdate asks writes t
  cases t with
  | absent => exact creates _
  | present id data =>
      rcases apply_route m c id data with ⟨-, route⟩ | ⟨-, route⟩ | ⟨-, -, route⟩ <;> rw [route]
      · exact Action.keeps_pure _
      · exact keeps_replace (deletes id) (creates _) _
      · exact creates _

/-! ## Operations whose calls may fail -/

/-- A manager whose calls are counted, and fail without an effect where a schedule says so. -/
def failing (m : Manager σ) (schedule : Nat → Option Failure) : Manager (Nat × σ) :=
  ⟨m.client.failing schedule, m.requireImport⟩

variable {schedule : Nat → Option Failure}

theorem attempt_of_failure {α : Type} {answer : σ → Except Failure α × σ} {n : Nat} {f : Failure}
    (h : schedule n = some f) (s : σ) :
    Client.failing.attempt schedule answer (n, s) = (.error f, (n + 1, s)) := by
  simp [Client.failing.attempt, h]

theorem attempt_of_answer {α : Type} {answer : σ → Except Failure α × σ} {n : Nat}
    (h : schedule n = none) (s : σ) :
    Client.failing.attempt schedule answer (n, s) = ((answer s).1, (n + 1, (answer s).2)) := by
  simp [Client.failing.attempt, h]

/-- A call that fails leaves the service alone. -/
theorem attempt_keeps {α : Type} {answer : σ → Except Failure α × σ}
    (h : ∀ s, I s → I (answer s).2) (p : Nat × σ) (hp : I p.2) :
    I (Client.failing.attempt schedule answer p).2.2 := by
  obtain ⟨n, s⟩ := p
  cases hn : schedule n with
  | some f =>
      rw [attempt_of_failure hn]
      exact hp
  | none =>
      rw [attempt_of_answer hn]
      exact h s hp

theorem Asks.failing (h : m.Asks I) : (m.failing schedule).Asks fun p => I p.2 :=
  fun a => attempt_keeps (h a)

theorem Writes.failing (h : m.Writes I c) : (m.failing schedule).Writes (fun p => I p.2) c :=
  attempt_keeps h

theorem Deletes.failing {id : Value} (h : m.Deletes I id) :
    (m.failing schedule).Deletes (fun p => I p.2) id :=
  fun link hp => attempt_keeps (h link hp)

end Manager

end WorkspaceLink
