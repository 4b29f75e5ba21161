import WorkspaceLink.Proofs.Tracking
import WorkspaceLink.Script

/-!
# Reading back what was written

Once a write has gone through, creating asks for the object twice: at the address that was written,
and where the id in the answer leads. Only the first question is a verification. The second one is
an ordinary reading, and ends as that does: with an absent snapshot where the object has gone in
between, and with the faults of a reading.
-/

namespace WorkspaceLink

/-- Actions in sequence, however they are grouped. -/
theorem Action.bind_assoc {σ α β γ : Type} (x : Action σ α) (f : α → Action σ β)
    (g : β → Action σ γ) : (x >>= f) >>= g = x >>= fun a => f a >>= g := by
  funext s
  simp only [bind_apply, resume]
  cases (x s).result with
  | error e => rfl
  | ok a =>
      dsimp only
      cases (f a (x s).service).result with
      | error e => rfl
      | ok b => simp [List.append_assoc]

/-- An object that has a name, and tags that are a mapping or nothing. -/
def Remote.Whole (r : Remote) : Prop :=
  ∃ name, r.name = some name ∧ (r.tags = some .null ∨ ∃ tags, r.tags = some (.map tags))

theorem Remote.Whole.toSnapshot {r : Remote} (h : r.Whole) (link : LinkId) :
    ∃ data, r.toSnapshot link = .ok (.present r.id data) := by
  obtain ⟨name, hname, htags⟩ := h
  obtain ⟨v, fs, hv, hflat⟩ : ∃ v fs, r.tags = some v ∧ Tags.flatten v = .ok fs := by
    rcases htags with htags | ⟨tags, htags⟩
    · exact ⟨_, [], htags, rfl⟩
    · exact ⟨_, tags, htags, Tags.flatten_map tags⟩
  refine ⟨data link name r.resourceId fs, ?_⟩
  simp [Remote.toSnapshot, hname, hv, hflat, bind, Except.bind, pure, Except.pure]

/-- An id that cannot be read is malformed, or no text at all. -/
theorem LinkId.parse_eq_error {id : Value} {e : Fault} (h : parse id = .error e) :
    (∃ reason, e = .malformedId id reason) ∨ e = .misfit .notText ∧ ∀ text, id ≠ .str text := by
  unfold parse at h
  split at h
  · exact .inl ⟨_, (Except.error.inj h).symm⟩
  · split at h
    · obtain ⟨r, -, hr⟩ := mapError_eq_error.mp h
      exact .inl ⟨_, hr.symm⟩
    · rename_i other
      exact .inr ⟨(Except.error.inj h).symm, fun text he => other text he⟩

namespace Manager

variable {σ : Type} {m : Manager σ} {c : Config} {t : Snapshot}

/-! ## The two halves of creating -/

/-- What creating does before its write. -/
def check (m : Manager σ) (c : Config) (t : Snapshot) : Action σ Unit :=
  if m.requireImport && !t.isPresent then m.checkAbsent c.address else pure ()

/-- What creating does until its write has gone through. -/
def submit (m : Manager σ) (c : Config) (t : Snapshot) : Action σ Unit := do
  .log .info "preparing arguments for Log Analytics Linked Service creation."
  m.check c t
  m.write c

/-- What creating does after its write. -/
def readBack (m : Manager σ) (a : Address) : Action σ Snapshot := do
  let id ← m.verify a
  m.read id

theorem createOrUpdate_eq_submit :
    m.createOrUpdate c t = m.submit c t >>= fun _ => m.readBack c.address := by
  simp only [submit, Action.bind_assoc, check, createOrUpdate]
  split <;> rfl

theorem createOrUpdate_of_submitted {s : σ} (h : (m.submit c t s).result = .ok ()) :
    (m.createOrUpdate c t s).result =
      (m.readBack c.address (m.submit c t s).service).result := by
  rw [createOrUpdate_eq_submit, Action.bind_apply, Action.resume, h]

theorem write_eq_ok {s : σ} (h : (m.write c s).result = .ok ()) :
    m.client.write c.address (.ofConfig c) s = (.ok (), (m.write c s).service) := by
  cases hw : m.client.write c.address (.ofConfig c) s with
  | mk answer u =>
      have course : m.client.writing c.address (.ofConfig c) s =
          ⟨.ok answer, u, [.write c.address (.ofConfig c)], []⟩ := by
        rw [Client.writing, Action.call_apply, hw]
      rw [write, Action.bind_ok course] at h ⊢
      cases answer with
      | ok _ => rfl
      | error f => cases h

/-- What was submitted has been written, and that is the last thing that happened. -/
theorem write_of_submitted {s : σ} (h : (m.submit c t s).result = .ok ()) :
    ∃ u, m.client.write c.address (.ofConfig c) u = (.ok (), (m.submit c t s).service) := by
  obtain ⟨_, hcheck, service⟩ := Action.bind_result_ok h
  obtain ⟨_, hwrite, service'⟩ := Action.bind_result_ok hcheck
  exact ⟨_, (write_eq_ok hwrite).trans (congrArg (Prod.mk _) (service.trans service').symm)⟩

/-- Once an id has been found, reading back goes on as reading does. -/
theorem readBack_of_answer {a : Address} {s u : σ} {r : Option Remote}
    (hget : m.client.get a s = (.ok r, u)) (hid : (Remote.idOf r).truthy = true) :
    (m.readBack a s).result = (m.read (Remote.idOf r) u).result := by
  rw [readBack, Action.bind_ok (verify_of_answer hget hid)]

/-! ## How reading back ends -/

/-- How reading ends where an id leads, by the answer of the service. -/
inductive Reread (client : Client σ) (link : LinkId) (s : σ) : Except Fault Snapshot → Prop
  | present {r : Remote} {u : σ} {data : Fields} :
      client.get link.address s = (.ok (some r), u) → r.id.truthy = true →
      r.toSnapshot link = .ok (.present r.id data) → Reread client link s (.ok (.present r.id data))
  | nameless {r : Option Remote} {u : σ} :
      client.get link.address s = (.ok r, u) → (Remote.idOf r).truthy = false →
      Reread client link s (.ok .absent)
  | gone {f : Failure} {u : σ} :
      client.get link.address s = (.error f, u) → f.isNotFound = true →
      Reread client link s (.ok .absent)
  | failed {f : Failure} {u : σ} :
      client.get link.address s = (.error f, u) → f.isService = true → f.isNotFound = false →
      Reread client link s (.error (.requestFailed (.reading link.address) f))
  | broken {f : Failure} {u : σ} :
      client.get link.address s = (.error f, u) → f.isService = false →
      Reread client link s (.error (.failure f))

/-- How reading back ends, by the answers of the service at an address and where the id in the
first answer leads. -/
inductive Verified (client : Client σ) (a : Address) (s : σ) : Except Fault Snapshot → Prop
  | unanswered {f : Failure} {u : σ} :
      client.get a s = (.error f, u) → f.isService = true →
      Verified client a s (.error (.unverified a (some f)))
  | nameless {r : Option Remote} {u : σ} :
      client.get a s = (.ok r, u) → (Remote.idOf r).truthy = false →
      Verified client a s (.error (.unverified a none))
  | malformed {r : Option Remote} {u : σ} {reason : String} :
      client.get a s = (.ok r, u) → (Remote.idOf r).truthy = true →
      LinkId.parse (Remote.idOf r) = .error (.malformedId (Remote.idOf r) reason) →
      Verified client a s (.error (.malformedId (Remote.idOf r) reason))
  | notText {r : Option Remote} {u : σ} :
      client.get a s = (.ok r, u) → (Remote.idOf r).truthy = true →
      (∀ text, Remote.idOf r ≠ .str text) → Verified client a s (.error (.misfit .notText))
  | reread {r : Option Remote} {u : σ} {link : LinkId} {x : Except Fault Snapshot} :
      client.get a s = (.ok r, u) → (Remote.idOf r).truthy = true →
      LinkId.parse (Remote.idOf r) = .ok link → Reread client link u x → Verified client a s x
  | broken {f : Failure} {u : σ} :
      client.get a s = (.error f, u) → f.isService = false →
      Verified client a s (.error (.failure f))

theorem reread_read {id : Value} {link : LinkId} {s : σ} (hp : LinkId.parse id = .ok link)
    (whole : ∀ r, (m.client.get link.address s).1 = .ok (some r) → r.Whole) :
    Reread m.client link s (m.read id s).result := by
  cases hget : m.client.get link.address s with
  | mk answer u =>
      cases answer with
      | ok r =>
          rw [read_of_answer hp hget]
          cases r with
          | none => exact .nameless hget rfl
          | some r =>
              cases hid : r.id.truthy with
              | false =>
                  have absent : snapshotOf link (some r) = .ok .absent := by
                    simp [snapshotOf, hid]
                  rw [absent]
                  exact .nameless hget hid
              | true =>
                  obtain ⟨data, hdata⟩ := (whole r (by rw [hget])).toSnapshot link
                  have present : snapshotOf link (some r) = .ok (.present r.id data) := by
                    rw [snapshotOf, if_pos hid, hdata]
                    rfl
                  rw [present]
                  exact .present hget hid hdata
      | error f =>
          cases hf : f.isNotFound with
          | true =>
              rw [(read_of_not_found hp hget hf).1]
              exact .gone hget hf
          | false =>
              rw [read_of_failure hp hget hf, failed]
              split
              · rename_i hs
                exact .failed hget hs hf
              · rename_i hs
                exact .broken hget (by simpa using hs)

theorem verified_readBack {a : Address} {s : σ}
    (whole : ∀ b r, (m.client.get b (m.client.get a s).2).1 = .ok (some r) → r.Whole) :
    Verified m.client a s (m.readBack a s).result := by
  cases hget : m.client.get a s with
  | mk answer u =>
      have asked : m.client.getting a s = ⟨.ok answer, u, [.get a], []⟩ := Action.getting_apply hget
      rw [hget] at whole
      cases answer with
      | error f =>
          have verify : m.verify a s = ⟨.error (unverified a f), u, [.get a], []⟩ := by
            rw [Manager.verify, Action.bind_ok asked]
            rfl
          rw [readBack, Action.bind_error verify, unverified]
          split
          · rename_i hs
            exact .unanswered hget hs
          · rename_i hs
            exact .broken hget (by simpa using hs)
      | ok r =>
          cases hid : (Remote.idOf r).truthy with
          | false =>
              have verify : m.verify a s = ⟨.error (.unverified a none), u, [.get a], []⟩ := by
                rw [Manager.verify, Action.bind_ok asked]
                simp [hid]
              rw [readBack, Action.bind_error verify]
              exact .nameless hget hid
          | true =>
              rw [readBack_of_answer hget hid]
              cases hp : LinkId.parse (Remote.idOf r) with
              | ok link => exact .reread hget hid hp (reread_read hp (whole _))
              | error e =>
                  rw [read_of_parse_error hp]
                  rcases LinkId.parse_eq_error hp with ⟨reason, rfl⟩ | ⟨rfl, other⟩
                  · exact .malformed hget hid hp
                  · exact .notText hget hid other

/-- Once a write has gone through, creating ends as the two answers of the service make reading back
end, as long as objects have a name and tags. -/
theorem createOrUpdate_verified {s : σ} (written : (m.submit c t s).result = .ok ())
    (whole : ∀ a r,
      (m.client.get a (m.client.get c.address (m.submit c t s).service).2).1 = .ok (some r) →
        r.Whole) :
    Verified m.client c.address (m.submit c t s).service (m.createOrUpdate c t s).result := by
  rw [createOrUpdate_of_submitted written]
  exact verified_readBack whole

end Manager

namespace Sample

/-- A manager that writes whatever it is told to, and has two answers to questions for objects. -/
def answering (first second : Except Failure (Option Remote)) : Manager Bool where
  client := {
    get := fun _ asked => (if asked then second else first, true)
    write := fun _ _ asked => (.ok (), asked)
    delete := fun _ asked => (.ok (), asked)
    list := fun _ _ asked => (.ok [], asked) }
  requireImport := false

/-- What is wanted, as the service answers with it. -/
def seen : Remote :=
  ⟨.str (config.linkId "sub").print, some (.str defaultName), .str account, some .null⟩

/-- The same with an id that cannot be read. -/
def misnamed : Remote := { seen with id := .str "ws02" }

def refusal : Failure := ⟨.http, some "Forbidden", .int 403⟩

theorem submit_answering (first second : Except Failure (Option Remote)) :
    (answering first second).submit config .absent false =
      ⟨.ok (), false, [.write config.address (.ofConfig config)], [Store.preparing]⟩ := rfl

theorem readable_config : (config.linkId "sub").Readable :=
  (Config.addressable_of_decode decode_raw).readable "sub" (by decide)

theorem truthy_seen : seen.id.truthy = true := by
  simp [seen, Value.truthy, Scalar.truthy, LinkId.print_ne_empty]

theorem readBack_seen (second : Except Failure (Option Remote)) :
    ((answering (.ok (some seen)) second).readBack config.address false).result =
      ((answering (.ok (some seen)) second).read seen.id true).result :=
  Manager.readBack_of_answer (r := some seen) rfl truthy_seen

end Sample

namespace Manager

open Sample

/-- An object that is there at both questions. -/
theorem createOrUpdate_verified_seen :
    ((answering (.ok (some seen)) (.ok (some seen))).submit config .absent false).result = .ok () ∧
      Verified (answering (.ok (some seen)) (.ok (some seen))).client config.address false
        ((answering (.ok (some seen)) (.ok (some seen))).createOrUpdate config .absent
          false).result := by
  refine ⟨rfl, createOrUpdate_verified (s := false) rfl ?_⟩
  intro a r h
  obtain rfl := Option.some.inj (Except.ok.inj h)
  exact ⟨_, rfl, .inl rfl⟩

/-- The write goes through, objects have a name and tags and failures are those of the service. Yet
creating ends with an absent snapshot, where the object has gone or nothing is answered, with a
failed reading and with a malformed id. -/
theorem createOrUpdate_strays :
    (∀ first second, ((answering first second).submit config .absent false).result = .ok ()) ∧
      seen.Whole ∧ misnamed.Whole ∧ Store.absence.isService = true ∧ refusal.isService = true ∧
      ((answering (.ok (some seen)) (.error Store.absence)).createOrUpdate config .absent
        false).result = .ok .absent ∧
      ((answering (.ok (some seen)) (.ok none)).createOrUpdate config .absent
        false).result = .ok .absent ∧
      ((answering (.ok (some seen)) (.error refusal)).createOrUpdate config .absent
        false).result = .error (.requestFailed (.reading config.address) refusal) ∧
      ((answering (.ok (some misnamed)) (.ok (some misnamed))).createOrUpdate config .absent
        false).result = .error (.malformedId (.str "ws02") LinkId.Refusal.invalid.text) := by
  have parsed : LinkId.parse seen.id = .ok (config.linkId "sub") :=
    LinkId.parse_print readable_config
  refine ⟨fun _ _ => rfl, ⟨_, rfl, .inl rfl⟩, ⟨_, rfl, .inl rfl⟩, rfl, rfl, ?_, ?_, ?_, ?_⟩
  · rw [createOrUpdate_of_submitted rfl, submit_answering, readBack_seen]
    exact (read_of_not_found parsed rfl rfl).1
  · rw [createOrUpdate_of_submitted rfl, submit_answering, readBack_seen,
      read_of_answer parsed rfl]
    rfl
  · rw [createOrUpdate_of_submitted rfl, submit_answering, readBack_seen,
      read_of_failure parsed rfl rfl]
    rfl
  · rw [createOrUpdate_of_submitted rfl, submit_answering]
    rfl

end Manager

end WorkspaceLink
