import WorkspaceLink.Proofs.Surfacing

/-!
# The order of calls

Applying a configuration calls the service in one order: a deletion, a check, a write, and two
questions for what was written, each at most once. No call follows one that failed, unless the
failure was an absence that the deletion or the check met; so nothing is retried.
-/

namespace WorkspaceLink

open Exchange

theorem Payload.of_str (r : String) (tags : Tags) : Payload.of (.str r) tags = ⟨some r, tags⟩ := by
  simp [Payload.of, LinkId.part?, Value.isNull]

/-- The deletion by which applying a configuration begins: where its plan replaces what is tracked,
at the address that is read from the id. -/
def Snapshot.deletions (c : Config) : Snapshot → List Call
  | .absent => []
  | .present id data =>
    if (Plan.between data c).requiresReplacement then
      match LinkId.parse id with
      | .ok link => [.delete link.address]
      | .error _ => []
    else []

theorem Snapshot.isDelete_of_mem_deletions {c : Config} {t : Snapshot} {call : Call}
    (h : call ∈ t.deletions c) : call.isDelete = true := by
  cases t with
  | absent => cases h
  | present id data =>
      rw [deletions] at h
      split at h
      · split at h
        · rw [List.mem_singleton.mp h]
          rfl
        · cases h
      · cases h

/-- A call that follows a failed one is another call: the failure was an absence, which a deletion
met, or the check, and then the write follows. -/
theorem GoesOn.next {before rest : List Exchange} {call : Call} {next : Exchange}
    {c : Config} {x : Except Fault Snapshot} (h : GoesOn c before call (next :: rest) x) :
    (∃ a, call = .delete a) ∧ next.call.isDelete = false ∨
      (call = .get c.address ∧ written before = false) ∧
        next.call = .write c.address (.of c.resourceId c.tags) := by
  cases h with
  | deleted hn => exact .inl ⟨⟨_, rfl⟩, hn⟩
  | checked hw => exact .inr ⟨⟨rfl, hw⟩, rfl⟩

namespace Manager

variable {σ : Type} {m : Manager σ} {c : Config} {t : Snapshot} {es : List Exchange}
  {x : Except Fault Snapshot}

/-- The calls of creating: a check, a write, and questions at the address that was written and where
an id leads. -/
structure Sequenced (m : Manager σ) (c : Config) (checks writes questions : List Call) : Prop where
  checked : checks = [] ∨ m.requireImport = true ∧ checks = [.get c.address]
  written : writes = [] ∨ writes = [.write c.address (.of c.resourceId c.tags)]
  asked : questions = [] ∨ writes ≠ [] ∧ (questions = [.get c.address] ∨
    ∃ link : LinkId, questions = [.get c.address, .get link.address])

theorem sequenced_nil : Sequenced m c [] [] [] := ⟨.inl rfl, .inl rfl, .inl rfl⟩

theorem Settling.sequenced (h : Settling c es x) : ∃ writes questions,
    es.map (·.call) = writes ++ questions ∧ Sequenced m c [] writes questions := by
  cases h with
  | unwritten hw =>
      obtain ⟨o, rfl⟩ := hw.eq_singleton
      exact ⟨[_], [], rfl, .inl rfl, .inr rfl, .inl rfl⟩
  | unverified hw hq =>
      obtain ⟨o, rfl⟩ := hw.eq_singleton
      obtain ⟨o', rfl⟩ := hq.eq_singleton
      exact ⟨[_], [_], rfl, .inl rfl, .inr rfl, .inr ⟨by simp, .inl rfl⟩⟩
  | readBack hw hq hr =>
      obtain ⟨o, rfl⟩ := hw.eq_singleton
      obtain ⟨o', rfl⟩ := hq.eq_singleton
      cases hr with
      | astray _ => exact ⟨[_], [_], rfl, .inl rfl, .inr rfl, .inr ⟨by simp, .inl rfl⟩⟩
      | led _ hr =>
          obtain ⟨o'', rfl⟩ := hr.eq_singleton
          exact ⟨[_], [_, _], rfl, .inl rfl, .inr rfl, .inr ⟨by simp, .inr ⟨_, rfl⟩⟩⟩

theorem Creating.sequenced (h : Creating m c t es x) : ∃ checks writes questions,
    es.map (·.call) = checks ++ writes ++ questions ∧ Sequenced m c checks writes questions ∧
      (checks ≠ [] → t.isPresent = false) := by
  cases h with
  | unchecked h =>
      obtain ⟨writes, questions, calls, hs⟩ := h.sequenced
      exact ⟨[], writes, questions, calls, hs, by simp⟩
  | refused hr ha h =>
      obtain ⟨o, rfl⟩ := h.eq_singleton
      exact ⟨[_], [], [], rfl, ⟨.inr ⟨hr, rfl⟩, .inl rfl, .inl rfl⟩, fun _ => ha⟩
  | checked hr ha hc hs =>
      obtain ⟨o, rfl⟩ := hc.eq_singleton
      obtain ⟨writes, questions, calls, hs⟩ := hs.sequenced (m := m)
      refine ⟨[_], writes, questions, ?_, ⟨.inr ⟨hr, rfl⟩, hs.written, hs.asked⟩, fun _ => ha⟩
      rw [List.map_append, calls]
      rfl

theorem Applying.sequenced (h : Applying m c t es x) : ∃ checks writes questions,
    es.map (·.call) = t.deletions c ++ checks ++ writes ++ questions ∧
      Sequenced m c checks writes questions ∧
      (checks ≠ [] → t = .absent ∨ t.deletions c ≠ []) := by
  cases h with
  | unchanged hu =>
      have kept := Plan.not_requiresReplacement_of_not_hasChanges hu
      exact ⟨[], [], [], by simp [Snapshot.deletions, kept], sequenced_nil, by simp⟩
  | absent h =>
      obtain ⟨checks, writes, questions, calls, hs, -⟩ := h.sequenced
      exact ⟨checks, writes, questions, calls, hs, fun _ => .inl rfl⟩
  | kept hr h =>
      obtain ⟨checks, writes, questions, calls, hs, hc⟩ := h.sequenced
      refine ⟨checks, writes, questions, by simp [Snapshot.deletions, hr, calls], hs, fun hne => ?_⟩
      cases hc hne
  | undeleted hr h =>
      cases h with
      | astray hp => exact ⟨[], [], [], by simp [Snapshot.deletions, hr, hp], sequenced_nil, by simp⟩
      | led hp h =>
          obtain ⟨o, rfl⟩ := h.eq_singleton
          exact ⟨[], [], [], by simp [Snapshot.deletions, hr, hp], sequenced_nil, by simp⟩
  | replaced hr hd hc =>
      cases hd with
      | led hp hd =>
          obtain ⟨o, rfl⟩ := hd.eq_singleton
          obtain ⟨checks, writes, questions, calls, hs, -⟩ := hc.sequenced
          refine ⟨checks, writes, questions, ?_, hs, fun _ => .inr ?_⟩
          · simp [Snapshot.deletions, hr, hp, calls]
          · simp [Snapshot.deletions, hr, hp]

theorem Sequenced.isDelete_eq_false {checks writes questions : List Call}
    (h : Sequenced m c checks writes questions) :
    ∀ call ∈ checks ++ writes ++ questions, call.isDelete = false := by
  obtain ⟨checked, written, asked⟩ := h
  have ofChecks : ∀ call ∈ checks, call.isDelete = false := by
    rcases checked with rfl | ⟨-, rfl⟩ <;> simp [Call.isDelete]
  have ofWrites : ∀ call ∈ writes, call.isDelete = false := by
    rcases written with rfl | rfl <;> simp [Call.isDelete]
  have ofQuestions : ∀ call ∈ questions, call.isDelete = false := by
    rcases asked with rfl | ⟨-, rfl | ⟨link, rfl⟩⟩ <;> simp [Call.isDelete]
  simp only [List.mem_append]
  rintro call ((hc | hc) | hc)
  · exact ofChecks call hc
  · exact ofWrites call hc
  · exact ofQuestions call hc

theorem sequenced_of_mem_createOrUpdate {call : Call} {s : σ}
    (h : call ∈ (m.createOrUpdate c t s).calls) : ∃ checks writes questions,
      Sequenced m c checks writes questions ∧ call ∈ checks ++ writes ++ questions := by
  obtain ⟨-, creating⟩ := follows_createOrUpdate (m := m) (c := c) (t := t) s
  obtain ⟨checks, writes, questions, calls, sequenced, -⟩ := creating.sequenced
  rw [Client.map_call_exchanges] at calls
  rw [calls] at h
  exact ⟨checks, writes, questions, sequenced, h⟩

theorem sequenced_of_mem_apply {call : Call} {s : σ} (h : call ∈ (m.apply c t s).calls) :
    call ∈ t.deletions c ∨ ∃ checks writes questions,
      Sequenced m c checks writes questions ∧ call ∈ checks ++ writes ++ questions := by
  obtain ⟨-, applying⟩ := follows_apply (m := m) (c := c) (t := t) s
  obtain ⟨checks, writes, questions, calls, sequenced, -⟩ := applying.sequenced
  rw [Client.map_call_exchanges] at calls
  rw [calls, List.append_assoc, List.append_assoc, List.mem_append, ← List.append_assoc] at h
  exact h.imp_right fun other => ⟨checks, writes, questions, sequenced, other⟩

/-- Without a check, creating writes. -/
theorem write_mem_createOrUpdate (unchecked : (m.requireImport && !t.isPresent) = false) (s : σ) :
    Call.write c.address (.ofConfig c) ∈ (m.createOrUpdate c t s).calls := by
  rw [createOrUpdate_eq, unchecked, if_neg Bool.false_ne_true]
  refine Action.mem_calls_bind.mpr (.inr ⟨(), rfl, ?_⟩)
  refine Action.mem_calls_bind.mpr (.inl ?_)
  refine Action.mem_calls_bind.mpr (.inl ?_)
  exact List.mem_singleton.mpr rfl

/-- Something is deleted only where a plan replaces it. -/
theorem requiresReplacement_of_delete {id : Value} {data : Fields} {a : Address} {s : σ}
    (h : Call.delete a ∈ (m.apply c (.present id data) s).calls) :
    (Plan.between data c).requiresReplacement = true := by
  rcases sequenced_of_mem_apply h with deleted | ⟨checks, writes, questions, sequenced, other⟩
  · rw [Snapshot.deletions] at deleted
    split at deleted
    · rename_i replaced
      exact replaced
    · cases deleted
  · cases sequenced.isDelete_eq_false _ other

/-- The calls of applying come in one order, with at most one deletion, check and write and two
questions after it, and they are all that it does to the service. Only an absence that the deletion
or the check met is followed by a call. Reading, importing and deleting make one call, if they can
read the id. -/
theorem apply_disciplined (m : Manager σ) (c : Config) (t : Snapshot) (id : Value) (s : σ) :
    (∃ checks writes questions,
      (m.apply c t s).calls = t.deletions c ++ checks ++ writes ++ questions ∧
        Sequenced m c checks writes questions ∧
        (checks ≠ [] → t = .absent ∨ t.deletions c ≠ [])) ∧
      (∀ r, c.resourceId = .str r → Payload.of c.resourceId c.tags = ⟨some r, c.tags⟩) ∧
      (m.apply c t s).service = m.client.after (m.apply c t s).calls s ∧
      (∀ before call f next rest,
        m.client.exchanges (m.apply c t s).calls s = before ++ ⟨call, some f⟩ :: next :: rest →
        f.isNotFound = true ∧
          ((∃ a, call = .delete a) ∧ next.call.isDelete = false ∨
            (call = .get c.address ∧ written before = false) ∧
              next.call = .write c.address (.of c.resourceId c.tags))) ∧
      (∀ link, LinkId.parse id = .ok link → (m.read id s).calls = [.get link.address] ∧
        (m.importExisting id s).calls = [.get link.address] ∧
        (m.delete id s).calls = [.delete link.address]) ∧
      ∀ e, LinkId.parse id = .error e → (m.read id s).calls = [] ∧
        (m.importExisting id s).calls = [] ∧ (m.delete id s).calls = [] := by
  obtain ⟨replayed, applying⟩ := follows_apply (m := m) (c := c) (t := t) s
  refine ⟨?_, fun r hr => by rw [hr, Payload.of_str], replayed, ?_, ?_, ?_⟩
  · obtain ⟨checks, writes, questions, calls, hs, hc⟩ := applying.sequenced
    rw [Client.map_call_exchanges] at calls
    exact ⟨checks, writes, questions, calls, hs, hc⟩
  · -- a failure that ends the operation is in the last exchange, and here one more follows
    intro before call f next rest split
    have handled := applying.surfacing.handled before call f (next :: rest) split
    by_cases hended : f.isNotFound = false ∨ tolerates before call = false
    · cases (handled.ended hended).1
    · simp only [not_or, Bool.not_eq_false] at hended
      exact ⟨hended.1, (handled.absorbed hended.1 hended.2).next⟩
  · intro link hp
    exact ⟨calls_read hp s, calls_read hp s, calls_delete hp s⟩
  · intro e hp
    rw [importExisting, read_of_parse_error hp, delete_of_parse_error hp]
    exact ⟨rfl, rfl, rfl⟩

end Manager

namespace Manager

open Sample

/-- Where nothing is ever found, a deletion and a check are followed by calls, and the write is
not. -/
theorem apply_disciplined_missing :
    (∃ rest, missing.client.exchanges (missing.apply config tracked ()).calls () =
        ⟨.delete (link "ws01").address, some Store.absence⟩ ::
          ⟨.get config.address, some Store.absence⟩ :: rest) ∧
      Store.absence.isNotFound = true ∧
      LinkId.parse (.str (link "ws01").print) = .ok (link "ws01") ∧
      (missing.read (.str (link "ws01").print) ()).calls = [.get (link "ws01").address] ∧
      (missing.delete (.str (link "ws01").print) ()).calls = [.delete (link "ws01").address] := by
  have exchanges := apply_missing.2
  obtain ⟨-, -, -, followed, called, -⟩ :=
    apply_disciplined missing config tracked (.str (link "ws01").print) ()
  obtain ⟨notFound, -⟩ := followed [] _ _ _ _ exchanges
  obtain ⟨read, -, delete⟩ := called _ parse_link
  exact ⟨⟨_, exchanges⟩, notFound, parse_link, read, delete⟩

end Manager

end WorkspaceLink
