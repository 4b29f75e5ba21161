import WorkspaceLink.Proofs.Custody
import WorkspaceLink.Session

/-!
# Tracked snapshots are consistent

The id of a snapshot is told by the service and its names by whoever asked, and still they agree,
whatever was done in a session, whatever failed and whatever happened to the store behind it.
-/

namespace WorkspaceLink

/-! ## Consistent snapshots -/

namespace Snapshot

/-- The data of a snapshot have all fields and no other key, and their properties have no key but
the one for the id of a resource. -/
def Schematic : Snapshot → Prop
  | .absent => True
  | .present _ data => data.keys.Perm (Field.all.map fun f => .str f.key) ∧
      ∃ ps, data.field? Field.properties.key = some (.map ps) ∧
        ∀ k ∈ Fields.keys ps, k = .str resourceIdKey

/-- The id and the data of a snapshot agree, and the data have the right keys. -/
structure Consistent (t : Snapshot) : Prop where
  coherent : t.Coherent
  schematic : t.Schematic

theorem consistent_absent : Snapshot.absent.Consistent := ⟨trivial, trivial⟩

end Snapshot

theorem Remote.keys_data_perm (link : LinkId) (name resourceId : Value) (tags : Fields) :
    (data link name resourceId tags).keys.Perm (Field.all.map fun f => .str f.key) := by
  -- the reported name comes first in data
  have moved : (Field.reportedName :: ([.group, .workspace, .name, .properties] ++ [.tags])).Perm
      Field.all := List.perm_middle.symm
  exact moved.map fun f => Scalar.str f.key

theorem key_of_mem_propertiesOf {resourceId : Value} {k : Scalar}
    (h : k ∈ Fields.keys (propertiesOf resourceId)) : k = .str resourceIdKey := by
  unfold propertiesOf at h
  split at h
  · cases h
  · exact List.mem_singleton.mp h

/-! ## How a step can end -/

section Ends

variable {σ : Type} {m : Manager σ} {c : Config} {t u : Snapshot} {s : σ}

/-- A course ended with what a read that came last in it ended with. -/
def Manager.EndsInRead (m : Manager σ) (course : Course σ Snapshot) (u : Snapshot) : Prop :=
  ∃ id s', (m.read id s').result = .ok u ∧ course.service = (m.read id s').service

theorem Manager.endsInRead_replace {id : Value} {p : Plan}
    (h : (m.replace c id p s).result = .ok u) : m.EndsInRead (m.replace c id p s) u := by
  obtain ⟨_, h, service⟩ := Action.bind_result_ok h
  obtain ⟨_, h, service'⟩ := Action.bind_result_ok h
  obtain ⟨id', s', read, last⟩ := Manager.read_of_createOrUpdate h
  exact ⟨id', s', read, service.trans (service'.trans last)⟩

theorem Manager.endsInRead_apply (h : (m.apply c t s).result = .ok u) :
    u = t ∨ m.EndsInRead (m.apply c t s) u := by
  cases t with
  | absent => exact .inr (Manager.read_of_createOrUpdate h)
  | present id data =>
      rcases Manager.apply_route m c id data with ⟨-, route⟩ | ⟨-, route⟩ | ⟨-, -, route⟩ <;>
        rw [route] at h ⊢
      · exact .inl (Except.ok.inj h).symm
      · exact .inr (Manager.endsInRead_replace h)
      · exact .inr (Manager.read_of_createOrUpdate h)

/-- A step starts from the snapshot that is tracked. -/
def Step.OnTracked : Step → Prop
  | .createOrUpdate _ from? | .apply _ from? => from? = none
  | .read _ | .importExisting _ | .delete _ => True

/-- A step that succeeds ends with nothing, with what was tracked before, or with what it read. -/
theorem Step.run_eq_ok {step : Step} (on : step.OnTracked)
    (h : (step.run m t s).result = .ok u) :
    u = .absent ∨ u = t ∨ m.EndsInRead (step.run m t s) u := by
  cases step with
  | createOrUpdate c from? =>
      obtain rfl : from? = none := on
      exact .inr (.inr (Manager.read_of_createOrUpdate h))
  | apply c from? =>
      obtain rfl : from? = none := on
      exact .inr (Manager.endsInRead_apply h)
  | read id? => exact .inr (.inr ⟨_, s, h, rfl⟩)
  | importExisting id? => exact .inr (.inr ⟨_, s, h, rfl⟩)
  | delete id? =>
      obtain ⟨_, h, -⟩ := Action.bind_result_ok h
      exact .inl (Except.ok.inj h).symm

/-- What every call keeps, every step keeps. -/
theorem Step.keeps_run {I : σ → Prop} (asks : m.Asks I) (writes : ∀ c, m.Writes I c)
    (deletes : ∀ id, m.Deletes I id) (t : Snapshot) (step : Step) : (step.run m t).Keeps I := by
  cases step with
  | createOrUpdate c from? => exact Manager.keeps_createOrUpdate asks (writes c) _
  | apply c from? => exact Manager.keeps_apply asks (writes c) deletes _
  | read id? => exact Manager.keeps_read asks _
  | importExisting id? => exact Manager.keeps_read asks _
  | delete id? =>
      exact (Manager.keeps_delete (deletes _)).bind fun _ => Action.keeps_pure _

end Ends

namespace Store

variable {s start : Store} {b : Bool} {t u : Snapshot} {schedule : Nat → Option Failure}

/-! ## What a store gives out is consistent -/

/-- A store whose ids can be read back: items are held under their own keys, and the subscription
has no slash. -/
structure Sound (s : Store) : Prop where
  keyed : s.Keyed
  subscription : '/' ∉ s.subscription.toList

theorem Sound.put (h : s.Sound) (i : Item) : (s.put i).Sound := ⟨h.keyed.put i, h.subscription⟩

theorem Sound.remove (h : s.Sound) (k : Key) : (s.remove k).Sound :=
  ⟨h.keyed.remove k, h.subscription⟩

theorem Tracks.consistent {id : Value} {data tags : Fields} {link : LinkId} {i : Item}
    (h : s.Tracks id data link i tags) (hs : s.Sound) : (Snapshot.present id data).Consistent := by
  have parsed := h.parse_id hs.keyed hs.subscription
  have key : link.key = (s.idOf i).key := by
    rw [key_idOf, hs.keyed.key_of_find? h.found]
  obtain ⟨-, -, -, -, rfl⟩ := h
  refine ⟨⟨_, link.group, link.workspace, link.name, parsed, Remote.field?_data .group,
    Remote.field?_data .workspace, Remote.field?_data .name, key⟩, ?_⟩
  exact ⟨Remote.keys_data_perm _ _ _ _, _, Remote.field?_data .properties,
    fun k hk => key_of_mem_propertiesOf hk⟩

/-- What is read in spite of failures is what the store holds. -/
theorem read_failing_eq_present {id id' : Value} {data : Fields} {p : Nat × Store}
    (h : (((manager b).failing schedule).read id p).result = .ok (.present id' data)) :
    ((manager b).read id p.2).result = .ok (.present id' data) := by
  obtain ⟨n, s⟩ := p
  obtain ⟨link, r, hp, answer, truthy, made⟩ := Manager.read_eq_present_iff.mp h
  refine Manager.read_eq_present_iff.mpr ⟨link, r, hp, ?_, truthy, made⟩
  simp only [Manager.failing, Client.failing] at answer
  cases hn : schedule n with
  | some f =>
      rw [Manager.attempt_of_failure hn] at answer
      cases answer
  | none =>
      rw [Manager.attempt_of_answer hn] at answer
      exact answer

theorem service_read_failing (id : Value) (p : Nat × Store) :
    (((manager b).failing schedule).read id p).service.2 = p.2 :=
  Manager.keeps_read (asks b (· = p.2)).failing id p rfl

/-- What a course ends in by reading is consistent, if the store that it leaves is sound. -/
theorem consistent_of_endsInRead {course : Course (Nat × Store) Snapshot}
    (h : ((manager b).failing schedule).EndsInRead course u) (hs : course.service.2.Sound) :
    u.Consistent := by
  obtain ⟨id, p, read, service⟩ := h
  rw [service, service_read_failing] at hs
  cases u with
  | absent => exact Snapshot.consistent_absent
  | present id' data =>
      obtain ⟨link, i, tags, tracked⟩ := tracks_of_read (read_failing_eq_present read)
      exact tracked.consistent hs

/-! ## Sessions -/

/-- Whatever is written, and wherever, a store stays sound. -/
theorem writes_sound (b : Bool) (c : Config) : (manager b).Writes Sound c := by
  intro s hs
  simp only [manager, client, write]
  split
  · exact hs.put _
  · exact hs

theorem keeps_sound (b : Bool) (schedule : Nat → Option Failure) (t : Snapshot) (step : Step) :
    (step.run ((manager b).failing schedule) t).Keeps fun p => p.2.Sound :=
  step.keeps_run (asks b _).failing (fun c => (writes_sound b c).failing)
    (fun _ => (deletes fun link _ _ hu => hu.remove link.key).failing) t

/-- What is tracked in a session and the store beside it, from nothing on: after any step, any of
whose calls may fail, and after any item was set or taken away behind the session. A call that fails
after its effect is one that fails, and then such a change. -/
inductive Session (b : Bool) (start : Store) : Snapshot → Store → Prop
  | start : Session b start .absent start
  | step {t : Snapshot} {s : Store} {step : Step} (schedule : Nat → Option Failure) :
      Session b start t s → step.OnTracked →
      Session b start (Step.trackedAfter t (step.run ((manager b).failing schedule) t (0, s)))
        (step.run ((manager b).failing schedule) t (0, s)).service.2
  | set {t : Snapshot} {s : Store} (i : Item) : Session b start t s → Session b start t (s.put i)
  | unset {t : Snapshot} {s : Store} (k : Key) :
      Session b start t s → Session b start t (s.remove k)

theorem consistent_step {step : Step} (on : step.OnTracked) (ht : t.Consistent) (hs : s.Sound) :
    (Step.trackedAfter t (step.run ((manager b).failing schedule) t (0, s))).Consistent := by
  have left := keeps_sound b schedule t step (0, s) hs
  unfold Step.trackedAfter
  split
  · rename_i u result
    rcases Step.run_eq_ok on result with rfl | rfl | read
    · exact Snapshot.consistent_absent
    · exact ht
    · exact consistent_of_endsInRead read left
  · exact ht

theorem Session.sound (h : Session b start t s) (hs : start.Sound) : s.Sound := by
  induction h with
  | start => exact hs
  | step schedule _ _ ih => exact keeps_sound b schedule _ _ (0, _) ih
  | set i _ ih => exact ih.put i
  | unset k _ ih => exact ih.remove k

/-- Whatever is tracked at any time of a session is consistent. -/
theorem session_consistent (hk : start.Keyed) (hs : '/' ∉ start.subscription.toList)
    (h : Session b start t s) : t.Consistent := by
  induction h with
  | start => exact Snapshot.consistent_absent
  | step schedule before on ih =>
      exact consistent_step on ih (before.sound ⟨hk, hs⟩)
  | set i _ ih => exact ih
  | unset k _ ih => exact ih

end Store

namespace Sample

open Store

theorem read_through {b : Bool} :
    ((manager b).failing fun _ => none).read (.str (link "ws01").print) (0, store) =
      ⟨.ok tracked, (1, store), [.get (link "ws01").address], []⟩ := by
  have answers : ((manager b).failing fun _ => none).client.get (link "ws01").address (0, store) =
      ((client.get (link "ws01").address store).1,
        (1, (client.get (link "ws01").address store).2)) := rfl
  have found := find?_store "ws01" (.inl rfl)
  rw [get_found found] at answers
  rw [Manager.read_of_answer parse_link answers, snapshotOf_remoteOf]
  rfl

/-- What is to move is read, an outage ends the attempt to move it, and it is set again behind the
session. -/
theorem session_outage :
    Session false store tracked ((store.remove (link "ws01").key).put (item "ws01")) := by
  have first : (Step.read (some (.str (link "ws01").print))).OnTracked := trivial
  have second : (Step.apply config none).OnTracked := rfl
  have begun : Session false store tracked store := by
    have course : (Step.read (some (.str (link "ws01").print))).run
        ((manager false).failing fun _ => none) .absent (0, store) =
          ⟨.ok tracked, (1, store), [.get (link "ws01").address], []⟩ := read_through
    have nothing : Session false store .absent store := .start
    have step := Session.step (fun _ => none) nothing first
    rwa [course] at step
  obtain ⟨failed, left⟩ := apply_outage
  have result : ((Step.apply config none).run ((manager false).failing outage) tracked
      (0, store)).result = .error (.failure interruption) := failed
  have step := Session.step outage begun second
  rw [Step.trackedAfter, result] at step
  have service : ((Step.apply config none).run ((manager false).failing outage) tracked
      (0, store)).service.2 = store.remove (link "ws01").key := left
  rw [service] at step
  exact step.set (item "ws01")

end Sample

namespace Store

/-- A session that an outage and a change behind it have come between. -/
theorem session_consistent_outage :
    Session false Sample.store Sample.tracked
        ((Sample.store.remove (Sample.link "ws01").key).put (Sample.item "ws01")) ∧
      Sample.tracked.Consistent :=
  ⟨Sample.session_outage, session_consistent (keyed_ofItems _ _) (by decide) Sample.session_outage⟩

end Store

end WorkspaceLink
