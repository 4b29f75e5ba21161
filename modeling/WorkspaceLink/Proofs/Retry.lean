import WorkspaceLink.Proofs.Apply
import WorkspaceLink.Proofs.Effects
import WorkspaceLink.Proofs.Order

/-!
# Applying again after failures

An attempt to apply a configuration can stop before or after the tracked item is deleted, before or
after the wanted one is written, and while that is read back. Whatever it leaves, applying again
from the same snapshot ends where one attempt without failures ends.
-/

namespace WorkspaceLink

namespace Snapshot

/-- The id of a snapshot can be read, if it has one. -/
def Legible (t : Snapshot) : Prop :=
  ∀ id data, t = .present id data → ∃ link, LinkId.parse id = .ok link

theorem key?_of_parse {id : Value} {link : LinkId} (h : LinkId.parse id = .ok link)
    (data : Fields) : (present id data).key? = some link.key := by
  rw [key?, h]
  rfl

end Snapshot

namespace Store

variable {s : Store} {c : Config} {t : Snapshot} {id : Value} {data : Fields} {link : LinkId}

theorem legible_of_returned (hk : s.Keyed) (hs : '/' ∉ s.subscription.toList) (h : s.Returned t) :
    t.Legible := by
  rintro id data rfl
  obtain ⟨link, i, tags, tracked⟩ := tracks_of_returned h
  exact ⟨_, tracked.parse_id hk hs⟩

/-! ## What applying makes of a store -/

/-- The store that applying a configuration makes of a store, whatever has happened to that one
since the snapshot was taken. -/
def applied (c : Config) (t : Snapshot) (s : Store) : Store :=
  match t with
  | .absent => s.put c.item
  | .present id data =>
    if !(Plan.between data c).hasChanges then s
    else if (Plan.between data c).requiresReplacement then
      ((Snapshot.present id data).key?.elim s s.remove).put c.item
    else s.put c.item

theorem applied_of_unchanged (h : (Plan.between data c).hasChanges = false) :
    applied c (.present id data) s = s := by
  simp [applied, h]

theorem applied_of_replaced (h : (Plan.between data c).requiresReplacement = true) :
    applied c (.present id data) s =
      ((Snapshot.present id data).key?.elim s s.remove).put c.item := by
  simp [applied, Plan.hasChanges_of_requiresReplacement h, h]

theorem applied_of_kept (h : (Plan.between data c).hasChanges = true)
    (h' : (Plan.between data c).requiresReplacement = false) :
    applied c (.present id data) s = s.put c.item := by
  simp [applied, h, h']

/-- Replacing what an id leads to removes that and writes the configuration. -/
theorem replace_unchecked (hc : c.Addressable) (hs : '/' ∉ s.subscription.toList)
    (hp : LinkId.parse id = .ok link) (p : Plan) :
    ((manager false).replace c id p s).result = .ok (c.snapshot s.subscription) ∧
      ((manager false).replace c id p s).service = (s.remove link.key).put c.item := by
  obtain ⟨result, service, -⟩ :=
    Manager.replace_of_deleted (c := c) (delete_of_parse (b := false) hp s) p
  rw [createOrUpdate_unchecked (s := s.remove link.key) hc hs (Bool.false_and _)] at result service
  exact ⟨result, service⟩

/-- Without failures, applying makes of a store what it should, and its result is the same for all
stores of a subscription. -/
theorem apply_course {subscription : String} (hc : c.Addressable)
    (hs : '/' ∉ subscription.toList) (ht : t.Legible) :
    ∃ u, ∀ s : Store, s.subscription = subscription →
      ((manager false).apply c t s).result = .ok u ∧
        ((manager false).apply c t s).service = applied c t s := by
  cases t with
  | absent =>
      refine ⟨c.snapshot subscription, ?_⟩
      rintro s rfl
      rw [Manager.apply, createOrUpdate_unchecked hc hs (Bool.false_and _)]
      exact ⟨rfl, rfl⟩
  | present id data =>
      rcases Manager.apply_route (manager false) c id data with
        ⟨same, route⟩ | ⟨replaced, route⟩ | ⟨changed, kept, route⟩ <;> rw [route]
      · refine ⟨.present id data, fun s _ => ?_⟩
        rw [applied_of_unchanged same]
        exact ⟨rfl, rfl⟩
      · refine ⟨c.snapshot subscription, ?_⟩
        rintro s rfl
        obtain ⟨link, hp⟩ := ht id data rfl
        rw [applied_of_replaced replaced, Snapshot.key?_of_parse hp]
        exact replace_unchecked hc hs hp _
      · refine ⟨c.snapshot subscription, ?_⟩
        rintro s rfl
        rw [applied_of_kept changed kept, createOrUpdate_unchecked hc hs (Bool.false_and _)]
        exact ⟨rfl, rfl⟩

/-! ## What a failed attempt leaves -/

/-- A store on the way from another one: applying makes the same of both. -/
structure Partway (c : Config) (t : Snapshot) (before after : Store) : Prop where
  inOrder : after.InOrder
  subscription : after.subscription = before.subscription
  applied : applied c t after = applied c t before

theorem Partway.refl (h : s.InOrder) : Partway c t s s := ⟨h, rfl, rfl⟩

theorem Partway.put {u : Store} (h : Partway c t s u)
    (ends : Store.applied c t (u.put c.item) = Store.applied c t u) :
    Partway c t s (u.put c.item) :=
  ⟨h.inOrder.put _, h.subscription, ends.trans h.applied⟩

theorem Partway.remove {u : Store} {k : Key} (h : Partway c t s u)
    (ends : Store.applied c t (u.remove k) = Store.applied c t u) :
    Partway c t s (u.remove k) :=
  ⟨h.inOrder.remove _, h.subscription, ends.trans h.applied⟩

/-! ## Calls of a store -/

theorem asks (b : Bool) (I : Store → Prop) : (manager b).Asks I := by
  intro a s h
  rwa [manager, client, service_get]

theorem writes {b : Bool} {I : Store → Prop} (hc : c.Addressable)
    (h : ∀ s, I s → I (s.put c.item)) : (manager b).Writes I c := by
  intro s hi
  rw [manager, write_config hc]
  exact h s hi

theorem service_delete (link : LinkId) (s : Store) :
    (client.delete link.address s).2 = s.remove link.key := by
  cases hi : s.items.find? link.key with
  | some i => simp [client, delete, hi]
  | none => simp [client, delete, hi, remove_of_missing hi]

theorem deletes {b : Bool} {I : Store → Prop}
    (h : ∀ link, LinkId.parse id = .ok link → ∀ s, I s → I (s.remove link.key)) :
    (manager b).Deletes I id := by
  intro link hp s hi
  rw [manager, service_delete]
  exact h link hp s hi

/-! ## Attempts -/

/-- Every attempt leaves a store partway, whichever of its calls fail. -/
theorem keeps_partway (hc : c.Addressable) (b : Bool) (schedule : Nat → Option Failure) :
    (((manager b).failing schedule).apply c t).Keeps fun p => Partway c t s p.2 := by
  have asked : ((manager b).failing schedule).Asks fun p => Partway c t s p.2 := (asks b _).failing
  cases t with
  | absent =>
      refine Manager.keeps_createOrUpdate asked (Manager.Writes.failing ?_) _
      exact writes hc fun u hu => hu.put (hu.inOrder.put_put _)
  | present id data =>
      rcases Manager.apply_route ((manager b).failing schedule) c id data with
        ⟨-, route⟩ | ⟨replaced, route⟩ | ⟨changed, kept, route⟩ <;> rw [route]
      · exact Action.keeps_pure _
      · refine Manager.keeps_replace (Manager.Deletes.failing ?_)
          (Manager.keeps_createOrUpdate asked (Manager.Writes.failing ?_) _) _
        · refine deletes fun link hp u hu => hu.remove ?_
          rw [applied_of_replaced replaced, applied_of_replaced replaced, Snapshot.key?_of_parse hp]
          exact congrArg (Store.put · _) (remove_remove _ _)
        · -- the next attempt may delete what was written here, but it writes it again
          refine writes hc fun u hu => hu.put ?_
          rw [applied_of_replaced replaced, applied_of_replaced replaced]
          cases (Snapshot.present id data).key? with
          | none => exact hu.inOrder.put_put _
          | some k => exact hu.inOrder.put_remove_put _ k
      · refine Manager.keeps_createOrUpdate asked (Manager.Writes.failing ?_) _
        refine writes hc fun u hu => hu.put ?_
        rw [applied_of_kept changed kept, applied_of_kept changed kept, hu.inOrder.put_put]

/-! ## Applying again -/

/-- Applying to a store that an attempt has left ends as applying to the one it started from. -/
theorem Partway.converges {u : Store} (h : Partway c t s u) (hc : c.Addressable)
    (hs : '/' ∉ s.subscription.toList) (ht : t.Legible) :
    ∃ v, ((manager false).apply c t u).result = .ok v ∧
      ((manager false).apply c t s).result = .ok v ∧
      ((manager false).apply c t u).service = ((manager false).apply c t s).service := by
  obtain ⟨v, course⟩ := apply_course hc hs ht
  obtain ⟨result, once⟩ := course s rfl
  obtain ⟨result', again⟩ := course u h.subscription
  exact ⟨v, result', result, by rw [again, once, h.applied]⟩

/-- The store that attempts to apply a configuration leave, one after another, each with a schedule
of the calls that fail. -/
def attempted (b : Bool) (c : Config) (t : Snapshot) (s : Store) :
    List (Nat → Option Failure) → Store
  | [] => s
  | schedule :: rest =>
    attempted b c t (((manager b).failing schedule).apply c t (0, s)).service.2 rest

/-- What every attempt keeps, any number of attempts keep. -/
theorem attempted_induction {I : Store → Prop} {b : Bool}
    {schedules : List (Nat → Option Failure)}
    (keeps : ∀ schedule ∈ schedules,
      (((manager b).failing schedule).apply c t).Keeps fun p => I p.2)
    {u : Store} (h : I u) : I (attempted b c t u schedules) := by
  induction schedules generalizing u with
  | nil => exact h
  | cons schedule rest ih =>
      refine ih (fun _ hr => keeps _ (List.mem_cons_of_mem _ hr)) ?_
      exact keeps schedule List.mem_cons_self (0, u) h

theorem partway_attempted (hc : c.Addressable) (b : Bool) (h : s.InOrder)
    (schedules : List (Nat → Option Failure)) : Partway c t s (attempted b c t s schedules) :=
  attempted_induction (fun schedule _ => keeps_partway hc b schedule) (.refl h)

/-- After any number of attempts, whichever of their calls failed, applying once more from the same
snapshot ends as if there had been none. -/
theorem apply_after_attempts [Host] {raw : Value} (h : s.InOrder) (hs : '/' ∉ s.subscription.toList)
    (hc : Config.decode raw = .ok c) (hr : s.Returned t) (b : Bool)
    (schedules : List (Nat → Option Failure)) :
    ∃ v, ((manager false).apply c t (attempted b c t s schedules)).result = .ok v ∧
      ((manager false).apply c t s).result = .ok v ∧
      ((manager false).apply c t (attempted b c t s schedules)).service =
        ((manager false).apply c t s).service :=
  (partway_attempted (Config.addressable_of_decode hc) b h schedules).converges
    (Config.addressable_of_decode hc) hs (legible_of_returned h.keyed hs hr)

/-- However an attempt went whose calls failed as a schedule says, applying again from the same
snapshot succeeds, and leaves exactly the store that one attempt without failures leaves. -/
theorem apply_after_failures [Host] {raw : Value} (h : s.InOrder) (hs : '/' ∉ s.subscription.toList)
    (hc : Config.decode raw = .ok c) (hr : s.Returned t) (schedule : Nat → Option Failure)
    (n : Nat) :
    let left := (((manager false).failing schedule).apply c t (n, s)).service.2
    ∃ v, ((manager false).apply c t left).result = .ok v ∧
      ((manager false).apply c t s).result = .ok v ∧
      ((manager false).apply c t left).service = ((manager false).apply c t s).service := by
  intro left
  have addressable := Config.addressable_of_decode hc
  have partway : Partway c t s left := keeps_partway addressable false schedule (n, s) (.refl h)
  exact partway.converges addressable hs (legible_of_returned h.keyed hs hr)

end Store

namespace Sample

open Store

def interruption : Failure := ⟨.interrupted, none, .null⟩

/-- The second call is interrupted. -/
def outage (n : Nat) : Option Failure := if n = 1 then some interruption else none

theorem delete_outage (s : Store) :
    ((manager false).failing outage).delete (.str (link "ws01").print) (0, s) =
      ⟨.ok (), (1, s.remove (link "ws01").key), [.delete (link "ws01").address], []⟩ := by
  have answer : ((manager false).failing outage).client.delete (link "ws01").address (0, s) =
      ((client.delete (link "ws01").address s).1, (1, s.remove (link "ws01").key)) := by
    rw [← service_delete]
    rfl
  have course : ((manager false).failing outage).client.deleting (link "ws01").address (0, s) =
      ⟨.ok (client.delete (link "ws01").address s).1, (1, s.remove (link "ws01").key),
        [.delete (link "ws01").address], []⟩ := by
    rw [Client.deleting, Action.call_apply, answer]
  rw [Manager.delete, parse_link, Action.ofExcept_ok_bind, Action.bind_ok course]
  cases hi : s.items.find? (link "ws01").key with
  | some i => simp [client, Store.delete, hi]
  | none => simp [client, Store.delete, hi, absence, Failure.isNotFound]

theorem createOrUpdate_outage (s : Store) :
    ((manager false).failing outage).createOrUpdate config .absent (1, s) =
      ⟨.error (.failure interruption), (2, s), [.write config.address (.ofConfig config)],
        [preparing]⟩ := by
  have written : ((manager false).failing outage).write config (1, s) =
      ⟨.error (.failure interruption), (2, s), [.write config.address (.ofConfig config)], []⟩ := rfl
  rw [Manager.createOrUpdate_eq, Action.bind_ok (Action.log_apply _ _ _), if_neg (by decide),
    Manager.settle, Action.bind_error written]
  rfl

/-- What is to move has been deleted when the outage ends the attempt. -/
theorem apply_outage :
    (((manager false).failing outage).apply config tracked (0, store)).result =
        .error (.failure interruption) ∧
      (((manager false).failing outage).apply config tracked (0, store)).service.2 =
        store.remove (link "ws01").key := by
  have present : tracked = .present (.str (link "ws01").print) tracked.data := rfl
  obtain ⟨result, service, -⟩ := Manager.replace_of_deleted (c := config) (delete_outage store)
    (Plan.between tracked.data config)
  rw [createOrUpdate_outage] at result service
  rw [present, Manager.apply_of_replaced sample_requiresReplacement]
  exact ⟨result, by rw [service]⟩

end Sample

namespace Store

/-- An attempt that loses what is to move, and the next one. -/
theorem apply_after_failures_outage :
    let left := (((manager false).failing Sample.outage).apply Sample.config Sample.tracked
      (0, Sample.store)).service.2
    (((manager false).failing Sample.outage).apply Sample.config Sample.tracked
      (0, Sample.store)).result = .error (.failure Sample.interruption) ∧
    left = Sample.store.remove (Sample.link "ws01").key ∧
    ∃ v, ((manager false).apply Sample.config Sample.tracked left).result = .ok v ∧
      ((manager false).apply Sample.config Sample.tracked Sample.store).result = .ok v ∧
      ((manager false).apply Sample.config Sample.tracked left).service =
        ((manager false).apply Sample.config Sample.tracked Sample.store).service := by
  obtain ⟨failed, lost⟩ := Sample.apply_outage
  have inOrder : Sample.store.InOrder := inOrder_ofItems _ _
  have returned : Sample.store.Returned Sample.tracked := .read (b := false) Sample.read_tracked
  exact ⟨failed, lost,
    apply_after_failures inOrder (by decide) Sample.decode_raw returned Sample.outage 0⟩

end Store

end WorkspaceLink
