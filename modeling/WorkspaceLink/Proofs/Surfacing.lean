import WorkspaceLink.Proofs.Apply
import WorkspaceLink.Proofs.Exchanges

/-!
# How failures show

An absence answers a question or a deletion: reading ends with an absent snapshot, deleting ends
well, and creating goes on from its check to its write. Any other failure of a call ends the
operation. It is told as the cause of a failed request, or of a failed verification if the call was
the first question after a write; a failure that is not of the service goes through as it is.
-/

namespace WorkspaceLink

/-! ## Places of calls -/

def Call.isWrite : Call → Bool
  | .write _ _ => true
  | _ => false

def Call.isDelete : Call → Bool
  | .delete _ => true
  | _ => false

namespace Exchange

variable {front : List Exchange} {e : Exchange}

def written (before : List Exchange) : Bool := before.any fun e => e.call.isWrite

/-- What follows these exchanges verifies a write. -/
def verifies (before : List Exchange) : Bool := before.getLast?.any fun e => e.call.isWrite

/-- An absence is an answer to a call that follows these exchanges. -/
def tolerates (before : List Exchange) : Call → Bool
  | .get _ => !verifies before
  | .delete _ => true
  | .write _ _ => false
  | .list _ _ => false

@[simp] theorem verifies_append_singleton : verifies (front ++ [e]) = e.call.isWrite := by
  simp [verifies]

end Exchange

open Exchange

/-! ## Failures that are told -/

/-- A fault tells of the failure that ended an operation. -/
structure Tells (verifying : Bool) (f : Failure) (e : Fault) : Prop where
  unchanged : f.isService = false → e = .failure f
  request : f.isService = true → verifying = false → ∃ request, e = .requestFailed request f
  verification : f.isService = true → verifying = true → ∃ a, e = .unverified a (some f)
  cause : f.isService = true → e.cause? = some f
  message : f.isService = true → ∃ head, e.message = head ++ f.text

theorem Manager.failure?_failed (request : Request) (f : Failure) :
    (Manager.failed request f).failure? = some f := by
  unfold Manager.failed
  split <;> rfl

theorem tells_failed (request : Request) (f : Failure) :
    Tells false f (Manager.failed request f) := by
  unfold Manager.failed
  split
  · rename_i hf
    exact ⟨by simp [hf], fun _ _ => ⟨request, rfl⟩, by simp, fun _ => rfl, fun _ => ⟨_, rfl⟩⟩
  · rename_i hf
    exact ⟨fun _ => rfl, by simp [hf], by simp, by simp [hf], by simp [hf]⟩

theorem tells_unverified (a : Address) (f : Failure) :
    Tells true f (Manager.unverified a f) := by
  unfold Manager.unverified
  split
  · rename_i hf
    exact ⟨by simp [hf], by simp, fun _ _ => ⟨a, rfl⟩, fun _ => rfl, fun _ => ⟨_, rfl⟩⟩
  · rename_i hf
    exact ⟨fun _ => rfl, by simp, by simp [hf], by simp [hf], by simp [hf]⟩

/-- No failure of the service goes through. -/
def Closed {α : Type} (x : Except Fault α) : Prop :=
  ∀ f, x = .error (.failure f) → f.isService = false

variable {α β : Type}

theorem Undisturbed.closed {x : Except Fault α} (h : Undisturbed x) : Closed x := by
  intro f hx
  cases h _ hx

theorem Tells.closed {verifying : Bool} {f : Failure} {e : Fault} (h : Tells verifying f e) :
    Closed (.error e : Except Fault α) := by
  intro g he
  obtain rfl := Except.error.inj he
  cases hf : f.isService with
  | false =>
      obtain rfl := Fault.failure.inj (h.unchanged hf)
      exact hf
  | true => cases h.cause hf

/-! ## Failures among exchanges -/

/-- What follows an absence: what came before the call, the call, what came after it and the end. -/
abbrev Passing (α : Type) := List Exchange → Call → List Exchange → Except Fault α → Prop

/-- The failure of a call in its place is passed over, if it is an absence that answers the call, or
else it ends the operation. -/
structure Handled (passes : Passing α) (before : List Exchange) (call : Call) (f : Failure)
    (after : List Exchange) (x : Except Fault α) : Prop where
  absorbed : f.isNotFound = true → tolerates before call = true → passes before call after x
  ended : f.isNotFound = false ∨ tolerates before call = false →
    after = [] ∧ ∃ e, x = .error e ∧ Tells (verifies before) f e

/-- All failures of some exchanges, which follow others, are handled. -/
structure Surfacing (passes : Passing α) (front es : List Exchange) (x : Except Fault α) :
    Prop where
  closed : Closed x
  handled : ∀ before call f after, es = before ++ ⟨call, some f⟩ :: after →
    Handled passes (front ++ before) call f after x

variable {passes : Passing α} {front es es' : List Exchange} {x : Except Fault α}

theorem surfacing_nil (h : Closed x) : Surfacing passes front [] x := by
  refine ⟨h, fun before call f after split => ?_⟩
  simp at split

theorem Surfacing.cons {e : Exchange} (h : Surfacing passes (front ++ [e]) es x)
    (head : ∀ f, e.failure = some f → Handled passes front e.call f es x) :
    Surfacing passes front (e :: es) x := by
  refine ⟨h.closed, fun before call f after split => ?_⟩
  rcases List.cons_eq_append_iff.mp split with ⟨rfl, he⟩ | ⟨rest, rfl, hes⟩
  · obtain ⟨rfl, rfl⟩ := List.cons.inj he
    rw [List.append_nil]
    exact head f rfl
  · simpa using h.handled rest call f after hes

section Single

variable {call : Call} {answers : Except Fault β → Prop} {absence : Option β}
  {told : Failure → Fault}

theorem Single.eq_singleton {y : Except Fault β} (h : Single call answers absence told es y) :
    ∃ o, es = [⟨call, o⟩] := by
  cases h <;> exact ⟨_, rfl⟩

/-- A step that ends an operation. -/
theorem Single.stops {e : Fault} (h : Single call answers absence told es (.error e))
    (answered : ∀ y, answers y → Undisturbed y) (tells : ∀ f, Tells (verifies front) f (told f))
    (tolerant : tolerates front call = absence.isSome) :
    Surfacing passes front es (.error e) := by
  cases h with
  | answered ha =>
      refine (surfacing_nil (undisturbed_error (answered _ ha e rfl)).closed).cons fun f hf => ?_
      cases hf
  | failed hn =>
      rename_i f
      refine (surfacing_nil (tells f).closed).cons fun g hg => ?_
      obtain rfl := Option.some.inj hg
      refine ⟨fun habsent htolerates => ?_, fun _ => ⟨rfl, _, rfl, tells f⟩⟩
      rcases hn with hn | hn
      · rw [habsent] at hn
        cases hn
      · rw [tolerant, hn] at htolerates
        cases htolerates

/-- A step that an operation goes on from. -/
theorem Single.goesOn {b : β} (h : Single call answers absence told es (.ok b))
    (tolerant : tolerates front call = absence.isSome) (rest : Surfacing passes (front ++ es) es' x)
    (passed : absence.isSome = true → passes front call es' x) :
    Surfacing passes front (es ++ es') x := by
  obtain ⟨o, rfl⟩ := h.eq_singleton
  refine rest.cons fun f hf => ?_
  cases hf
  cases h with
  | absent hn ha =>
      refine ⟨fun _ _ => passed (by rw [ha]; rfl), fun hended => ?_⟩
      rw [hn, tolerant, ha] at hended
      rcases hended with hended | hended <;> cases hended

theorem Single.surfacing {call : Call} {answers : Except Fault α → Prop} {absence : Option α}
    (h : Single call answers absence told es x) (answered : ∀ y, answers y → Undisturbed y)
    (tells : ∀ f, Tells (verifies front) f (told f))
    (tolerant : tolerates front call = absence.isSome)
    (passed : ∀ a, absence = some a → passes front call [] (.ok a)) :
    Surfacing passes front es x := by
  cases x with
  | error e => exact h.stops answered tells tolerant
  | ok a =>
      cases h with
      | answered _ =>
          refine (surfacing_nil (undisturbed_ok a).closed).cons fun f hf => ?_
          cases hf
      | absent hn ha =>
          refine (surfacing_nil (undisturbed_ok a).closed).cons fun f hf => ?_
          refine ⟨fun _ _ => passed a ha, fun hended => ?_⟩
          obtain rfl := Option.some.inj hf
          rw [hn, tolerant, ha] at hended
          rcases hended with hended | hended <;> cases hended

end Single

/-! ## Failures in operations -/

theorem Led.surfacing {id : Value} {step : LinkId → List Exchange → Except Fault α → Prop}
    (h : Led id step es x) (steps : ∀ link es x, step link es x → Surfacing passes front es x) :
    Surfacing passes front es x := by
  cases h with
  | astray hp => exact surfacing_nil (undisturbed_error (LinkId.undisturbed_parse id _ hp)).closed
  | led _ h => exact steps _ _ _ h

/-- What follows an absence in an operation of one call: the operation is over. -/
def EndsWith (a : α) : Passing α := fun _ _ after x => after = [] ∧ x = .ok a

/-- What follows an absence while creating or applying: past a deletion another call, past a check
the write, and past a reading the end. -/
inductive GoesOn (c : Config) (before : List Exchange) :
    Call → List Exchange → Except Fault Snapshot → Prop
  | deleted {a : Address} {next : Exchange} {rest : List Exchange} {x : Except Fault Snapshot} :
      next.call.isDelete = false → GoesOn c before (.delete a) (next :: rest) x
  | checked {o : Option Failure} {rest : List Exchange} {x : Except Fault Snapshot} :
      written before = false →
      GoesOn c before (.get c.address) (⟨.write c.address (.ofConfig c), o⟩ :: rest) x
  | gone {a : Address} : written before = true → GoesOn c before (.get a) [] (.ok .absent)

namespace Manager

variable {σ : Type} {m : Manager σ} {c : Config} {t : Snapshot} {front es es' : List Exchange}
  {x : Except Fault Snapshot}

theorem Reading.surfacing {passes : Passing Snapshot} {link : LinkId} (h : Reading link es x)
    (hv : verifies front = false) (passed : passes front (.get link.address) [] (.ok .absent)) :
    Surfacing passes front es x := by
  refine Single.surfacing h (fun _ hy => hy) (fun f => hv ▸ tells_failed _ f) (by simp [tolerates, hv])
    fun a ha => ?_
  obtain rfl := Option.some.inj ha
  exact passed

theorem Deleting.surfacing {y : Except Fault Unit} {passes : Passing Unit} {link : LinkId}
    (h : Deleting link es y) (hv : verifies front = false)
    (passed : passes front (.delete link.address) [] (.ok ())) : Surfacing passes front es y := by
  refine Single.surfacing h ?_ (fun f => hv ▸ tells_failed _ f) rfl fun _ _ => passed
  rintro y rfl
  exact undisturbed_ok ()

theorem Listing.surfacing {y : Except Fault (List Snapshot)} {passes : Passing (List Snapshot)}
    {group workspace : Value} (h : Listing group workspace es y) (hv : verifies front = false) :
    Surfacing passes front es y := by
  refine Single.surfacing h (fun _ hy => hy) (fun f => hv ▸ tells_failed _ f) rfl fun a ha => ?_
  cases ha

theorem Settling.surfacing (h : Settling c es x) (hv : verifies front = false) :
    Surfacing (GoesOn c) front es x := by
  have told (f : Failure) : Tells (verifies front) f (failed (.creating c.address) f) :=
    hv ▸ tells_failed _ f
  cases h with
  | unwritten hw =>
      refine hw.stops ?_ told rfl
      rintro y rfl
      exact undisturbed_ok ()
  | unverified hw hq =>
      obtain ⟨o, rfl⟩ := hw.eq_singleton
      refine hw.goesOn rfl ?_ (by simp)
      refine hq.stops (fun _ hy => hy) (fun f => ?_) (by simp [tolerates, Call.isWrite])
      simpa [Call.isWrite] using tells_unverified c.address f
  | readBack hw hq hr =>
      obtain ⟨o, rfl⟩ := hw.eq_singleton
      obtain ⟨o', rfl⟩ := hq.eq_singleton
      refine hw.goesOn rfl (hq.goesOn (by simp [tolerates, Call.isWrite]) ?_ (by simp)) (by simp)
      refine hr.surfacing fun link es x h => ?_
      exact Reading.surfacing h verifies_append_singleton (.gone (by simp [written, Call.isWrite]))

theorem Settling.eq_cons (h : Settling c es x) :
    ∃ o rest, es = ⟨.write c.address (.ofConfig c), o⟩ :: rest := by
  cases h with
  | unwritten hw | unverified hw _ | readBack hw _ _ =>
      obtain ⟨o, rfl⟩ := hw.eq_singleton
      exact ⟨o, _, rfl⟩

theorem Creating.surfacing (h : Creating m c t es x) (hv : verifies front = false)
    (hw : written front = false) : Surfacing (GoesOn c) front es x := by
  cases h with
  | unchecked h => exact h.surfacing hv
  | refused _ _ h =>
      exact h.stops (fun _ hy => hy) (fun f => hv ▸ tells_failed _ f) (by simp [tolerates, hv])
  | checked _ _ hc hs =>
      refine hc.goesOn (by simp [tolerates, hv]) (hs.surfacing ?_) fun _ => ?_
      · obtain ⟨o, rfl⟩ := hc.eq_singleton
        simp [Call.isWrite]
      · obtain ⟨o, rest, rfl⟩ := hs.eq_cons
        exact .checked hw

theorem Creating.eq_cons (h : Creating m c t es x) :
    ∃ next rest, es = next :: rest ∧ next.call.isDelete = false := by
  cases h with
  | unchecked h =>
      obtain ⟨o, rest, rfl⟩ := h.eq_cons
      exact ⟨_, _, rfl, rfl⟩
  | refused _ _ h | checked _ _ h _ =>
      obtain ⟨o, rfl⟩ := h.eq_singleton
      exact ⟨_, _, rfl, rfl⟩

theorem Applying.surfacing (h : Applying m c t es x) : Surfacing (GoesOn c) [] es x := by
  cases h with
  | unchanged => exact surfacing_nil (undisturbed_ok _).closed
  | absent h | kept _ h => exact h.surfacing rfl rfl
  | undeleted _ h =>
      cases h with
      | astray hp =>
          exact surfacing_nil (undisturbed_error (LinkId.undisturbed_parse _ _ hp)).closed
      | led _ h =>
          refine h.stops ?_ (fun f => tells_failed _ f) rfl
          rintro y rfl
          exact undisturbed_ok ()
  | replaced _ hd hc =>
      cases hd with
      | led _ hd =>
          refine hd.goesOn rfl (hc.surfacing ?_ ?_) fun _ => ?_
          · obtain ⟨o, rfl⟩ := hd.eq_singleton
            rfl
          · obtain ⟨o, rfl⟩ := hd.eq_singleton
            rfl
          · obtain ⟨next, rest, rfl, hn⟩ := hc.eq_cons
            exact .deleted hn

end Manager

/-- All that an action does to a service it does by its calls, and their failures are handled. -/
structure Action.Surfaces {σ : Type} (client : Client σ) (passes : Passing α) (x : Action σ α)
    (s : σ) : Prop where
  replayed : (x s).service = client.after (x s).calls s
  surfacing : Surfacing passes [] (client.exchanges (x s).calls s) (x s).result

theorem Action.Follows.surfaces {σ : Type} {client : Client σ} {x : Action σ α}
    {P : List Exchange → Except Fault α → Prop} (h : x.Follows client P)
    (surfacing : ∀ es y, P es y → Surfacing passes [] es y) (s : σ) :
    x.Surfaces client passes s :=
  ⟨(h s).1, surfacing _ _ (h s).2⟩

/-- An operation of one call that ends with a fault does not tell of an absence. -/
theorem Led.present_of_error {id : Value} {call : LinkId → Call} {answers : Except Fault α → Prop}
    {absence : α} {request : LinkId → Request} {e : Fault} {f : Failure}
    (h : Led id (fun link => Single (call link) answers (some absence)
      (Manager.failed (request link))) es (.error e))
    (answered : ∀ y, answers y → Undisturbed y) (hf : e.failure? = some f) :
    f.isNotFound = false := by
  cases h with
  | astray hp =>
      rw [LinkId.undisturbed_parse _ _ hp] at hf
      cases hf
  | led _ h =>
      cases h with
      | answered ha =>
          rw [answered _ ha e rfl] at hf
          cases hf
      | failed hn =>
          obtain rfl := Option.some.inj ((Manager.failure?_failed _ _).symm.trans hf)
          exact hn.resolve_right (by simp)

namespace Manager

variable {σ : Type}

/-- Whatever a service answers, failures show in the end of every operation as they should, and
reading, importing and deleting do not end with an absence. -/
theorem failures_surface (m : Manager σ) (c : Config) (t : Snapshot) (id group workspace : Value)
    (s : σ) :
    (m.createOrUpdate c t).Surfaces m.client (GoesOn c) s ∧
      (m.apply c t).Surfaces m.client (GoesOn c) s ∧
      (m.read id).Surfaces m.client (EndsWith .absent) s ∧
      (m.importExisting id).Surfaces m.client (EndsWith .absent) s ∧
      (m.delete id).Surfaces m.client (EndsWith ()) s ∧
      (m.list group workspace).Surfaces m.client (fun _ _ _ _ => False) s ∧
      ∀ e f, (m.read id s).result = .error e ∨ (m.importExisting id s).result = .error e ∨
        (m.delete id s).result = .error e → e.failure? = some f → f.isNotFound = false := by
  have reading : (m.read id).Surfaces m.client (EndsWith .absent) s :=
    (follows_read id).surfaces (fun es y h => h.surfacing fun link es y h =>
      Reading.surfacing h rfl ⟨rfl, rfl⟩) s
  have deleting : (m.delete id).Surfaces m.client (EndsWith ()) s :=
    (follows_delete id).surfaces (fun es y h => h.surfacing fun link es y h =>
      Deleting.surfacing h rfl ⟨rfl, rfl⟩) s
  refine ⟨follows_createOrUpdate.surfaces (fun es y h => h.surfacing rfl rfl) s,
    follows_apply.surfaces (fun es y h => h.surfacing) s, reading, reading, deleting,
    follows_list.surfaces (fun es y h => Listing.surfacing h rfl) s, ?_⟩
  intro e f he hf
  have read (he : (m.read id s).result = .error e) : f.isNotFound = false := by
    have followed := (follows_read (m := m) id s).2
    rw [he] at followed
    exact Led.present_of_error followed (fun _ hy => hy) hf
  rcases he with he | he | he
  · exact read he
  · exact read he
  · have followed := (follows_delete (m := m) id s).2
    rw [he] at followed
    refine Led.present_of_error followed ?_ hf
    rintro y rfl
    exact undisturbed_ok ()

end Manager

namespace Sample

open Store

/-- Every call is answered with an absence. -/
def missing : Manager Unit where
  client := {
    get := fun _ s => (.error absence, s)
    write := fun _ _ s => (.error absence, s)
    delete := fun _ s => (.error absence, s)
    list := fun _ _ s => (.error absence, s) }
  requireImport := true

theorem delete_missing : missing.delete (.str (link "ws01").print) () =
    ⟨.ok (), (), [.delete (link "ws01").address], []⟩ := by
  rw [Manager.delete, parse_link]
  rfl

theorem createOrUpdate_missing : missing.createOrUpdate config .absent () =
    ⟨.error (.requestFailed (.creating config.address) absence), (),
      [.get config.address, .write config.address (.ofConfig config)], [preparing]⟩ := rfl

/-- Applying to a linked service that is to move, where nothing is ever found. -/
theorem apply_missing :
    (missing.apply config tracked ()).result =
        .error (.requestFailed (.creating config.address) absence) ∧
      missing.client.exchanges (missing.apply config tracked ()).calls () =
        [⟨.delete (link "ws01").address, some absence⟩, ⟨.get config.address, some absence⟩,
          ⟨.write config.address (.ofConfig config), some absence⟩] := by
  have present : tracked = .present (.str (link "ws01").print) tracked.data := rfl
  obtain ⟨result, -, calls⟩ := Manager.replace_of_deleted (c := config) delete_missing
    (Plan.between tracked.data config)
  rw [createOrUpdate_missing] at result calls
  rw [← Manager.apply_of_replaced Store.sample_requiresReplacement, ← present] at result calls
  refine ⟨result, ?_⟩
  rw [calls]
  rfl

end Sample

namespace Manager

open Sample

/-- A linked service that is to move, where nothing is ever found: the absence ends the write. -/
theorem failures_surface_missing :
    (missing.apply config tracked ()).result =
        .error (.requestFailed (.creating config.address) Store.absence) ∧
      missing.client.exchanges (missing.apply config tracked ()).calls () =
        [⟨.delete (link "ws01").address, some Store.absence⟩,
          ⟨.get config.address, some Store.absence⟩,
          ⟨.write config.address (.ofConfig config), some Store.absence⟩] ∧
      (missing.apply config tracked).Surfaces missing.client (GoesOn config) () := by
  obtain ⟨result, exchanges⟩ := apply_missing
  have surfaces := failures_surface missing config tracked .null .null .null ()
  exact ⟨result, exchanges, surfaces.2.1⟩

end Manager

end WorkspaceLink
