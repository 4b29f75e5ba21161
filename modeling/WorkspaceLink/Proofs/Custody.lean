import WorkspaceLink.Proofs.Retry

/-!
# What is not tracked stays as it is

Where objects that exist have to be imported first, an attempt to apply a configuration leaves all
items but the tracked one as they were, whichever of its calls fail. Creating is safe because of its
check, which a failure must not pass off as an absence; updating has no check, but what it writes
has the key that is tracked, since a plan that replaces nothing finds the same names.
-/

namespace WorkspaceLink

/-- The data of a snapshot name what its id leads to, up to case. -/
def Snapshot.Coherent : Snapshot → Prop
  | .absent => True
  | .present id data => ∃ link group workspace name, LinkId.parse id = .ok link ∧
      data.field? Field.group.key = some (.str group) ∧
      data.field? Field.workspace.key = some (.str workspace) ∧
      data.field? Field.name.key = some (.str name) ∧
      Store.Key.of group workspace name = link.key

namespace Store

variable {s u : Store} {c : Config} {t : Snapshot} {tracked : Option Key}
  {schedule : Nat → Option Failure}

/-! ## Stores in which nothing is lost -/

/-- What one store holds under other keys than the tracked one, another one holds too. -/
structure Spares (tracked : Option Key) (before after : Store) : Prop where
  subscription : after.subscription = before.subscription
  held : ∀ k i, tracked ≠ some k → before.items.find? k = some i → after.items.find? k = some i

theorem Spares.refl : Spares tracked s s := ⟨rfl, fun _ _ _ h => h⟩

theorem Spares.put (h : Spares tracked s u) {i : Item}
    (free : tracked = some i.key ∨ s.items.find? i.key = none) : Spares tracked s (u.put i) where
  subscription := h.subscription
  held := by
    intro k j hne hj
    have other : i.key ≠ k := by
      rintro rfl
      rcases free with htracked | hmissing
      · exact hne htracked
      · rw [hmissing] at hj
        cases hj
    rw [Store.put, Items.find?_insert, if_neg other]
    exact h.held k j hne hj

theorem Spares.remove (h : Spares tracked s u) {k : Key} (hk : tracked = some k) :
    Spares tracked s (u.remove k) where
  subscription := h.subscription
  held := by
    intro l j hne hj
    have other : k ≠ l := fun he => hne (he ▸ hk)
    rw [Store.remove, Items.find?_erase, if_neg other]
    exact h.held l j hne hj

/-- What is missing by now was tracked, or it was never there. -/
theorem Spares.free (h : Spares tracked s u) {k : Key} (hk : u.items.find? k = none) :
    tracked = some k ∨ s.items.find? k = none := by
  by_cases ht : tracked = some k
  · exact .inl ht
  · right
    cases hi : s.items.find? k with
    | none => rfl
    | some i =>
        rw [h.held k i ht hi] at hk
        cases hk

/-! ## Checks that may fail -/

/-- No failure of a schedule says that something is not there. -/
def Candid (schedule : Nat → Option Failure) : Prop :=
  ∀ n f, schedule n = some f → f.isNotFound = false

theorem missing_of_checkAbsent {b : Bool} {n : Nat} (hc : c.Addressable) (hs : Candid schedule)
    (h : (((manager b).failing schedule).checkAbsent c.address (n, s)).result = .ok ()) :
    s.items.find? c.item.key = none := by
  cases hi : s.items.find? c.item.key with
  | none => rfl
  | some i =>
      have passed := Manager.checkAbsent_ok h
      simp only [Manager.failing, Client.failing, manager] at passed
      cases hn : schedule n with
      | some f =>
          -- only a failure that claims an absence would have let the check through
          rw [Manager.attempt_of_failure hn] at passed
          rcases passed with ⟨r, hr, -⟩ | ⟨g, hg, hnot⟩
          · cases hr
          · obtain rfl := Except.error.inj hg
            rw [hs n f hn] at hnot
            cases hnot
      | none =>
          rw [Manager.attempt_of_answer hn, get_config_found hc hi] at passed
          rcases passed with ⟨r, hr, hid⟩ | ⟨g, hg, -⟩
          · obtain rfl := Except.ok.inj hr
            rw [Remote.idOf, Option.map_some, Option.getD_some, truthy_id] at hid
            cases hid
          · cases hg

/-! ## Attempts with a check -/

/-- Creating writes only after its check has found nothing. -/
theorem keeps_creating (hc : c.Addressable) (hs : Candid schedule) :
    (((manager true).failing schedule).createOrUpdate c .absent).Keeps
      fun p => Spares tracked s p.2 := by
  have asked : ((manager true).failing schedule).Asks fun p => Spares tracked s p.2 :=
    (asks true _).failing
  rintro ⟨n, u⟩ h
  rw [Manager.createOrUpdate_eq, Action.bind_ok (Action.log_apply _ _ _),
    if_pos (by simp [Manager.failing, manager, Snapshot.isPresent])]
  have checked := Manager.keeps_checkAbsent asked c.address (n, u) h
  refine Action.kept_bind (I := fun p : Nat × Store => Spares tracked s p.2) checked
    fun _ passed => ?_
  have free := h.free (missing_of_checkAbsent hc hs passed)
  exact Manager.keeps_settle asked (Manager.Writes.failing (writes hc fun v hv => hv.put free)) _
    checked

/-- A configuration that replaces nothing is written under the key that the data tell. -/
theorem key_of_coherent {id : Value} {data : Fields} (hc : c.Addressable)
    (ht : (Snapshot.present id data).Coherent)
    (h : (Plan.between data c).requiresReplacement = false) :
    (Snapshot.present id data).key? = some c.item.key := by
  obtain ⟨link, group, workspace, name, hp, hg, hw, hn, hkey⟩ := ht
  obtain ⟨group, workspace, name⟩ := Plan.names_of_not_requiresReplacement hc h hg hw hn
  rw [Snapshot.key?_of_parse hp, ← hkey]
  exact congrArg some (Key.of_eq_of_iff.mpr ⟨group, workspace, congrArg _ name⟩)

theorem keeps_spares (hc : c.Addressable) (ht : t.Coherent) (hs : Candid schedule) :
    (((manager true).failing schedule).apply c t).Keeps fun p => Spares t.key? s p.2 := by
  cases t with
  | absent => exact keeps_creating hc hs
  | present id data =>
      rcases Manager.apply_route ((manager true).failing schedule) c id data with
        ⟨-, route⟩ | ⟨-, route⟩ | ⟨-, kept, route⟩ <;> rw [route]
      · exact Action.keeps_pure _
      · refine Manager.keeps_replace (Manager.Deletes.failing ?_) (keeps_creating hc hs) _
        exact deletes fun link hp u hu => hu.remove (Snapshot.key?_of_parse hp data)
      · refine Manager.keeps_createOrUpdate (asks true _).failing (Manager.Writes.failing ?_) _
        exact writes hc fun u hu => hu.put (.inl (key_of_coherent hc ht kept))

/-- However applying a decoded configuration ends, whichever calls fail without saying that
something is not there, the store holds what it held under all keys but the tracked one. -/
theorem apply_spares [Host] {raw : Value} (hc : Config.decode raw = .ok c) (ht : t.Coherent)
    (hs : Candid schedule) (n : Nat) (s : Store) :
    Spares t.key? s (((manager true).failing schedule).apply c t (n, s)).service.2 :=
  keeps_spares (Config.addressable_of_decode hc) ht hs (n, s) .refl

/-- The same goes for any number of attempts from one snapshot. -/
theorem attempted_spares [Host] {raw : Value} (hc : Config.decode raw = .ok c) (ht : t.Coherent)
    {schedules : List (Nat → Option Failure)} (hs : ∀ schedule ∈ schedules, Candid schedule)
    (s : Store) : Spares t.key? s (attempted true c t s schedules) :=
  attempted_induction
    (fun schedule hm => keeps_spares (Config.addressable_of_decode hc) ht (hs schedule hm)) .refl

/-- The item that is in the way of one that moves survives an interrupted move. -/
theorem apply_spares_outage :
    Candid Sample.outage ∧ Sample.tracked.Coherent ∧
      Spares Sample.tracked.key? Sample.store
        (((manager true).failing Sample.outage).apply Sample.config Sample.tracked
          (0, Sample.store)).service.2 := by
  have candid : Candid Sample.outage := by
    intro n f h
    unfold Sample.outage at h
    split at h
    · obtain rfl := Option.some.inj h
      rfl
    · cases h
  have coherent : Sample.tracked.Coherent :=
    ⟨_, _, _, _, Sample.parse_link, Remote.field?_data .group, Remote.field?_data .workspace,
      Remote.field?_data .name, rfl⟩
  exact ⟨candid, coherent, apply_spares Sample.decode_raw coherent candid 0 Sample.store⟩

end Store

end WorkspaceLink
