import WorkspaceLink.Proofs.Apply

/-!
# Applying twice

What applying a configuration returns does not differ from it, so that applying it again does
nothing at all. The snapshot that the first time starts from need not be true of the store: its item
may have been changed or removed behind it.
-/

namespace WorkspaceLink

/-! ## Snapshots that differ in nothing -/

/-- Nothing is asked of the service where nothing differs, whatever the service is. -/
theorem Manager.apply_of_same {σ : Type} {m : Manager σ} {c : Config} {u : Snapshot}
    (hu : u.isPresent = true) (h : (Plan.between u.data c).hasChanges = false) (v : σ) :
    m.apply c u v = ⟨.ok u, v, [], []⟩ := by
  cases u with
  | absent => cases hu
  | present id data =>
      have same : (Plan.between data c).hasChanges = false := h
      rw [apply_of_unchanged same, Action.pure_apply]

/-- What a configuration is written as reads back without a difference. -/
theorem Config.not_hasChanges_snapshot {c : Config} (hc : c.Addressable) (ht : c.tags.Textual)
    (subscription : String) :
    (Plan.between (c.snapshot subscription).data c).hasChanges = false :=
  Plan.not_hasChanges_of_kept hc ⟨rfl, rfl, rfl, rfl⟩ ht.same

namespace Store

variable {s : Store} {c : Config} {b : Bool} {t u : Snapshot} {id : Value} {data : Fields}

/-! ## What applying returns -/

/-- Replacing that succeeds ends with the snapshot of the configuration, whether or not there was
something to delete. -/
theorem replace_eq_ok (hc : c.Addressable) (hs : '/' ∉ s.subscription.toList) {p : Plan}
    (h : ((manager b).replace c id p s).result = .ok u) : u = c.snapshot s.subscription := by
  cases hp : LinkId.parse id with
  | error e =>
      rw [Manager.replace, Action.bind_ok (Action.log_apply _ _ s),
        Action.bind_error (Manager.delete_of_parse_error hp s)] at h
      cases h
  | ok link =>
      obtain ⟨result, -, -⟩ := Manager.replace_of_deleted (c := c) (delete_of_parse (b := b) hp s) p
      rw [result] at h
      exact createOrUpdate_eq_ok (s := s.remove link.key) hc hs h

/-- Applying that succeeds returns the snapshot it was given, if nothing differs there, or else that
of the configuration. -/
theorem apply_eq_ok (hc : c.Addressable) (hs : '/' ∉ s.subscription.toList)
    (h : ((manager b).apply c t s).result = .ok u) :
    u = c.snapshot s.subscription ∨
      u = t ∧ u.isPresent = true ∧ (Plan.between u.data c).hasChanges = false := by
  cases t with
  | absent => exact .inl (createOrUpdate_eq_ok hc hs h)
  | present id data =>
      rcases Manager.apply_route (manager b) c id data with
        ⟨same, route⟩ | ⟨-, route⟩ | ⟨-, -, route⟩ <;> rw [route] at h
      · obtain rfl := Except.ok.inj h
        exact .inr ⟨rfl, rfl, same⟩
      · exact .inl (replace_eq_ok hc hs h)
      · exact .inl (createOrUpdate_eq_ok hc hs h)

/-! ## Applying again -/

/-- What applying a decoded configuration returns does not differ from it, and applying it to that
again makes no call, on this store or on any other service, and returns the same. -/
theorem apply_stable [Host] {raw : Value} (hs : '/' ∉ s.subscription.toList)
    (hc : Config.decode raw = .ok c) (ht : c.tags.Textual)
    (h : ((manager b).apply c t s).result = .ok u) :
    (Plan.between u.data c).hasChanges = false ∧
      ∀ {σ : Type} (m : Manager σ) (v : σ), m.apply c u v = ⟨.ok u, v, [], []⟩ := by
  have addressable := Config.addressable_of_decode hc
  obtain ⟨present, same⟩ : u.isPresent = true ∧ (Plan.between u.data c).hasChanges = false := by
    rcases apply_eq_ok addressable hs h with rfl | ⟨-, present, same⟩
    · exact ⟨rfl, Config.not_hasChanges_snapshot addressable ht _⟩
    · exact ⟨present, same⟩
  exact ⟨same, fun m v => Manager.apply_of_same present same v⟩

/-- A linked service that moves, after the whole store was emptied behind the snapshot. -/
theorem apply_stable_emptied :
    ((manager true).apply Sample.config Sample.tracked ⟨"sub", []⟩).result =
        .ok (Sample.config.snapshot "sub") ∧
      (Plan.between (Sample.config.snapshot "sub").data Sample.config).hasChanges = false ∧
      ∀ {σ : Type} (m : Manager σ) (v : σ),
        m.apply Sample.config (Sample.config.snapshot "sub") v =
          ⟨.ok (Sample.config.snapshot "sub"), v, [], []⟩ := by
  have subscription : '/' ∉ (Store.mk "sub" []).subscription.toList := by decide
  have present : Sample.tracked =
      .present (.str (Sample.link "ws01").print) Sample.tracked.data := rfl
  have returned : ((manager true).apply Sample.config Sample.tracked ⟨"sub", []⟩).result =
      .ok (Sample.config.snapshot "sub") := by
    obtain ⟨result, -, -⟩ := Manager.replace_of_deleted (c := Sample.config)
      (delete_of_parse (b := true) Sample.parse_link ⟨"sub", []⟩)
      (Plan.between Sample.tracked.data Sample.config)
    rw [present, Manager.apply_of_replaced sample_requiresReplacement, result,
      remove_of_missing rfl, createOrUpdate_of_missing
        (Config.addressable_of_decode Sample.decode_raw) subscription rfl]
  exact ⟨returned, apply_stable subscription Sample.decode_raw
    ⟨by decide, by simp [Sample.config]⟩ returned⟩

end Store

end WorkspaceLink
