import WorkspaceLink.Host.Customary
import WorkspaceLink.Proofs.Operations

/-!
# Snapshots that a store gives out

A snapshot that was just returned names an item of the store, shows what that item holds, and leads
back to it.
-/

namespace WorkspaceLink

/-! ## Steps of an action -/

namespace Action

variable {σ α β : Type} {x : Action σ α} {f : α → Action σ β} {s : σ} {b : β}

theorem bind_result_ok (h : ((x >>= f) s).result = .ok b) :
    ∃ a, (f a (x s).service).result = .ok b ∧
      ((x >>= f) s).service = (f a (x s).service).service := by
  rw [bind_apply, resume] at h ⊢
  split at h
  · cases h
  · rename_i a _
    exact ⟨a, h, rfl⟩

end Action

/-- The result of creating is what reading ends with in the service that creating leaves. -/
theorem Manager.read_of_createOrUpdate {σ : Type} {m : Manager σ} {c : Config} {u t : Snapshot}
    {s : σ} (h : (m.createOrUpdate c u s).result = .ok t) :
    ∃ id s', (m.read id s').result = .ok t ∧
      (m.createOrUpdate c u s).service = (m.read id s').service := by
  have settled {s : σ} (h : (m.settle c s).result = .ok t) :
      ∃ id s', (m.read id s').result = .ok t ∧ (m.settle c s).service = (m.read id s').service := by
    obtain ⟨_, hverify, service⟩ := Action.bind_result_ok h
    obtain ⟨id, hread, service'⟩ := Action.bind_result_ok hverify
    exact ⟨id, _, hread, service.trans service'⟩
  rw [createOrUpdate_eq] at h ⊢
  obtain ⟨_, h, service⟩ := Action.bind_result_ok h
  rw [service]
  split at h
  · rename_i hcheck
    rw [if_pos hcheck]
    obtain ⟨_, h, service⟩ := Action.bind_result_ok h
    rw [service]
    exact settled h
  · rename_i hcheck
    rw [if_neg hcheck]
    exact settled h

/-! ## Tracked items -/

/-- The key under which a store holds what a snapshot names. -/
def Snapshot.key? : Snapshot → Option Store.Key
  | .absent => none
  | .present id _ => (LinkId.parse id).toOption.map LinkId.key

namespace Store

/-- The snapshots that a store gives out: nothing, and what reading it, or a creation that has left
it, ended with. -/
inductive Returned (s : Store) : Snapshot → Prop
  | absent : Returned s .absent
  | read {b : Bool} {id : Value} {t : Snapshot} :
      ((manager b).read id s).result = .ok t → Returned s t
  | written {b : Bool} {c : Config} {u t : Snapshot} {before : Store} :
      ((manager b).createOrUpdate c u before).result = .ok t →
      ((manager b).createOrUpdate c u before).service = s → Returned s t

/-- An id and data are those of an item of the store, read where an id leads. -/
structure Tracks (s : Store) (id : Value) (data : Fields) (link : LinkId) (i : Item)
    (tags : Fields) : Prop where
  readable : link.Readable
  found : s.items.find? link.key = some i
  flat : Tags.flatten i.tags = .ok tags
  id_eq : id = .str (s.idOf i).print
  data_eq : data = Remote.data link (.str i.name) i.resourceId tags

theorem tracks_of_read {s : Store} {b : Bool} {id id' : Value} {data : Fields}
    (h : ((manager b).read id s).result = .ok (.present id' data)) :
    ∃ link i tags, s.Tracks id' data link i tags := by
  obtain ⟨link, i, tags, hp, hi, ht, hid, hdata⟩ := read_eq_present h
  exact ⟨link, i, tags, LinkId.readable_of_parse hp, hi, ht, hid, hdata⟩

theorem tracks_of_returned {s : Store} {id : Value} {data : Fields}
    (h : s.Returned (.present id data)) : ∃ link i tags, s.Tracks id data link i tags := by
  cases h with
  | read h => exact tracks_of_read h
  | written h hs =>
      obtain ⟨_, _, hread, service⟩ := Manager.read_of_createOrUpdate h
      rw [service_read] at service
      subst service
      rw [hs] at hread
      exact tracks_of_read hread

end Store

/-! ## The way back -/

theorem LinkId.SameUpToCase.readable {a b : LinkId} (h : a.SameUpToCase b) (hb : b.Readable)
    (hs : '/' ∉ a.subscription.toList) : a.Readable where
  subscription := hs
  group := fun hm => hb.group ((h.group.mem_iff Unicode.isMark_slash).mp hm)
  workspace := fun hm => hb.workspace ((h.workspace.mem_iff Unicode.isMark_slash).mp hm)
  name := fun hm => hb.name ((h.name.mem_iff Unicode.isMark_slash).mp hm)
  hasGroup := fun he => hb.hasGroup (h.group.eq_empty_iff.mp he)
  hasName := fun he => hb.hasName (h.name.eq_empty_iff.mp he)
  oneLine := fun hm => hb.oneLine ((h.name.mem_iff Unicode.isMark_newline).mp hm)

namespace Store

variable {s : Store} {id : Value} {data : Fields} {link : LinkId} {i : Item} {tags : Fields}

/-- The id that a snapshot shows is read as that of its item. -/
theorem Tracks.parse_id (h : s.Tracks id data link i tags) (hk : s.Keyed)
    (hs : '/' ∉ s.subscription.toList) : LinkId.parse id = .ok (s.idOf i) := by
  have same := sameUpToCase_idOf (s := s) (hk.key_of_find? h.found)
  have readable : LinkId.Readable { link with subscription := s.subscription } :=
    { h.readable with subscription := hs }
  rw [h.id_eq]
  exact LinkId.parse_print (same.readable readable hs)

theorem Tracks.key (h : s.Tracks id data link i tags) (hk : s.Keyed)
    (hs : '/' ∉ s.subscription.toList) : (Snapshot.present id data).key? = some link.key := by
  rw [Snapshot.key?, h.parse_id hk hs, ← hk.key_of_find? h.found]
  rfl

end Store

/-! ## A linked service that is to move -/

namespace Sample

open Store

def account : String := "/subscriptions/sub/resourceGroups/rg2"

def link (workspace : String) : LinkId := ⟨"sub", "rg1", workspace, defaultName⟩

def item (workspace : String) : Item := ⟨"rg1", workspace, defaultName, .str account, .map []⟩

/-- A store with linked services in two workspaces. -/
def store : Store := ofItems "sub" [item "ws01", item "ws02"]

def tracked : Snapshot :=
  .present (.str (link "ws01").print)
    (Remote.data (link "ws01") (.str defaultName) (.str account) [])

/-- Wants the linked service in the second workspace. -/
def raw : Value :=
  .record [(Field.group.key, .str "rg1"), (Field.workspace.key, .str "ws02"),
    (Field.properties.key, .record [(resourceIdKey, .str account)]),
    (Field.tags.key, .record [("env", .str "prod")])]

def config : Config :=
  ⟨.str "rg1", .str "ws02", .str defaultName, .str account, [(.str "env", "prod")]⟩

theorem decode_raw [Host] : Config.decode raw = .ok config := rfl

theorem parse_link : LinkId.parse (.str (link "ws01").print) = .ok (link "ws01") :=
  LinkId.parse_print
    ⟨⟨by decide, by decide, by decide, by decide⟩, by decide, by decide, by decide⟩

theorem find?_store (workspace : String) (h : workspace = "ws01" ∨ workspace = "ws02") :
    store.items.find? (link workspace).key = some (item workspace) := by
  have ne : (item "ws02").key ≠ (link "ws01").key := by decide +kernel
  have store_eq : store = put (put ⟨"sub", []⟩ (item "ws01")) (item "ws02") := rfl
  rw [store_eq]
  rcases h with rfl | rfl
  · rw [put, Items.find?_insert, if_neg ne]
    exact find?_put _ (item "ws01")
  · exact find?_put _ (item "ws02")

theorem read_tracked {b : Bool} :
    ((manager b).read (.str (link "ws01").print) store).result = .ok tracked := by
  rw [read_found parse_link (find?_store "ws01" (.inl rfl)), snapshotOf_remoteOf]
  rfl

end Sample

end WorkspaceLink
