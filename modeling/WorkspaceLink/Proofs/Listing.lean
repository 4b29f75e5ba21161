import WorkspaceLink.Proofs.Computation
import WorkspaceLink.Proofs.Operations
import WorkspaceLink.Proofs.Order
import WorkspaceLink.Proofs.Tracking

/-!
# Listing and reading

A list shows the items of a workspace, each by the snapshot that reading its id ends with. The list
tells the parts of an id from the id itself, reading takes them from the id that is asked for; both
meet in the item that has the key of the id.
-/

namespace WorkspaceLink.Store

variable {s : Store} {i j : Item} {group workspace : String}

/-! ## The items of a workspace -/

/-- The items of a workspace, in the order of their keys. -/
def members (s : Store) (group workspace : String) : List Item :=
  (s.items.filter fun e => e.1.isIn group workspace).map (·.2)

/-- The snapshot of an item. -/
def shown (s : Store) (i : Item) : Snapshot :=
  .present (.str (s.idOf i).print) (Remote.data (s.idOf i) (.str i.name) i.resourceId i.flatTags)

theorem isIn_key_iff : i.key.isIn group workspace = true ↔
    Unicode.SameUpToCase i.group group ∧ Unicode.SameUpToCase i.workspace workspace := by
  simp [Key.isIn, Item.key, Key.of, Unicode.SameUpToCase]

theorem Keyed.mem_iff (h : s.Keyed) : (∃ k, (k, i) ∈ s.items) ↔ (i.key, i) ∈ s.items := by
  constructor
  · rintro ⟨k, hk⟩
    have key : k = i.key := h _ hk
    rwa [← key]
  · intro hi
    exact ⟨_, hi⟩

theorem Keyed.mem_members_iff (h : s.Keyed) : i ∈ s.members group workspace ↔
    (i.key, i) ∈ s.items ∧ Unicode.SameUpToCase i.group group ∧
      Unicode.SameUpToCase i.workspace workspace := by
  rw [← isIn_key_iff, members, List.mem_map]
  constructor
  · rintro ⟨e, he, rfl⟩
    obtain ⟨mem, isIn⟩ := List.mem_filter.mp he
    have key : e.1 = e.2.key := h e mem
    rw [← key]
    exact ⟨mem, isIn⟩
  · rintro ⟨mem, isIn⟩
    exact ⟨_, List.mem_filter.mpr ⟨mem, isIn⟩, rfl⟩

theorem Keyed.keys_members (h : s.Keyed) : (s.members group workspace).map Item.key =
    (s.items.filter fun e => e.1.isIn group workspace).map (·.1) := by
  rw [members, List.map_map]
  exact List.map_congr_left fun e he => (h e (List.mem_filter.mp he).1).symm

theorem InOrder.members (h : s.InOrder) (group workspace : String) :
    ((s.members group workspace).map Item.key).Pairwise fun k l => k.before l = true := by
  rw [h.keyed.keys_members, List.pairwise_map]
  exact List.Pairwise.filter _ h.sorted

/-- An item of a store in order is the one that is found under its key. -/
theorem Items.Sorted.find?_of_mem {items : Items} {k : Key} (h : items.Sorted)
    (hi : (k, i) ∈ items) : items.find? k = some i := by
  induction items with
  | nil => cases hi
  | cons e items ih =>
      obtain ⟨l, j⟩ := e
      obtain ⟨first, rest⟩ := sorted_cons_iff.mp h
      rw [find?_cons]
      rcases List.mem_cons.mp hi with he | hi
      · obtain ⟨rfl, rfl⟩ := Prod.mk.inj he
        exact if_pos rfl
      · have later : l ≠ k := by
          rintro rfl
          have self := first _ hi
          rw [Key.not_before_self] at self
          cases self
        rw [if_neg later]
        exact ih rest hi

/-! ## Listing -/

/-- Every item has an id that can be read. -/
def Readable (s : Store) : Prop := ∀ e ∈ s.items, (s.idOf e.2).Readable

theorem Readable.put (h : s.Readable) (hi : (s.idOf i).Readable) : (s.put i).Readable := by
  intro e he
  rcases Items.mem_insert he with rfl | he
  · exact hi
  · exact h e he

theorem readable_ofItems {subscription : String} {items : List Item}
    (h : ∀ i ∈ items, (idOf ⟨subscription, []⟩ i).Readable) :
    (ofItems subscription items).Readable := by
  refine ofItems_induction (fun e he => by cases he) fun s same i hi hs => hs.put ?_
  rw [idOf, same]
  exact h i hi

theorem listed_remoteOf (hr : (s.idOf i).Readable) (hp : i.Plain) :
    Manager.listed (some (s.remoteOf i)) = .ok (some (s.shown i)) := by
  have made : (s.remoteOf i).toSnapshot (s.idOf i) = .ok (s.shown i) := by
    simp only [Remote.toSnapshot, remoteOf, hp.flatten_tags]
    rfl
  have parsed : LinkId.parse (s.remoteOf i).id = .ok (s.idOf i) := LinkId.parse_print hr
  rw [Manager.listed, if_pos (truthy_id s i), parsed]
  change (do return some (← Fault.ofMisfit ((s.remoteOf i).toSnapshot (s.idOf i)))) = _
  rw [made]
  rfl

theorem exists_of_mem_members (h : i ∈ s.members group workspace) : ∃ e ∈ s.items, e.2 = i := by
  obtain ⟨e, he, hi⟩ := List.mem_map.mp h
  exact ⟨e, (List.mem_filter.mp he).1, hi⟩

theorem mapM_listed (hr : s.Readable) (hp : s.Plain) :
    ((s.members group workspace).map fun i => some (s.remoteOf i)).mapM Manager.listed =
      .ok ((s.members group workspace).map fun i => some (s.shown i)) := by
  rw [mapM_eq_ok_iff, List.forall₂_map_left_iff, List.forall₂_map_right_iff, List.forall₂_same]
  intro i hi
  obtain ⟨e, he, rfl⟩ := exists_of_mem_members hi
  exact listed_remoteOf (hr e he) (hp e he)

theorem list_apply (hr : s.Readable) (hp : s.Plain) (b : Bool) (group workspace : String) :
    (manager b).list (.str group) (.str workspace) s =
      ⟨.ok ((s.members group workspace).map s.shown), s,
        [.list (.str group) (.str workspace)], []⟩ := by
  have answer : client.list (.str group) (.str workspace) s =
      (.ok ((s.members group workspace).map fun i => some (s.remoteOf i)), s) := by
    rw [members, List.map_map]
    rfl
  have called : (manager b).client.listing (.str group) (.str workspace) s =
      ⟨.ok (.ok ((s.members group workspace).map fun i => some (s.remoteOf i))), s,
        [.list (.str group) (.str workspace)], []⟩ := by
    rw [Client.listing, Action.call_apply]
    exact congrArg (fun r => (⟨.ok r.1, r.2, _, []⟩ : Course Store _)) answer
  rw [Manager.list, Action.bind_ok called]
  dsimp only
  rw [mapM_listed hr hp, Action.ofExcept_apply]
  simp [Except.map, List.filterMap_map]

/-! ## Reading what is listed -/

theorem read_shown (ho : s.InOrder) (hi : (i.key, i) ∈ s.items) (hr : (s.idOf i).Readable)
    (hp : i.Plain) (b : Bool) : (manager b).read (s.shown i).id s =
      ⟨.ok (s.shown i), s, [.get (s.idOf i).address], []⟩ :=
  read_plain (LinkId.parse_print hr) (ho.sorted.find?_of_mem hi) hp

theorem nodup_ids (ho : s.InOrder) (hr : s.Readable) :
    (((s.members group workspace).map s.shown).map Snapshot.id).Nodup := by
  have keys := ho.members group workspace
  rw [List.pairwise_map] at keys
  rw [List.map_map, List.Nodup, List.pairwise_map]
  refine keys.imp_of_mem fun {i j} hi hj before same => ?_
  obtain ⟨d, hd, rfl⟩ := exists_of_mem_members hi
  obtain ⟨e, he, rfl⟩ := exists_of_mem_members hj
  -- equal texts would be read as one id, whose key would come before itself
  have ids : s.idOf d.2 = s.idOf e.2 := by
    have parsed := LinkId.parse_print (hr d hd)
    rw [show Value.str (s.idOf d.2).print = .str (s.idOf e.2).print from same,
      LinkId.parse_print (hr e he)] at parsed
    exact (Except.ok.inj parsed).symm
  rw [← key_idOf s d.2, ids, key_idOf, Key.not_before_self] at before
  cases before

/-- The list of a workspace has one snapshot for each of its items, whatever the case in which the
workspace is asked for, in the order of keys and under ids that all differ. Reading the id of a
snapshot in the list ends with that snapshot. Neither changes the store. -/
theorem list_reads (ho : s.InOrder) (hr : s.Readable) (hp : s.Plain) (b : Bool)
    (group workspace : String) :
    ∃ items states,
      (∀ i, i ∈ items ↔ (∃ k, (k, i) ∈ s.items) ∧ Unicode.SameUpToCase i.group group ∧
        Unicode.SameUpToCase i.workspace workspace) ∧
      (items.map Item.key).Pairwise (fun k l => k.before l = true) ∧
      (manager b).list (.str group) (.str workspace) s =
        ⟨.ok states, s, [.list (.str group) (.str workspace)], []⟩ ∧
      List.Forall₂ (fun i t => t = s.shown i) items states ∧
      (states.map Snapshot.id).Nodup ∧
      ∀ t ∈ states, t.isPresent = true ∧ ((manager b).read t.id s).result = .ok t ∧
        ((manager b).read t.id s).service = s := by
  refine ⟨s.members group workspace, _, fun i => ?_, ho.members group workspace,
    list_apply hr hp b group workspace, ?_, nodup_ids ho hr, fun t ht => ?_⟩
  · rw [ho.keyed.mem_iff]
    exact ho.keyed.mem_members_iff
  · rw [List.forall₂_map_right_iff, List.forall₂_same]
    intro i _
    rfl
  · obtain ⟨i, hi, rfl⟩ := List.mem_map.mp ht
    obtain ⟨mem, -⟩ := ho.keyed.mem_members_iff.mp hi
    rw [read_shown ho mem (hr _ mem) (hp _ mem) b]
    exact ⟨rfl, rfl, rfl⟩

end WorkspaceLink.Store

namespace WorkspaceLink.Sample

open Store

/-- Two linked services of one workspace, which was spelled in two ways, and one of another. -/
def crowd : List Item :=
  [⟨"RG1", "ws01", defaultName, .str account, .null⟩,
    ⟨"rg1", "WS01", "Cluster", .str account, .record [("env", .str "prod")]⟩,
    ⟨"rg1", "ws02", defaultName, .str account, .map []⟩]

theorem plain_crowd : (ofItems "sub" crowd).Plain :=
  plain_ofItems (by simp [Item.Plain, crowd, Value.record])

theorem readable_crowd : (ofItems "sub" crowd).Readable := by
  refine readable_ofItems fun i hi => ?_
  simp only [crowd, List.mem_cons, List.not_mem_nil, or_false] at hi
  rcases hi with rfl | rfl | rfl <;>
    exact ⟨⟨by decide, by decide, by decide, by decide⟩, by decide, by decide, by decide⟩

end WorkspaceLink.Sample

namespace WorkspaceLink.Store

/-- Both linked services are listed where the workspace is asked for in a third spelling. -/
theorem list_reads_crowd : (ofItems "sub" Sample.crowd).InOrder ∧
    (ofItems "sub" Sample.crowd).Readable ∧ (ofItems "sub" Sample.crowd).Plain ∧
    ∃ states,
      ((manager false).list (.str "Rg1") (.str "Ws01") (ofItems "sub" Sample.crowd)).result =
        .ok states ∧ states.length = 2 ∧
      ∀ t ∈ states, ((manager false).read t.id (ofItems "sub" Sample.crowd)).result = .ok t := by
  have ho := inOrder_ofItems "sub" Sample.crowd
  obtain ⟨items, states, -, -, course, -, -, reads⟩ :=
    list_reads ho Sample.readable_crowd Sample.plain_crowd false "Rg1" "Ws01"
  have states_eq : ((ofItems "sub" Sample.crowd).members "Rg1" "Ws01").map
      (ofItems "sub" Sample.crowd).shown = states := by
    rw [list_apply Sample.readable_crowd Sample.plain_crowd] at course
    exact Except.ok.inj (congrArg Course.result course)
  have two : ((ofItems "sub" Sample.crowd).members "Rg1" "Ws01").length = 2 := by decide +kernel
  refine ⟨ho, Sample.readable_crowd, Sample.plain_crowd, states, by rw [course], ?_,
    fun t ht => (reads t ht).2.1⟩
  rw [← states_eq, List.length_map, two]

end WorkspaceLink.Store
