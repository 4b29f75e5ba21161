import WorkspaceLink.Command.Run
import WorkspaceLink.Proofs.Tracking

/-!
# What an id reaches

The linked service that an operation on an id finds, and the address that a command makes its first
call to.
-/

namespace WorkspaceLink

/-! ## Ids of the documented form -/

namespace LinkId

/-- A valid id of something below a resource that is not of the documented form: the resource is of
another provider, what is below it names a provider of its own, or there is more below that. -/
def IsStray (rid : String) : Prop :=
  ∃ a r child more, ArmId.valid? rid.toList = some a ∧ a.resource = some r ∧
    r.children = child :: more ∧
      (isWord providerName r.provider = false ∨ child.provider ≠ none ∨ more ≠ [])

theorem lower_segments_of_named {a : ArmId} {link : LinkId} {provider type linkType' name : Segment}
    (h : NamedBy a link provider type ⟨none, linkType', name⟩ [])
    (hp : isWord providerName provider = true) :
    a.segments.map Unicode.lower = link.armId.segments.map Unicode.lower :=
  h.lower_segments.trans (lower_segments_spelled_iff.mpr ⟨hp, rfl, rfl⟩).symm

/-- What is read from a text that is not astray spells the text. -/
theorem sameUpToCase_of_parse {rid : String} {link : LinkId}
    (hp : parse (.str rid) = .ok link) (hr : ¬ IsStray rid) :
    Unicode.SameUpToCase rid link.print := by
  obtain ⟨t, ht, ho⟩ := parse_eq_ok hp
  obtain rfl := Scalar.str.inj (Value.scalar.inj ht)
  unfold ofText at ho
  split at ho
  · cases ho
  · rename_i a ha
    obtain ⟨provider, type, child, rest, named⟩ := ofArmId_eq_ok ho
    have resource := congrArg ArmId.resource named.shape
    have ownProvider : isWord providerName provider = true := by
      by_cases h : isWord providerName provider = true
      · exact h
      · exact absurd ⟨a, _, _, _, ha, resource, rfl, .inl (by simpa using h)⟩ hr
    have noProvider : child.provider = none := by
      by_cases h : child.provider = none
      · exact h
      · exact absurd ⟨a, _, _, _, ha, resource, rfl, .inr (.inl h)⟩ hr
    have nothingBelow : rest = [] := by
      by_cases h : rest = []
      · exact h
      · exact absurd ⟨a, _, _, _, ha, resource, rfl, .inr (.inr h)⟩ hr
    obtain ⟨_, linkType', name⟩ := child
    subst noProvider nothingBelow
    have segments := lower_segments_of_named named ownProvider
    rw [Unicode.sameUpToCase_iff, lower_print, ← segments]
    exact (ArmId.valid?_eq_some_iff.mp ha).2.2.symm.trans (Unicode.lower_join _)

theorem not_isStray_print {id : LinkId} (h : id.Readable) : ¬ IsStray id.print := by
  rintro ⟨a, r, child, more, ha, hr, hchildren, astray⟩
  rw [valid?_print h] at ha
  obtain rfl := Option.some.inj ha
  obtain rfl := Option.some.inj hr
  obtain ⟨rfl, rfl⟩ := List.cons.inj hchildren
  rcases astray with other | between | behind
  · simp [isWord] at other
  · exact between rfl
  · exact behind rfl

end LinkId

/-! ## Ids in a store -/

namespace Store

variable {s : Store} {link : LinkId} {i : Item} {rid : String} {b : Bool}

/-- The id with the subscription of a store in the place of its own. -/
def here (s : Store) (id : LinkId) : LinkId := { id with subscription := s.subscription }

/-- A text spells the same id of a linked service as another, but for the subscription, which is
that of a store. -/
def Respells (s : Store) (rid t : String) : Prop :=
  ∃ named : LinkId, named.SlashFree ∧ Unicode.SameUpToCase rid named.print ∧
    Unicode.SameUpToCase t (s.here named).print ∧
    (Unicode.SameUpToCase named.subscription s.subscription → Unicode.SameUpToCase t rid)

theorem respells_idOf (hp : LinkId.parse (.str rid) = .ok link) (hr : ¬ LinkId.IsStray rid)
    (hi : i.key = link.key) : s.Respells rid (s.idOf i).print := by
  have spelled := LinkId.sameUpToCase_of_parse hp hr
  have item : Unicode.SameUpToCase (s.idOf i).print (s.here link).print :=
    (sameUpToCase_idOf hi).print
  refine ⟨link, (LinkId.readable_of_parse hp).toSlashFree, spelled, item, fun hs => ?_⟩
  have same : (s.here link).SameUpToCase link := ⟨hs.symm, rfl, rfl, rfl⟩
  exact item.trans (same.print.trans spelled.symm)

theorem read_respells (hk : s.Keyed) (hr : ¬ LinkId.IsStray rid) {id : Value} {data : Fields}
    (h : ((manager b).read (.str rid) s).result = .ok (.present id data)) :
    ∃ t, id = .str t ∧ s.Respells rid t := by
  obtain ⟨link, i, tags, hp, hi, -, rfl, -⟩ := read_eq_present h
  exact ⟨_, rfl, respells_idOf hp hr (hk.key_of_find? hi)⟩

theorem delete_respells (hk : s.Keyed) (hr : ¬ LinkId.IsStray rid) {e : Key × Item}
    (he : e ∈ s.items) (hgone : e ∉ ((manager b).delete (.str rid) s).service.items) :
    s.Respells rid (s.idOf e.2).print := by
  cases hp : LinkId.parse (.str rid) with
  | error f =>
      rw [Manager.delete_of_parse_error hp] at hgone
      exact absurd he hgone
  | ok link =>
      rw [delete_of_parse hp] at hgone
      have key : e.1 = link.key := by
        by_cases hne : e.1 = link.key
        · exact hne
        · exact absurd (List.mem_filter.mpr ⟨he, by simpa using hne⟩) hgone
      exact respells_idOf hp hr ((hk e he).symm.trans key)

theorem mem_of_mem_delete {id : Value} {e : Key × Item}
    (he : e ∈ ((manager b).delete id s).service.items) : e ∈ s.items := by
  cases hp : LinkId.parse id with
  | error f => rwa [Manager.delete_of_parse_error hp] at he
  | ok link =>
      rw [delete_of_parse hp] at he
      exact (List.mem_filter.mp he).1

/-- An id that is not astray reaches no other linked service: what is read, imported or deleted with
it has that id, up to case and but for the subscription, which is that of the store. -/
theorem reaches_named (hk : s.Keyed) (hr : ¬ LinkId.IsStray rid) (b : Bool) :
    (∀ id data, ((manager b).read (.str rid) s).result = .ok (.present id data) →
      ∃ t, id = .str t ∧ s.Respells rid t) ∧
    (∀ id data, ((manager b).importExisting (.str rid) s).result = .ok (.present id data) →
      ∃ t, id = .str t ∧ s.Respells rid t) ∧
    (∀ e ∈ s.items, e ∉ ((manager b).delete (.str rid) s).service.items →
      s.Respells rid (s.idOf e.2).print) ∧
    (∀ e ∈ ((manager b).delete (.str rid) s).service.items, e ∈ s.items) :=
  ⟨fun _ _ h => read_respells hk hr h, fun _ _ h => read_respells hk hr h,
    fun _ he hgone => delete_respells hk hr he hgone, fun _ he => mem_of_mem_delete he⟩

/-- The name of a linked service in another subscription. -/
def elsewhere : LinkId := { Sample.link "ws01" with subscription := "other" }

theorem readable_elsewhere : elsewhere.Readable :=
  ⟨⟨by decide, by decide, by decide, by decide⟩, by decide, by decide, by decide⟩

/-- By the id of another subscription the linked service of the store is read, imported and deleted;
it has that id but for the subscription. -/
theorem reaches_named_elsewhere :
    let here : Value := .str (Sample.link "ws01").print
    let item : Key × Item := ((Sample.link "ws01").key, Sample.item "ws01")
    (∃ data,
      ((manager false).read (.str elsewhere.print) Sample.store).result = .ok (.present here data) ∧
      ((manager false).importExisting (.str elsewhere.print) Sample.store).result =
        .ok (.present here data)) ∧
    item ∈ Sample.store.items ∧
    item ∉ ((manager false).delete (.str elsewhere.print) Sample.store).service.items ∧
    Sample.store.Respells elsewhere.print (Sample.link "ws01").print := by
  intro here item
  have keyed : Sample.store.Keyed := keyed_ofItems _ _
  have found : Sample.store.items.find? elsewhere.key = some (Sample.item "ws01") :=
    Sample.find?_store "ws01" (.inl rfl)
  have parsed : LinkId.parse (.str elsewhere.print) = .ok elsewhere :=
    LinkId.parse_print readable_elsewhere
  have read : ∃ data, ((manager false).read (.str elsewhere.print) Sample.store).result =
      .ok (.present here data) := by
    rw [read_found parsed found, snapshotOf_remoteOf]
    exact ⟨_, rfl⟩
  have stored : item ∈ Sample.store.items := Items.mem_of_find? found
  have removed :
      item ∉ ((manager false).delete (.str elsewhere.print) Sample.store).service.items := by
    rw [delete_of_parse parsed]
    intro kept
    simpa [item, elsewhere, LinkId.key] using (List.mem_filter.mp kept).2
  obtain ⟨-, -, deleted, -⟩ :=
    reaches_named keyed (LinkId.not_isStray_print readable_elsewhere) false
  obtain ⟨data, present⟩ := read
  exact ⟨⟨data, present, present⟩, stored, removed, deleted item stored removed⟩

/-- The id of something like a linked service, of a provider and with more below it. -/
def stray (provider : String) (more : List ArmId.Child) : ArmId :=
  ⟨"sub".toList, some "rg1".toList,
    some ⟨provider.toList, workspaceType.toList, "ws01".toList,
      ⟨none, linkType.toList, defaultName.toList⟩ :: more⟩⟩

def strays : List ArmId :=
  [elsewhere.armId, stray "Microsoft.Other" [],
    stray providerName [⟨none, "locks".toList, "mine".toList⟩]]

theorem parse_stray {a : ArmId} (h : a ∈ strays) : ∃ link,
    LinkId.parse (.str (String.ofList a.print)) = .ok link ∧
      link.key = (Sample.link "ws01").key := by
  have keys : ∀ a ∈ strays,
      (LinkId.ofText a.print).toOption.map LinkId.key = some (Sample.link "ws01").key := by
    decide +kernel
  obtain ⟨link, read, key⟩ := Option.map_eq_some_iff.mp (keys a h)
  exact ⟨link, LinkId.parse_of_ofText read, key⟩

/-- An id reaches a linked service that it does not name, and deletes it. -/
structure Astray (rid : String) : Prop where
  misspelled : ¬ Unicode.SameUpToCase (Sample.link "ws01").print rid
  read : ∃ data, ((manager false).read (.str rid) Sample.store).result =
    .ok (.present (.str (Sample.link "ws01").print) data)
  found : Sample.store.items.find? (Sample.link "ws01").key = some (Sample.item "ws01")
  deleted : ((manager false).delete (.str rid) Sample.store).service.items.find?
    (Sample.link "ws01").key = none

theorem astray_of_mem {a : ArmId} (ha : a ∈ strays) : Astray (String.ofList a.print) := by
  have misspelled : ∀ a ∈ strays,
      Unicode.lower (Sample.link "ws01").armId.print ≠ Unicode.lower a.print := by
    decide +kernel
  obtain ⟨link, hp, hkey⟩ := parse_stray ha
  have found := Sample.find?_store "ws01" (.inl rfl)
  refine ⟨?_, ?_, found, ?_⟩
  · rw [Unicode.sameUpToCase_iff, LinkId.toList_print, String.toList_ofList]
    exact misspelled a ha
  · rw [read_found hp (hkey ▸ found), snapshotOf_remoteOf]
    exact ⟨_, rfl⟩
  · rw [delete_of_parse hp, hkey, remove, Items.find?_erase, if_pos rfl]

/-- Ids in another subscription, of another provider, and of something below a linked service. -/
theorem strays_reach :
    Astray elsewhere.print ∧ Astray (String.ofList (stray "Microsoft.Other" []).print) ∧
      Astray (String.ofList
        (stray providerName [⟨none, "locks".toList, "mine".toList⟩]).print) := by
  refine ⟨?_, astray_of_mem (.tail _ (.head _)), astray_of_mem (.tail _ (.tail _ (.head _)))⟩
  have first : Astray (String.ofList elsewhere.armId.print) := astray_of_mem (.head _)
  rwa [← LinkId.toList_print, String.ofList_toList] at first

end Store

/-! ## Names that are read back -/

namespace LinkId

/-- Of ids with parts without a slash, those are read that have a group and a name of one line. -/
theorem parse_print_ok_iff {id : LinkId} (h : id.SlashFree) :
    (∃ link, parse (.str id.print) = .ok link) ↔ id.Readable := by
  constructor
  · rintro ⟨link, hp⟩
    obtain ⟨t, ht, ho⟩ := parse_eq_ok hp
    obtain rfl := Scalar.str.inj (Value.scalar.inj ht)
    have same := sameUpToCase_of_ofText ho h rfl
    have readable := readable_of_parse hp
    exact ⟨h, fun he => readable.hasGroup (same.group.eq_empty_iff.mpr he),
      fun he => readable.hasName (same.name.eq_empty_iff.mpr he),
      fun hm => readable.oneLine ((same.name.mem_iff Unicode.isMark_newline).mpr hm)⟩
  · intro readable
    exact ⟨id, parse_print readable⟩

/-- What is read from an id has its address if its names hold no slash, and only then. -/
theorem address_eq_iff {id link : LinkId} (hs : '/' ∉ id.subscription.toList)
    (hp : parse (.str id.print) = .ok link) : link.address = id.address ↔ id.SlashFree := by
  constructor
  · intro ha
    simp only [address, Address.mk.injEq, Value.scalar.injEq, Scalar.str.injEq] at ha
    obtain ⟨group, workspace, name⟩ := ha
    have free := (readable_of_parse hp).toSlashFree
    exact ⟨hs, group ▸ free.group, workspace ▸ free.workspace, name ▸ free.name⟩
  · intro free
    have readable := (parse_print_ok_iff free).mp ⟨link, hp⟩
    rw [parse_print readable] at hp
    rw [Except.ok.inj hp]

theorem parse_print_error {id : LinkId} {e : Fault} (h : parse (.str id.print) = .error e) :
    ∃ reason, e = .malformedId (.str id.print) reason := by
  rw [parse_str] at h
  obtain ⟨r, -, rfl⟩ := mapError_eq_error.mp h
  exact ⟨_, rfl⟩

end LinkId

/-! ## Commands and their first calls -/

namespace Action

variable {σ α β : Type} {x : Action σ α} {f : α → Action σ β} {s : σ}

theorem head?_calls_bind {c : Call} (h : (x s).calls.head? = some c) :
    ((x >>= f) s).calls.head? = some c := by
  rw [bind_apply, resume]
  split
  · exact h
  · simp [h]

end Action

/-- A course ended with the refusal of an id, before any call. -/
def Refused {σ α : Type} (c : Course σ α) : Prop :=
  (∃ id reason, c.result = .error (.malformedId id reason)) ∧ c.calls = []

/-- A course was refused, or made a call before all others. -/
def CallsFirst {σ α : Type} (c : Course σ α) (call : Call) : Prop :=
  Refused c ∨ c.calls.head? = some call

theorem not_callsFirst {σ α : Type} {c : Course σ α} {call call' : Call}
    (h : c.calls.head? = some call) (hne : call ≠ call') : ¬ CallsFirst c call' := by
  rintro (⟨-, none⟩ | first)
  · simp [none] at h
  · rw [h] at first
    exact hne (Option.some.inj first)

/-- The names of an id lead where they say: they hold no slash, or the id is refused. -/
def LinkId.Unmistaken (id : LinkId) : Prop :=
  id.SlashFree ∨ ∃ e, LinkId.parse (.str id.print) = .error e

/-- A course that goes by what is read from an id calls its address first, or is refused, exactly if
the names of the id are not mistaken. -/
theorem callsFirst_iff {σ α : Type} {c : Course σ α} {id : LinkId} {call : Address → Call}
    (hs : '/' ∉ id.subscription.toList) (injective : ∀ a b, call a = call b → a = b)
    (refused : ∀ e, LinkId.parse (.str id.print) = .error e → c.result = .error e ∧ c.calls = [])
    (sent : ∀ link, LinkId.parse (.str id.print) = .ok link →
      c.calls.head? = some (call link.address)) :
    CallsFirst c (call id.address) ↔ id.Unmistaken := by
  cases hp : LinkId.parse (.str id.print) with
  | error e =>
      obtain ⟨reason, rfl⟩ := LinkId.parse_print_error hp
      obtain ⟨result, calls⟩ := refused _ hp
      exact iff_of_true (Or.inl ⟨⟨_, _, result⟩, calls⟩) (Or.inr ⟨_, hp⟩)
  | ok link =>
      have first := sent link hp
      have called : CallsFirst c (call id.address) ↔ link.address = id.address := by
        constructor
        · intro h
          by_cases ha : call link.address = call id.address
          · exact injective _ _ ha
          · exact absurd h (not_callsFirst first ha)
        · intro ha
          exact Or.inr (ha ▸ first)
      rw [called, LinkId.address_eq_iff hs hp, LinkId.Unmistaken, hp]
      simp

namespace Workbench

variable {σ : Type} {w : Workbench σ} {id link : LinkId} {e : Fault}

theorem idAt_address (h : id.subscription = w.subscription) : w.idAt id.address = .ok id.print := by
  rw [idAt, ← h]
  rfl

theorem head?_calls_read (h : id.subscription = w.subscription)
    (hp : LinkId.parse (.str id.print) = .ok link) (s : σ) :
    (w.read id.address s).calls.head? = some (.get link.address) := by
  have first : (w.manager.read (.str id.print) s).calls.head? = some (.get link.address) := by
    rw [Manager.calls_read hp]
    rfl
  rw [read, idAt_address h, Action.ofExcept_ok_bind]
  exact Action.head?_calls_bind first

theorem read_refused (h : id.subscription = w.subscription)
    (hp : LinkId.parse (.str id.print) = .error e) (s : σ) :
    w.read id.address s = ⟨.error e, s, [], []⟩ := by
  rw [read, idAt_address h, Action.ofExcept_ok_bind,
    Action.bind_error (Manager.read_of_parse_error hp s)]

theorem head?_calls_delete (h : id.subscription = w.subscription)
    (hp : LinkId.parse (.str id.print) = .ok link) (s : σ) :
    (w.delete id.address s).calls.head? = some (.delete link.address) := by
  rw [delete, idAt_address h, Action.ofExcept_ok_bind, Manager.calls_delete hp]
  rfl

/-- Where the first call of a command goes, whatever the client: the names that were given arrive
there, or the command is refused before, exactly if no name holds a slash or the id that is made of
them is refused. -/
theorem calls_given_names_iff [Host] (hs : '/' ∉ w.subscription.toList)
    (group workspace name : String)
    (s : σ) :
    let id : LinkId := ⟨w.subscription, group, workspace, name⟩
    (CallsFirst (w.read id.address s) (.get id.address) ↔ id.Unmistaken) ∧
    (∀ resourceId tags, CallsFirst (w.update id.address resourceId tags s) (.get id.address) ↔
      id.Unmistaken) ∧
    (CallsFirst (w.delete id.address s) (.delete id.address) ↔ id.Unmistaken) := by
  intro id
  have inSubscription : id.subscription = w.subscription := rfl
  have get_injective : ∀ a b, Call.get a = Call.get b → a = b := fun a b h => Call.get.inj h
  have delete_injective : ∀ a b, Call.delete a = Call.delete b → a = b :=
    fun a b h => Call.delete.inj h
  refine ⟨callsFirst_iff hs get_injective ?_ ?_, fun resourceId tags =>
    callsFirst_iff hs get_injective ?_ ?_, callsFirst_iff hs delete_injective ?_ ?_⟩
  · intro e hp
    rw [read_refused inSubscription hp]
    exact ⟨rfl, rfl⟩
  · intro link hp
    exact head?_calls_read inSubscription hp s
  · intro e hp
    rw [update, Action.bind_error (read_refused inSubscription hp s)]
    exact ⟨rfl, rfl⟩
  · intro link hp
    exact Action.head?_calls_bind (head?_calls_read inSubscription hp s)
  · intro e hp
    rw [delete, idAt_address inSubscription, Action.ofExcept_ok_bind,
      Manager.delete_of_parse_error hp]
    exact ⟨rfl, rfl⟩
  · intro link hp
    exact head?_calls_delete inSubscription hp s

/-- A workbench over a store. -/
def sample : Workbench Store := ⟨Store.manager false, [], "sub"⟩

/-- Names without a slash arrive. -/
theorem calls_given_names_plain :
    let id := Sample.link "ws01"
    CallsFirst (sample.read id.address Sample.store) (.get id.address) ∧
    (∀ resourceId tags,
      CallsFirst (sample.update id.address resourceId tags Sample.store) (.get id.address)) ∧
    CallsFirst (sample.delete id.address Sample.store) (.delete id.address) := by
  intro id
  have plain : id.Unmistaken := Or.inl ⟨by decide, by decide, by decide, by decide⟩
  obtain ⟨read, update, delete⟩ :=
    calls_given_names_iff (w := sample) (by decide) "rg1" "ws01" defaultName Sample.store
  exact ⟨read.mpr plain, fun resourceId tags => (update resourceId tags).mpr plain,
    delete.mpr plain⟩

/-- The first call is about another linked service than the one that is named. -/
structure CallsElsewhere (id : LinkId) : Prop where
  read : (sample.read id.address Sample.store).calls.head? =
    some (.get (Sample.link "ws01").address)
  update : ∀ resourceId tags,
    (sample.update id.address resourceId tags Sample.store).calls.head? =
      some (.get (Sample.link "ws01").address)
  delete : (sample.delete id.address Sample.store).calls.head? =
    some (.delete (Sample.link "ws01").address)
  other : ¬ CallsFirst (sample.read id.address Sample.store) (.get id.address) ∧
    (∀ resourceId tags,
      ¬ CallsFirst (sample.update id.address resourceId tags Sample.store) (.get id.address)) ∧
    ¬ CallsFirst (sample.delete id.address Sample.store) (.delete id.address)

theorem callsElsewhere_of_parse (h : id.subscription = "sub")
    (hp : LinkId.parse (.str id.print) = .ok (Sample.link "ws01"))
    (other : (Sample.link "ws01").address ≠ id.address) : CallsElsewhere id := by
  have read := head?_calls_read (w := sample) h hp Sample.store
  have update (resourceId tags) :
      (sample.update id.address resourceId tags Sample.store).calls.head? =
        some (.get (Sample.link "ws01").address) := Action.head?_calls_bind read
  have delete := head?_calls_delete (w := sample) h hp Sample.store
  exact ⟨read, update, delete, not_callsFirst read fun h => other (Call.get.inj h),
    fun resourceId tags => not_callsFirst (update resourceId tags) fun h => other (Call.get.inj h),
    not_callsFirst delete fun h => other (Call.delete.inj h)⟩

/-- The id that is made of a name with segments behind it. -/
def belowName : LinkId := { Sample.link "ws01" with name := defaultName ++ "/locks/mine" }

/-- The id that is made of a workspace with a linked service behind it. -/
def belowWorkspace : LinkId :=
  { Sample.link "ws01" with workspace := "ws01/" ++ linkType ++ "/" ++ defaultName }

theorem parse_below {below : LinkId} (h : below ∈ [belowName, belowWorkspace]) :
    LinkId.parse (.str below.print) = .ok (Sample.link "ws01") := by
  have read : ∀ below ∈ [belowName, belowWorkspace],
      (LinkId.ofText below.armId.print).toOption = some (Sample.link "ws01") := by
    decide +kernel
  have parsed := LinkId.parse_of_ofText (read below h)
  rwa [← LinkId.toList_print, String.ofList_toList] at parsed

/-- With segments behind a name or a workspace, the linked service that is read and deleted is
another one. -/
theorem below_calls_elsewhere : CallsElsewhere belowName ∧ CallsElsewhere belowWorkspace := by
  constructor
  · refine callsElsewhere_of_parse rfl (parse_below (.head _)) fun h => ?_
    simp only [LinkId.address, Address.mk.injEq, Value.scalar.injEq, Scalar.str.injEq] at h
    exact absurd h.2.2 (by decide +kernel)
  · refine callsElsewhere_of_parse rfl (parse_below (.tail _ (.head _))) fun h => ?_
    simp only [LinkId.address, Address.mk.injEq, Value.scalar.injEq, Scalar.str.injEq] at h
    exact absurd h.2.1 (by decide +kernel)

end Workbench

end WorkspaceLink
