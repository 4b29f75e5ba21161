import WorkspaceLink.LinkId
import WorkspaceLink.Proofs.Computation
import WorkspaceLink.Proofs.LowerCase

/-!
# Reading and writing ids of linked services

Reading undoes writing for ids whose parts hold no slash, and what is read always has such parts.
-/

namespace WorkspaceLink

/-! ## Ids of any resource -/

namespace ArmId

theorem isKeyword_toList (keyword : String) : Segment.isKeyword keyword keyword.toList = true := by
  simp [Segment.isKeyword]

theorem valid?_eq_some_iff {cs : List Char} {a : ArmId} :
    valid? cs = some a ↔
      parse? cs = some a ∧ cs ≠ [] ∧ Unicode.lower a.print = Unicode.lower cs := by
  simp [valid?, Option.filter_eq_some_iff]

/-- A segment of the first line is the beginning of a segment, and the line ends there. -/
theorem mem_firstLine {s : Segment} {ss : List Segment} (h : s ∈ Segment.firstLine ss) :
    '\n' ∉ s ∧ ∃ t ∈ ss, s <+: t := by
  induction ss with
  | nil => cases h
  | cons t ts ih =>
      rw [Segment.firstLine] at h
      split at h
      · obtain rfl := List.mem_singleton.mp h
        refine ⟨fun hn => ?_, t, by simp, List.takeWhile_prefix _⟩
        simpa using List.all_eq_true.mp List.all_takeWhile _ hn
      · rename_i hn
        rcases List.mem_cons.mp h with rfl | h
        · exact ⟨by simpa using hn, s, by simp, List.prefix_rfl⟩
        · obtain ⟨hs, u, hu, hp⟩ := ih h
          exact ⟨hs, u, by simp [hu], hp⟩

@[simp] theorem segments_under (p t n : Segment) :
    Child.segments ⟨some p, t, n⟩ = ["providers".toList, p, t, n] := rfl

@[simp] theorem segments_direct (t n : Segment) : Child.segments ⟨none, t, n⟩ = [t, n] := rfl

theorem mem_childrenOf {ss : List Segment} {c : Child} {s : Segment} (hc : c ∈ childrenOf ss)
    (hs : s ∈ c.segments) : s = "providers".toList ∨ s ∈ ss := by
  induction ss using childrenOf.induct with
  | case1 p ns t n rest hp ih =>
      rw [childrenOf, if_pos hp] at hc
      rcases List.mem_cons.mp hc with rfl | hc
      · rw [segments_under] at hs
        grind
      · grind
  | case2 p ns t n rest hp ih =>
      rw [childrenOf, if_neg hp] at hc
      rcases List.mem_cons.mp hc with rfl | hc
      · rw [segments_direct] at hs
        grind
      · grind
  | case3 t n rest hr =>
      rw [childrenOf] at hc
      · obtain rfl := List.mem_singleton.mp hc
        rw [segments_direct] at hs
        grind
      · exact hr
  | case4 ss h h' =>
      rw [childrenOf] at hc
      · cases hc
      · exact h
      · exact h'

theorem mem_segments_resource {ss : List Segment} {r : Resource} {s : Segment}
    (h : resourceOf? ss = some r) (hs : s ∈ r.segments) :
    s = "providers".toList ∨ ∃ t ∈ ss, s <+: t := by
  unfold resourceOf? at h
  split at h
  · rename_i p ns t n rest
    split at h
    · obtain rfl := Option.some.inj h
      simp only [Resource.segments, List.mem_append, List.mem_flatMap] at hs
      rcases hs with hs | ⟨c, hc, hs⟩
      · rcases List.mem_cons.mp hs with hs | hs
        · exact Or.inl hs
        · exact Or.inr ⟨s, by grind, List.prefix_rfl⟩
      · rcases mem_childrenOf hc hs with hs | hs
        · exact Or.inl hs
        · obtain ⟨-, u, hu, hp⟩ := mem_firstLine hs
          exact Or.inr ⟨u, by simp [hu], hp⟩
    · cases h
  · cases h

/-- The words that every id is written with. -/
def keywords : List Segment :=
  [[], "subscriptions".toList, "resourceGroups".toList, "providers".toList]

theorem mem_segments_scope {subscription s : Segment} {ss : List Segment}
    (hs : s ∈ (scopeOf subscription ss).segments) :
    s ∈ keywords ∨ s = subscription ∨ ∃ t ∈ ss, s <+: t := by
  have ofResource (rest : List Segment)
      (hs : s ∈ ((resourceOf? rest).map Resource.segments).getD []) :
      s ∈ keywords ∨ ∃ t ∈ rest, s <+: t := by
    cases h : resourceOf? rest with
    | none => simp [h] at hs
    | some r =>
        rcases mem_segments_resource h (by simpa [h] using hs) with rfl | hs
        · simp [keywords]
        · exact Or.inr hs
  unfold scopeOf at hs
  split at hs
  · rename_i g name rest
    split at hs
    · simp only [segments, List.mem_append, Option.map_some, Option.getD_some] at hs
      rcases hs with (hs | hs) | hs
      · grind [keywords]
      · rcases List.mem_cons.mp hs with rfl | hs
        · simp [keywords]
        · exact Or.inr (Or.inr ⟨s, by grind, List.prefix_rfl⟩)
      · rcases ofResource rest hs with h | ⟨t, ht, hp⟩
        · exact Or.inl h
        · exact Or.inr (Or.inr ⟨t, by simp [ht], hp⟩)
    · simp only [segments, List.mem_append, Option.map_none, Option.getD_none] at hs
      grind [keywords]
  · simp only [segments, List.mem_append, Option.map_none, Option.getD_none] at hs
    grind [keywords]

/-- The segments of what is read are keywords and beginnings of segments of the text. -/
theorem mem_segments {ss : List Segment} {a : ArmId} {s : Segment} (h : ofSegments? ss = some a)
    (hs : s ∈ a.segments) : s ∈ keywords ∨ ∃ t ∈ ss, s <+: t := by
  unfold ofSegments? at h
  split at h
  · rename_i k subscription rest
    split at h
    · obtain rfl := Option.some.inj h
      rcases mem_segments_scope hs with h | rfl | ⟨t, ht, hp⟩
      · exact Or.inl h
      · exact Or.inr ⟨s, by simp, List.prefix_rfl⟩
      · exact Or.inr ⟨t, by simp [ht], hp⟩
    · cases h
  · cases h

theorem slash_not_mem_segments {cs : List Char} {a : ArmId} (h : parse? cs = some a) {s : Segment}
    (hs : s ∈ a.segments) : '/' ∉ s := by
  have ofKeyword : ∀ k ∈ keywords, '/' ∉ k := by decide +kernel
  rcases mem_segments h hs with hk | ⟨t, ht, hp⟩
  · exact ofKeyword s hk
  · exact fun hc => Text.not_mem_of_mem_split ht (hp.mem hc)

/-- The name of every child ends within the line. -/
theorem newline_not_mem_child {cs : List Char} {a : ArmId} {r : Resource} {c : Child}
    (h : parse? cs = some a) (hr : a.resource = some r) (hc : c ∈ r.children) : '\n' ∉ c.name := by
  have ofResource {ss : List Segment} (h : resourceOf? ss = some r) : '\n' ∉ c.name := by
    unfold resourceOf? at h
    split at h
    · split at h
      · obtain rfl := Option.some.inj h
        rcases mem_childrenOf (s := c.name) hc (by simp [Child.segments]) with hs | hs
        · rw [hs]
          decide +kernel
        · exact (mem_firstLine hs).1
      · cases h
    · cases h
  unfold parse? ofSegments? at h
  split at h
  · split at h
    · obtain rfl := Option.some.inj h
      unfold scopeOf at hr
      split at hr
      · split at hr <;> exact ofResource hr
      · exact ofResource hr
    · cases h
  · cases h

theorem parse?_join {ss : List Segment} (hne : ss ≠ []) (h : ∀ s ∈ ss, '/' ∉ s) :
    parse? (Segment.join ss) = ofSegments? ss := by
  rw [parse?, Segment.split, Segment.join, Text.split_join hne h]

/-- A valid id is spelled like its parts, segment by segment, up to case. -/
theorem split_of_valid? {cs : List Char} {a : ArmId} (h : valid? cs = some a) :
    (Segment.split cs).map Unicode.lower = a.segments.map Unicode.lower := by
  obtain ⟨hp, -, hl⟩ := valid?_eq_some_iff.mp h
  have noSlash : ∀ s ∈ a.segments, '/' ∉ s := fun s hs => slash_not_mem_segments hp hs
  calc (Segment.split cs).map Unicode.lower
      = (Segment.split a.print).map Unicode.lower := by
        rw [← Unicode.lower_split, ← Unicode.lower_split, hl]
    _ = a.segments.map Unicode.lower :=
        congrArg _ (Text.split_join (by simp [segments]) noSlash)

end ArmId

/-! ## Ids of linked services -/

namespace LinkId

/-- No part holds a slash. -/
structure SlashFree (id : LinkId) : Prop where
  subscription : '/' ∉ id.subscription.toList
  group : '/' ∉ id.group.toList
  workspace : '/' ∉ id.workspace.toList
  name : '/' ∉ id.name.toList

/-- The parts can be read back: none holds a slash, the group and the name are there, and the name
is of one line. -/
structure Readable (id : LinkId) : Prop extends SlashFree id where
  hasGroup : id.group ≠ ""
  hasName : id.name ≠ ""
  oneLine : '\n' ∉ id.name.toList

/-- The id among the ids of all resources. -/
def armId (id : LinkId) : ArmId :=
  ⟨id.subscription.toList, some id.group.toList,
    some ⟨providerName.toList, workspaceType.toList, id.workspace.toList,
      [⟨none, linkType.toList, id.name.toList⟩]⟩⟩

theorem toList_print (id : LinkId) : id.print.toList = id.armId.print := by
  simp [print, build?, ArmId.print, ArmId.segments, armId, ArmId.Resource.segments]

theorem segments_armId (id : LinkId) : id.armId.segments =
    [[], "subscriptions".toList, id.subscription.toList, "resourceGroups".toList, id.group.toList,
      "providers".toList, providerName.toList, workspaceType.toList, id.workspace.toList,
      linkType.toList, id.name.toList] := rfl

theorem ofSegments?_armId {id : LinkId} (h : '\n' ∉ id.name.toList) :
    ArmId.ofSegments? id.armId.segments = some id.armId := by
  have line : Segment.firstLine [linkType.toList, id.name.toList] =
      [linkType.toList, id.name.toList] := by
    simp [Segment.firstLine, linkType, h]
  rw [segments_armId]
  simp only [ArmId.ofSegments?, ArmId.scopeOf, ArmId.resourceOf?, ArmId.isKeyword_toList, if_true,
    line, ArmId.childrenOf, armId]

theorem slash_not_mem_armId {id : LinkId} (h : id.SlashFree) :
    ∀ s ∈ id.armId.segments, '/' ∉ s := by
  simp [segments_armId, providerName, workspaceType, linkType, h.subscription, h.group, h.workspace,
    h.name]

theorem split_print {id : LinkId} (h : id.SlashFree) :
    Text.split '/' id.print.toList = id.armId.segments := by
  rw [toList_print]
  exact Text.split_join (by simp [segments_armId]) (slash_not_mem_armId h)

theorem valid?_print {id : LinkId} (h : id.Readable) :
    ArmId.valid? id.print.toList = some id.armId := by
  rw [ArmId.valid?_eq_some_iff, toList_print, ArmId.print,
    ArmId.parse?_join (by simp [segments_armId]) (slash_not_mem_armId h.toSlashFree)]
  exact ⟨ofSegments?_armId h.oneLine, by simp [segments_armId, Text.join], rfl⟩

theorem ofArmId_armId {id : LinkId} (h : id.Readable) : ofArmId id.armId = .ok id := by
  have group : id.group.toList ≠ [] := by simpa using h.hasGroup
  have name : id.name.toList ≠ [] := by simpa using h.hasName
  simp [ofArmId, armId, isWord, group, name]

theorem ofText_print {id : LinkId} (h : id.Readable) : ofText id.print.toList = .ok id := by
  rw [ofText, valid?_print h]
  exact ofArmId_armId h

theorem print_ne_empty (id : LinkId) : id.print ≠ "" := by
  rw [ne_eq, ← String.toList_eq_nil_iff, toList_print]
  simp [ArmId.print, segments_armId, Text.join]

/-- Reading a text, the empty one included. -/
theorem parse_str (s : String) :
    parse (.str s) = (ofText s.toList).mapError fun r => .malformedId (.str s) r.text := by
  by_cases h : s = ""
  · subst h
    rfl
  · simp [parse, Value.truthy, Scalar.truthy, h]

theorem parse_of_ofText {cs : List Char} {id : LinkId} (h : (ofText cs).toOption = some id) :
    parse (.str (String.ofList cs)) = .ok id := by
  rw [parse_str, String.toList_ofList]
  cases ho : ofText cs with
  | error r =>
      rw [ho] at h
      cases h
  | ok link =>
      rw [ho] at h
      obtain rfl := Option.some.inj h
      rfl

/-- Reading undoes writing. -/
theorem parse_print {id : LinkId} (h : id.Readable) : parse (.str id.print) = .ok id := by
  rw [parse_str, ofText_print h]
  rfl

/-! ## What is read -/

/-- Only texts are ids, and they are read as such. -/
theorem parse_eq_ok {v : Value} {id : LinkId} (h : parse v = .ok id) :
    ∃ s, v = .str s ∧ ofText s.toList = .ok id := by
  unfold parse at h
  split at h
  · cases h
  · split at h
    · exact ⟨_, rfl, mapError_eq_ok.mp h⟩
    · cases h

/-- What is read from a valid id: its type and that of its first child are as they should be, and
the group and the name are not empty. -/
structure NamedBy (a : ArmId) (id : LinkId) (provider type : Segment) (child : ArmId.Child)
    (rest : List ArmId.Child) : Prop where
  shape : a = ⟨id.subscription.toList, some id.group.toList,
    some ⟨provider, type, id.workspace.toList, child :: rest⟩⟩
  isWorkspace : isWord workspaceType type = true
  isLink : isWord linkType child.type = true
  childName : child.name = id.name.toList
  hasGroup : id.group ≠ ""
  hasName : id.name ≠ ""

theorem ofArmId_eq_ok {a : ArmId} {id : LinkId} (h : ofArmId a = .ok id) :
    ∃ provider type child rest, NamedBy a id provider type child rest := by
  obtain ⟨subscription, group, _ | ⟨provider, type, name, _ | ⟨child, rest⟩⟩⟩ := a
  · cases h
  · simp only [ofArmId] at h
    split at h <;> cases h
  · simp only [ofArmId] at h
    split at h
    · cases h
    · rename_i hw
      split at h
      · cases h
      · rename_i hl
        split at h
        · cases h
        · rename_i hp
          obtain rfl := Except.ok.inj h
          simp only [Bool.or_eq_true, List.isEmpty_iff, not_or] at hp
          cases group with
          | none => exact absurd rfl hp.1
          | some g =>
              exact ⟨provider, type, child, rest, by simp, by simpa using hw, by simpa using hl,
                by simp, by simpa using hp.1, by simpa using hp.2⟩

theorem readable_of_ofText {cs : List Char} {id : LinkId} (h : ofText cs = .ok id) :
    id.Readable := by
  unfold ofText at h
  split at h
  · cases h
  · rename_i a ha
    obtain ⟨provider, type, child, rest, named⟩ := ofArmId_eq_ok h
    obtain ⟨hp, -, -⟩ := ArmId.valid?_eq_some_iff.mp ha
    have slash {s : Segment} (hs : s ∈ a.segments) : '/' ∉ s := ArmId.slash_not_mem_segments hp hs
    rw [named.shape] at slash
    refine ⟨⟨slash ?_, slash ?_, slash ?_, ?_⟩, named.hasGroup, named.hasName, ?_⟩
    · simp [ArmId.segments]
    · simp [ArmId.segments]
    · simp [ArmId.segments, ArmId.Resource.segments]
    · rw [← named.childName]
      exact slash (by simp [ArmId.segments, ArmId.Resource.segments, ArmId.Child.segments])
    · rw [← named.childName]
      exact ArmId.newline_not_mem_child hp (by rw [named.shape]) (by simp)

theorem readable_of_parse {v : Value} {id : LinkId} (h : parse v = .ok id) : id.Readable := by
  obtain ⟨s, -, hs⟩ := parse_eq_ok h
  exact readable_of_ofText hs

/-! ## Ids up to case -/

/-- Two ids have the same parts up to case. -/
structure SameUpToCase (a b : LinkId) : Prop where
  subscription : Unicode.SameUpToCase a.subscription b.subscription
  group : Unicode.SameUpToCase a.group b.group
  workspace : Unicode.SameUpToCase a.workspace b.workspace
  name : Unicode.SameUpToCase a.name b.name

theorem lower_print (id : LinkId) :
    Unicode.lower id.print.toList = Segment.join (id.armId.segments.map Unicode.lower) := by
  rw [toList_print, ArmId.print]
  exact Unicode.lower_join _

theorem SameUpToCase.print {a b : LinkId} (h : a.SameUpToCase b) :
    Unicode.SameUpToCase a.print b.print := by
  rw [Unicode.sameUpToCase_iff, lower_print, lower_print]
  simp only [segments_armId, List.map_cons, Unicode.sameUpToCase_iff.mp h.subscription,
    Unicode.sameUpToCase_iff.mp h.group, Unicode.sameUpToCase_iff.mp h.workspace,
    Unicode.sameUpToCase_iff.mp h.name]

/-- An id that is read from a text spelled like an id of a linked service has its parts: there is no
room for anything between them or behind. -/
theorem sameUpToCase_of_ofText {cs : List Char} {id named : LinkId} (h : ofText cs = .ok id)
    (hn : named.SlashFree) (hs : Unicode.lower cs = Unicode.lower named.print.toList) :
    id.SameUpToCase named := by
  unfold ofText at h
  split at h
  · cases h
  · rename_i a ha
    obtain ⟨provider, type, child, rest, shape⟩ := ofArmId_eq_ok h
    have segments : a.segments.map Unicode.lower = named.armId.segments.map Unicode.lower := by
      rw [← ArmId.split_of_valid? ha, ← Unicode.lower_split, hs, Unicode.lower_split, split_print hn]
    obtain ⟨under, linkType', name⟩ := child
    rw [shape.shape, segments_armId] at segments
    have name_eq : name = id.name.toList := shape.childName
    cases under with
    | some p =>
        have := congrArg List.length segments
        simp [ArmId.segments, ArmId.Resource.segments] at this
    | none =>
        simp only [ArmId.segments, ArmId.Resource.segments, ArmId.segments_direct, Option.map_some,
          Option.getD_some, List.cons_append, List.nil_append, List.map_cons, List.flatMap_cons,
          List.cons.injEq, true_and] at segments
        obtain ⟨subscription, group, -, -, workspace, -, name, -⟩ := segments
        rw [name_eq] at name
        exact ⟨Unicode.sameUpToCase_iff.mpr subscription, Unicode.sameUpToCase_iff.mpr group,
          Unicode.sameUpToCase_iff.mpr workspace, Unicode.sameUpToCase_iff.mpr name⟩

/-! ## What reading passes over -/

variable {id : LinkId}

/-- The id of a linked service among the ids of all resources, of any provider, with a provider in
front of the linked service if there is one, and with more behind it. -/
def spelled (id : LinkId) (provider : Segment) (under : Option Segment)
    (more : List ArmId.Child) : ArmId :=
  ⟨id.subscription.toList, some id.group.toList,
    some ⟨provider, workspaceType.toList, id.workspace.toList,
      ⟨under, linkType.toList, id.name.toList⟩ :: more⟩⟩

theorem segments_spelled (id : LinkId) (provider : Segment) (under : Option Segment)
    (more : List ArmId.Child) : (id.spelled provider under more).segments =
      [[], "subscriptions".toList, id.subscription.toList, "resourceGroups".toList,
        id.group.toList, "providers".toList, provider, workspaceType.toList,
        id.workspace.toList] ++
      (ArmId.Child.segments ⟨under, linkType.toList, id.name.toList⟩ ++
        more.flatMap ArmId.Child.segments) := rfl

/-- The segments of a valid id are those of the linked service that is read from it, but for what is
passed over. -/
theorem NamedBy.lower_segments {a : ArmId} {provider type : Segment} {child : ArmId.Child}
    {rest : List ArmId.Child} (h : NamedBy a id provider type child rest) :
    a.segments.map Unicode.lower =
      (id.spelled provider child.provider rest).segments.map Unicode.lower := by
  obtain ⟨rfl, isWorkspace, isLink, name, -, -⟩ := h
  simp only [isWord, beq_iff_eq] at isWorkspace isLink
  obtain ⟨under, type', name'⟩ := child
  obtain rfl : name' = id.name.toList := name
  cases under <;>
    simp [ArmId.segments, ArmId.Resource.segments, spelled, isWorkspace, isLink]

theorem segments_ne_nil (c : ArmId.Child) : c.segments ≠ [] := by
  simp [ArmId.Child.segments]

/-- Nothing is passed over exactly where the segments are those of the id that is written. -/
theorem lower_segments_spelled_iff {provider : Segment} {under : Option Segment}
    {more : List ArmId.Child} :
    id.armId.segments.map Unicode.lower =
        (id.spelled provider under more).segments.map Unicode.lower ↔
      isWord providerName provider = true ∧ under = none ∧ more = [] := by
  have other : Unicode.lower linkType.toList ≠ Unicode.lower "providers".toList := by
    decide +kernel
  constructor
  · intro h
    rw [segments_armId, segments_spelled] at h
    cases under with
    | some p =>
        -- a provider in front of the linked service stands where its type would be
        simp only [ArmId.segments_under, List.cons_append, List.nil_append, List.map_cons,
          List.cons.injEq] at h
        exact absurd h.2.2.2.2.2.2.2.2.2.1 other
    | none =>
        simp only [ArmId.segments_direct, List.cons_append, List.nil_append, List.map_cons,
          List.cons.injEq, true_and, List.map_nil] at h
        obtain ⟨own, last⟩ := h
        refine ⟨by simp [isWord, own], rfl, ?_⟩
        have none := List.map_eq_nil_iff.mp last.symm
        cases more with
        | nil => rfl
        | cons c cs => simp [segments_ne_nil] at none
  · rintro ⟨own, rfl, rfl⟩
    simp only [isWord, beq_iff_eq] at own
    simp [segments_armId, segments_spelled, own]

end LinkId

end WorkspaceLink
