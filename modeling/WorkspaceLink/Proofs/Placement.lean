import WorkspaceLink.Proofs.Parts

/-!
# Where the parts of an id stand

The parts that are read from the id of a linked service are segments of the text, letter for letter
and each in its place. The group and the name are never empty; the subscription and the workspace are
whatever stands in their places.
-/

namespace WorkspaceLink

/-! ## Lines -/

theorem Segment.firstLine_eq_self {ss : List Segment} (h : ∀ s ∈ ss, '\n' ∉ s) :
    firstLine ss = ss := by
  induction ss with
  | nil => rfl
  | cons s ss ih =>
      have line : ¬ s.contains '\n' = true := by simpa using h s (by simp)
      rw [firstLine, if_neg line, ih fun t ht => h t (by simp [ht])]

namespace ArmId

variable {cs : List Char} {ss : List Segment}

/-- The first child stands in front, but for a provider of its own. -/
theorem childrenOf_eq_cons {c : Child} {rest : List Child} (h : childrenOf ss = c :: rest) :
    ∃ front more, ss = front ++ c.type :: c.name :: more ∧
      (front = [] ∨ ∃ k p, front = [k, p] ∧ Segment.isKeyword "providers" k = true) := by
  match ss, h with
  | k :: p :: t :: n :: more, h =>
      rw [childrenOf] at h
      split at h
      · rename_i hk
        obtain ⟨rfl, -⟩ := List.cons.inj h
        exact ⟨[k, p], more, rfl, .inr ⟨k, p, rfl, hk⟩⟩
      · obtain ⟨rfl, -⟩ := List.cons.inj h
        exact ⟨[], t :: n :: more, rfl, .inl rfl⟩
  | [t, n], h | [t, n, _], h =>
      obtain ⟨rfl, -⟩ := List.cons.inj h
      exact ⟨[], _, rfl, .inl rfl⟩

/-- The segments of a text from which an id with a group and a resource is read. -/
theorem split_of_parse? {subscription group : Segment} {r : Resource}
    (h : parse? cs = some ⟨subscription, some group, some r⟩) :
    ∃ k₁ k₂ k₃ rest, Segment.split cs =
        [] :: k₁ :: subscription :: k₂ :: group :: k₃ :: r.provider :: r.type :: r.name :: rest ∧
      Segment.isKeyword "subscriptions" k₁ = true ∧ Segment.isKeyword "resourceGroups" k₂ = true ∧
      Segment.isKeyword "providers" k₃ = true ∧ r.children = childrenOf (Segment.firstLine rest) := by
  unfold parse? at h
  generalize Segment.split cs = ss at h
  unfold ofSegments? at h
  split at h
  · rename_i k₁ s rest
    split at h
    · rename_i hk₁
      have scope := Option.some.inj h
      unfold scopeOf at scope
      split at scope
      · rename_i k₂ g rest
        split at scope
        · rename_i hk₂
          obtain ⟨rfl, hg, hr⟩ := ArmId.mk.inj scope
          obtain rfl := Option.some.inj hg
          unfold resourceOf? at hr
          split at hr
          · rename_i k₃ p t n rest
            split at hr
            · rename_i hk₃
              obtain rfl := Option.some.inj hr
              exact ⟨k₁, k₂, k₃, rest, rfl, hk₁, hk₂, hk₃, rfl⟩
            · cases hr
          · cases hr
        · cases (ArmId.mk.inj scope).2.1
      · cases (ArmId.mk.inj scope).2.1
    · cases h
  · cases h

/-- A valid id is of one line behind its resource. -/
theorem newline_not_mem_behind {subscription group : Segment} {r : Resource}
    (h : valid? cs = some ⟨subscription, some group, some r⟩) (front : List Segment)
    (hf : front.length = 9) {rest : List Segment} (hs : Segment.split cs = front ++ rest)
    (hc : r.children = childrenOf (Segment.firstLine rest)) : ∀ s ∈ rest, '\n' ∉ s := by
  -- behind the resource, the id is spelled like its children, which are of one line
  have segments := congrArg (List.drop 9) (split_of_valid? h)
  have behind : rest.map Unicode.lower = (r.children.flatMap Child.segments).map Unicode.lower := by
    rw [hs, List.map_append, List.drop_left' (by simpa using hf)] at segments
    exact segments
  intro s hm
  rw [← Unicode.mem_lower_iff Unicode.isMark_newline]
  obtain ⟨t, ht, same⟩ := List.mem_map.mp (behind ▸ List.mem_map_of_mem hm)
  obtain ⟨c, hc', ht⟩ := List.mem_flatMap.mp ht
  rw [← same, Unicode.mem_lower_iff Unicode.isMark_newline]
  rcases mem_childrenOf (hc ▸ hc') ht with rfl | ht
  · decide +kernel
  · exact (mem_firstLine ht).1

end ArmId

/-! ## Parts in their places -/

namespace LinkId

/-- Segments are those of the id of a linked service: its parts stand in their places, each behind
the word that leads to it, and there may be a provider between the workspace and the linked
service. -/
structure Placed (id : LinkId) (ss : List Segment) : Prop where
  root : ss[0]? = some []
  subscriptions : ∃ k, ss[1]? = some k ∧ Segment.isKeyword "subscriptions" k = true
  subscription : ss[2]? = some id.subscription.toList
  groups : ∃ k, ss[3]? = some k ∧ Segment.isKeyword "resourceGroups" k = true
  group : ss[4]? = some id.group.toList
  providers : ∃ k, ss[5]? = some k ∧ Segment.isKeyword "providers" k = true
  workspaces : ∃ t, ss[7]? = some t ∧ isWord workspaceType t = true
  workspace : ss[8]? = some id.workspace.toList
  link : ∃ i ∈ [9, 11], (∃ t, ss[i]? = some t ∧ isWord linkType t = true) ∧
    ss[i + 1]? = some id.name.toList

theorem placed_of_ofText {cs : List Char} {id : LinkId} (h : ofText cs = .ok id) :
    id.Placed (Segment.split cs) := by
  unfold ofText at h
  split at h
  · cases h
  · rename_i a ha
    obtain ⟨provider, type, child, rest, rfl, isWorkspace, isLink, name, -, -⟩ := ofArmId_eq_ok h
    obtain ⟨k₁, k₂, k₃, behind, hs, hk₁, hk₂, hk₃, hc⟩ :=
      ArmId.split_of_parse? (ArmId.valid?_eq_some_iff.mp ha).1
    have line := ArmId.newline_not_mem_behind ha
      [[], k₁, _, k₂, _, k₃, provider, type, id.workspace.toList] rfl hs hc
    rw [Segment.firstLine_eq_self line] at hc
    obtain ⟨front, more, rfl, hf⟩ := ArmId.childrenOf_eq_cons hc.symm
    rw [hs]
    refine ⟨rfl, ⟨k₁, rfl, hk₁⟩, rfl, ⟨k₂, rfl, hk₂⟩, rfl, ⟨k₃, rfl, hk₃⟩,
      ⟨type, rfl, isWorkspace⟩, rfl, ?_⟩
    rcases hf with rfl | ⟨k, p, rfl, -⟩
    · exact ⟨9, by simp, ⟨child.type, rfl, isLink⟩, congrArg some name⟩
    · exact ⟨11, by simp, ⟨child.type, rfl, isLink⟩, congrArg some name⟩

theorem placed_of_parse {rid : String} {id : LinkId} (h : parse (.str rid) = .ok id) :
    id.Placed (Segment.split rid.toList) := by
  rw [parse_str] at h
  exact placed_of_ofText (mapError_eq_ok.mp h)

def parts (id : LinkId) : List String :=
  [id.subscription, id.group, id.workspace, id.name]

/-- The parts of an id are literally in the text where they have their places. -/
theorem Placed.infix_parts {cs : List Char} {id : LinkId} (h : id.Placed (Segment.split cs)) :
    ∀ part ∈ id.parts, part.toList <:+: cs := by
  have literal {i : Nat} {part : String} (hi : (Segment.split cs)[i]? = some part.toList) :
      part.toList <:+: cs :=
    Text.infix_of_mem_split (List.mem_of_getElem? hi)
  obtain ⟨i, -, -, name⟩ := h.link
  intro part hp
  simp only [parts, List.mem_cons, List.not_mem_nil, or_false] at hp
  rcases hp with rfl | rfl | rfl | rfl
  · exact literal h.subscription
  · exact literal h.group
  · exact literal h.workspace
  · exact literal name

/-! ## Texts that are accepted -/

/-- A text is read as an id, by its segments and by the patterns alike, and the parts of the id are
literally in it. -/
structure Accepted (rid : String) (id : LinkId) : Prop where
  bySegments : parse (.str rid) = .ok id
  byPatterns : ofParts rid.toList = .ok id
  placed : id.Placed (Segment.split rid.toList)
  literal : ∀ part ∈ id.parts, part.toList <:+: rid.toList

/-- A text is refused for a reason, by its segments and by the patterns alike. -/
structure Refused (rid : String) (r : Refusal) : Prop where
  bySegments : parse (.str rid) = .error (.malformedId (.str rid) r.text)
  byPatterns : ofParts rid.toList = .error (.refused r)

theorem accepted_of_ofText {rid : String} {id : LinkId} (h : ofText rid.toList = .ok id) :
    Accepted rid id where
  bySegments := by
    rw [parse_str, h]
    rfl
  byPatterns := by
    rw [ofParts_eq, h]
    rfl
  placed := placed_of_ofText h
  literal := (placed_of_ofText h).infix_parts

theorem refused_of_ofText {rid : String} {r : Refusal} (h : ofText rid.toList = .error r) :
    Refused rid r where
  bySegments := by
    rw [parse_str, h]
    rfl
  byPatterns := by
    rw [ofParts_eq, h]
    rfl

/-! ## Ids that are written -/

/-- Four texts are read back from the id that is written with them exactly if none holds a slash, the
group and the name are not empty, and the name is of one line. -/
theorem read_written_iff (subscription group workspace name : String) :
    (∃ rid, build (.str subscription) (.str group) (.str workspace) (.str name) = .ok rid ∧
      parse (.str rid) = .ok ⟨subscription, group, workspace, name⟩ ∧
      ofParts rid.toList = .ok ⟨subscription, group, workspace, name⟩) ↔
    '/' ∉ subscription.toList ∧ '/' ∉ group.toList ∧ '/' ∉ workspace.toList ∧ '/' ∉ name.toList ∧
      group ≠ "" ∧ name ≠ "" ∧ '\n' ∉ name.toList := by
  constructor
  · rintro ⟨rid, -, read, -⟩
    have readable := readable_of_parse read
    exact ⟨readable.subscription, readable.group, readable.workspace, readable.name,
      readable.hasGroup, readable.hasName, readable.oneLine⟩
  · rintro ⟨subscription, group, workspace, name, hasGroup, hasName, oneLine⟩
    have readable : Readable ⟨_, _, _, _⟩ :=
      ⟨⟨subscription, group, workspace, name⟩, hasGroup, hasName, oneLine⟩
    have accepted := accepted_of_ofText (ofText_print readable)
    exact ⟨_, rfl, accepted.bySegments, accepted.byPatterns⟩

/-! ## Parts that are missing -/

structure Whole (id : LinkId) : Prop where
  subscription : id.subscription ≠ ""
  group : id.group ≠ ""
  workspace : id.workspace ≠ ""
  name : id.name ≠ ""

/-- A value is refused as an id, or read as one with no part missing. -/
def WholeOrRefused (v : Value) : Prop :=
  (∃ r : Refusal, parse v = .error (.malformedId v r.text)) ∨ ∃ id, parse v = .ok id ∧ id.Whole

theorem Placed.whole_iff {id : LinkId} {ss : List Segment} (h : id.Placed ss)
    (readable : id.Readable) : id.Whole ↔ ss[2]? ≠ some [] ∧ ss[8]? ≠ some [] := by
  simp only [h.subscription, h.workspace, ne_eq, Option.some.injEq, String.toList_eq_nil_iff]
  constructor
  · intro whole
    exact ⟨whole.subscription, whole.workspace⟩
  · rintro ⟨subscription, workspace⟩
    exact ⟨subscription, readable.hasGroup, workspace, readable.hasName⟩

theorem parse_ok_or_refused {v : Value} (h : v = .null ∨ ∃ s, v = .str s) :
    (∃ r : Refusal, parse v = .error (.malformedId v r.text)) ∨ ∃ id, parse v = .ok id := by
  rcases h with rfl | ⟨s, rfl⟩
  · exact .inl ⟨.invalid, rfl⟩
  · rw [parse_str]
    cases ofText s.toList with
    | error r => exact .inl ⟨r, rfl⟩
    | ok id => exact .inr ⟨id, rfl⟩

/-- An id that is read has a group and a name. It is whole exactly if there is something in the places
of the subscription and of the workspace, which nothing looks at. -/
theorem whole_or_refused_iff {v : Value} (h : v = .null ∨ ∃ s, v = .str s) :
    (∀ id, parse v = .ok id → id.group ≠ "" ∧ id.name ≠ "") ∧
    (WholeOrRefused v ↔ ∀ rid id, v = .str rid → parse v = .ok id →
      (Segment.split rid.toList)[2]? ≠ some [] ∧ (Segment.split rid.toList)[8]? ≠ some []) := by
  refine ⟨fun id hp => ?_, ?_, ?_⟩
  · have readable := readable_of_parse hp
    exact ⟨readable.hasGroup, readable.hasName⟩
  · rintro (⟨r, refused⟩ | ⟨link, read, whole⟩) rid id rfl hp
    · cases refused.symm.trans hp
    · obtain rfl := Except.ok.inj (read.symm.trans hp)
      exact ((placed_of_parse hp).whole_iff (readable_of_parse hp)).mp whole
  · intro filled
    rcases parse_ok_or_refused h with refused | ⟨id, hp⟩
    · exact .inl refused
    · obtain ⟨rid, rfl, -⟩ := parse_eq_ok hp
      have placed := placed_of_parse hp
      exact .inr ⟨id, hp, (placed.whole_iff (readable_of_parse hp)).mpr (filled rid id rfl hp)⟩

end LinkId

namespace Sample

def unsubscribed : String :=
  "/subscriptions//resourceGroups/rg1/providers/Microsoft.OperationalInsights/workspaces/ws01/linkedServices/automation"

def unhoused : String :=
  "/subscriptions/sub/resourceGroups/rg1/providers/Microsoft.OperationalInsights/workspaces//linkedServices/automation"

theorem parse_unsubscribed :
    LinkId.parse (.str unsubscribed) = .ok ⟨"", "rg1", "ws01", "automation"⟩ :=
  LinkId.parse_of_ofText (by decide +kernel)

theorem parse_unhoused : LinkId.parse (.str unhoused) = .ok ⟨"sub", "rg1", "", "automation"⟩ :=
  LinkId.parse_of_ofText (by decide +kernel)

end Sample

namespace LinkId

theorem not_wholeOrRefused {v : Value} {id : LinkId} (h : parse v = .ok id) (part : ¬ id.Whole) :
    ¬ WholeOrRefused v := by
  rintro (⟨r, refused⟩ | ⟨link, read, whole⟩)
  · cases refused.symm.trans h
  · obtain rfl := Except.ok.inj (read.symm.trans h)
    exact part whole

/-- Ids without a subscription and without the name of a workspace are read. -/
theorem missing_parts_read :
    ¬ WholeOrRefused (.str Sample.unsubscribed) ∧ ¬ WholeOrRefused (.str Sample.unhoused) :=
  ⟨not_wholeOrRefused Sample.parse_unsubscribed fun whole => whole.subscription rfl,
    not_wholeOrRefused Sample.parse_unhoused fun whole => whole.workspace rfl⟩

/-- The id of a linked service in a workspace without a name. -/
theorem whole_or_refused_iff_unhoused :
    (∀ id, parse (.str Sample.unhoused) = .ok id → id.group ≠ "" ∧ id.name ≠ "") ∧
    (WholeOrRefused (.str Sample.unhoused) ↔
      ∀ rid id, Value.str Sample.unhoused = .str rid → parse (.str Sample.unhoused) = .ok id →
        (Segment.split rid.toList)[2]? ≠ some [] ∧ (Segment.split rid.toList)[8]? ≠ some []) :=
  whole_or_refused_iff (.inr ⟨Sample.unhoused, rfl⟩)

end LinkId

end WorkspaceLink
