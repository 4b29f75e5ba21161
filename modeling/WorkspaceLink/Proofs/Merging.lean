import WorkspaceLink.Proofs.Reading
import WorkspaceLink.Yaml.Document

/-!
# Entries taken over

Building a document changes its nodes: mappings take over entries from others, and the key of the
text that stands for a mapping becomes a text. What then still takes over entries or stands for a
mapping did so in the document. A mapping whose entries have been taken over has none of either.
-/

namespace WorkspaceLink.Yaml

/-! ## Nodes after a change -/

namespace Nodes

variable {ns ms ls : Nodes} {id j k : NodeId} {es : List (NodeId × NodeId)}

theorem node_setIfInBounds (h : id < ns.size) (n : Node) (j : NodeId) :
    node (ns.setIfInBounds id n) j = if j = id then n else ns.node j := by
  unfold node
  rw [Array.getElem?_setIfInBounds]
  split
  · rename_i same
    rw [if_pos same.symm]
    simp
  · rename_i other
    rw [if_neg fun same => other same.symm]

theorem node_eq_empty (h : ¬ id < ns.size) : ns.node id = .empty := by
  rw [node, Array.getElem?_eq_none (Nat.le_of_not_lt h)]
  rfl

theorem lt_size_of_entries? (h : ns.entries? id = some es) : id < ns.size := by
  by_cases hid : id < ns.size
  · exact hid
  · rw [entries?, node_eq_empty hid] at h
    nomatch h

theorem lt_size_of_tag (h : ns.tag id = .value) : id < ns.size := by
  by_cases hid : id < ns.size
  · exact hid
  · rw [tag, node_eq_empty hid] at h
    nomatch h

theorem entries?_eq_some_iff : ns.entries? id = some es ↔ (ns.node id).content = .mapping es := by
  unfold entries?
  split
  · rename_i es' hes
    rw [hes, Option.some.injEq, Content.mapping.injEq]
  · rename_i other
    exact iff_of_false nofun (other es)

theorem tag_setContent (h : id < ns.size) (c : Content) (j : NodeId) :
    (ns.setContent id c).tag j = ns.tag j := by
  unfold setContent tag
  rw [node_setIfInBounds h]
  split
  · rename_i same
    rw [same]
  · rfl

theorem content_setContent (h : id < ns.size) (c : Content) (j : NodeId) :
    ((ns.setContent id c).node j).content = if j = id then c else (ns.node j).content := by
  unfold setContent
  rw [node_setIfInBounds h]
  split <;> rfl

theorem tag_setTag (h : id < ns.size) (t : Tag) (j : NodeId) :
    (ns.setTag id t).tag j = if j = id then t else ns.tag j := by
  unfold setTag
  rw [tag, node_setIfInBounds h]
  split <;> rfl

theorem content_setTag (h : id < ns.size) (t : Tag) (j : NodeId) :
    ((ns.setTag id t).node j).content = (ns.node j).content := by
  unfold setTag
  rw [node_setIfInBounds h]
  split
  · rename_i same
    rw [same]
  · rfl

theorem entries?_setContent_same (h : id < ns.size) (es : List (NodeId × NodeId)) :
    (ns.setContent id (.mapping es)).entries? id = some es := by
  rw [entries?_eq_some_iff, content_setContent h, if_pos rfl]

theorem entries?_setContent_other (h : id < ns.size) (c : Content) (hj : j ≠ id) :
    (ns.setContent id c).entries? j = ns.entries? j := by
  unfold entries?
  rw [content_setContent h, if_neg hj]

theorem entries?_setTag (h : id < ns.size) (t : Tag) (j : NodeId) :
    (ns.setTag id t).entries? j = ns.entries? j := by
  unfold entries?
  rw [content_setTag h]

/-! ## Plain keys -/

/-- A node is no key of entries that are taken over, nor of the text that stands for a mapping. -/
def IsPlain (ns : Nodes) (k : NodeId) : Prop := ns.tag k ≠ .merge ∧ ns.tag k ≠ .value

/-- The keys of a mapping are plain. -/
def PlainAt (ns : Nodes) (id : NodeId) : Prop :=
  ∀ es, ns.entries? id = some es → ∀ e ∈ es, ns.IsPlain e.1

/-- Some tags of the text that stands for a mapping have become tags of texts. -/
def Retagged (ns ms : Nodes) : Prop :=
  ∀ j, ms.tag j = ns.tag j ∨ (ns.tag j = .value ∧ ms.tag j = .str)

/-- Nodes after some mappings have taken over entries: the keys of those are plain. -/
structure Onto (ns ms : Nodes) : Prop where
  tags : ns.Retagged ms
  entries : ∀ j, ms.entries? j = ns.entries? j ∨ ms.PlainAt j

theorem Retagged.refl : ns.Retagged ns := fun _ => .inl rfl

theorem Retagged.trans (h : ns.Retagged ms) (h' : ms.Retagged ls) : ns.Retagged ls := by
  intro j
  rcases h j with same | ⟨value, str⟩
  · rw [← same]
    exact h' j
  · rcases h' j with same' | ⟨value', -⟩
    · exact .inr ⟨value, same'.trans str⟩
    · rw [str] at value'
      nomatch value'

theorem Retagged.isPlain (h : ns.Retagged ms) (hk : ns.IsPlain k) : ms.IsPlain k := by
  rcases h k with same | ⟨value, -⟩
  · rwa [IsPlain, same]
  · exact absurd value hk.2

theorem PlainAt.of_entries? (h : ns.PlainAt j) (tags : ns.Retagged ms)
    (same : ms.entries? j = ns.entries? j) : ms.PlainAt j :=
  fun es hes e he => tags.isPlain (h es (same ▸ hes) e he)

theorem Onto.refl : ns.Onto ns := ⟨.refl, fun _ => .inl rfl⟩

theorem Onto.plainAt (h : ns.Onto ms) (hj : ns.PlainAt j) : ms.PlainAt j := by
  rcases h.entries j with same | plain
  · exact hj.of_entries? h.tags same
  · exact plain

theorem Onto.trans (h : ns.Onto ms) (h' : ms.Onto ls) : ns.Onto ls := by
  refine ⟨h.tags.trans h'.tags, fun j => ?_⟩
  rcases h.entries j with same | plain
  · rcases h'.entries j with same' | plain'
    · exact .inl (same'.trans same)
    · exact .inr plain'
  · exact .inr (h'.plainAt plain)

theorem retagged_setTag (hk : ns.tag k = .value) : ns.Retagged (ns.setTag k .str) := by
  intro j
  rw [tag_setTag (lt_size_of_tag hk)]
  split
  · rename_i same
    exact .inr ⟨same ▸ hk, rfl⟩
  · exact .inl rfl

/-- Nodes that come from those of a document: they hold what they held there, but for entries of
mappings that have plain keys. -/
structure From (ns ms : Nodes) : Prop where
  tags : ns.Retagged ms
  content : ∀ j, (ms.node j).content = (ns.node j).content ∨
    ∃ es es', ns.entries? j = some es ∧ ms.entries? j = some es'
  entry : ∀ j es', ms.entries? j = some es' → ∀ e ∈ es', ¬ ms.IsPlain e.1 →
    ∃ es, ns.entries? j = some es ∧ e ∈ es

theorem From.refl : From ns ns :=
  ⟨.refl, fun _ => .inl rfl, fun _ es hes _ he _ => ⟨es, hes, he⟩⟩

theorem From.setTag (h : From ns ms) (hk : ms.tag k = .value) : From ns (ms.setTag k .str) := by
  have inside := lt_size_of_tag hk
  refine ⟨h.tags.trans (retagged_setTag hk), fun j => ?_, fun j es' hes' e he special => ?_⟩
  · rw [content_setTag inside, entries?_setTag inside]
    exact h.content j
  · rw [entries?_setTag inside] at hes'
    exact h.entry j es' hes' e he fun plain => special ((retagged_setTag hk).isPlain plain)

/-- A mapping can be given entries that are plain or that it had before. -/
theorem From.setContent {before : List (NodeId × NodeId)} (h : From ns ms)
    (held : ms.entries? id = some before) (fit : ∀ e ∈ es, ms.IsPlain e.1 ∨ e ∈ before) :
    From ns (ms.setContent id (.mapping es)) := by
  have inside := lt_size_of_entries? held
  have tags : ms.Retagged (ms.setContent id (.mapping es)) :=
    fun j => .inl (tag_setContent inside _ j)
  refine ⟨h.tags.trans tags, fun j => ?_, fun j es' hes' e he special => ?_⟩
  · by_cases hj : j = id
    · refine .inr ?_
      rw [hj, entries?_setContent_same inside]
      rcases h.content id with same | ⟨es₀, -, hes₀, -⟩
      · exact ⟨before, es, entries?_eq_some_iff.mpr (same ▸ entries?_eq_some_iff.mp held), rfl⟩
      · exact ⟨es₀, es, hes₀, rfl⟩
    · rw [content_setContent inside, if_neg hj, entries?_setContent_other inside _ hj]
      exact h.content j
  · have notPlain : ¬ ms.IsPlain e.1 := fun plain => special (tags.isPlain plain)
    by_cases hj : j = id
    · rw [hj, entries?_setContent_same inside] at hes'
      rcases fit e (Option.some.inj hes' ▸ he) with plain | old
      · exact absurd plain notPlain
      · exact hj ▸ h.entry id before held e old notPlain
    · rw [entries?_setContent_other inside _ hj] at hes'
      exact h.entry j es' hes' e he notPlain

theorem From.sequence {items : List NodeId} (h : From ns ms)
    (hj : (ms.node j).content = .sequence items) : (ns.node j).content = .sequence items := by
  rcases h.content j with same | ⟨_, es', -, hes'⟩
  · exact same.symm.trans hj
  · rw [entries?_eq_some_iff, hj] at hes'
    nomatch hes'

end Nodes

/-! ## Ways from node to node -/

/-- From a node so many steps lead on. -/
inductive Way (step : NodeId → NodeId → Prop) : Nat → NodeId → Prop where
  | here (id : NodeId) : Way step 0 id
  | on {n : Nat} {id next : NodeId} (first : step id next) (rest : Way step n next) :
      Way step (n + 1) id

/-- Why what a way leads to cannot be told, where so many of its steps may be taken. -/
inductive Way.Cause (step : NodeId → NodeId → Prop) (n : Nat) (id : NodeId) : Fault → Prop where
  | malformed : Cause step n id .malformed
  | endless (way : Way step n id) : Cause step n id .tooDeep

theorem Way.Cause.on {step : NodeId → NodeId → Prop} {n : Nat} {id next : NodeId}
    (first : step id next) (f : Fault) (h : Cause step n next f) : Cause step (n + 1) id f := by
  cases h with
  | malformed => exact .malformed
  | endless way => exact .endless (.on first way)

/-- A mapping takes over the entries of a node, by itself or as one of a sequence. -/
inductive Nodes.Takes (ns : Nodes) (id : NodeId) : NodeId → Prop where
  | mapping {es : List (NodeId × NodeId)} {k v : NodeId} (held : ns.entries? id = some es)
      (entry : (k, v) ∈ es) (key : ns.tag k = .merge) : Takes ns id v
  | item {es : List (NodeId × NodeId)} {k v item : NodeId} {items : List NodeId}
      (held : ns.entries? id = some es) (entry : (k, v) ∈ es) (key : ns.tag k = .merge)
      (sequence : (ns.node v).content = .sequence items) (member : item ∈ items) : Takes ns id item

/-! ## Taking over -/

namespace Builder

variable {ns : Nodes} {E : Fault → Prop} {b b₀ : Builder} {id v : NodeId}
  {merge : NodeId → Build Unit}

/-- A builder that has gone on from another, with nodes that come from those of a document. -/
structure After (ns : Nodes) (b₀ b : Builder) : Prop where
  nodes : Nodes.From ns b.nodes
  onto : b₀.nodes.Onto b.nodes

theorem After.refl (h : Nodes.From ns b.nodes) : After ns b b := ⟨h, .refl⟩

theorem After.trans {b₁ : Builder} (h : After ns b₀ b) (h' : After ns b b₁) : After ns b₀ b₁ :=
  ⟨h'.nodes, h.onto.trans h'.onto⟩

end Builder

end WorkspaceLink.Yaml
