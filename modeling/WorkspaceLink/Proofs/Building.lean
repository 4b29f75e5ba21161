import WorkspaceLink.Proofs.Merging

/-!
# How the value of a document cannot be built

A document has no value where its nodes do not fit together, where a scalar does not spell what it
announces, or where the way from mapping to mapping is too long: that of entries taken over, or that
of texts that stand for mappings. Each is told of the nodes as they were read, although building
changes them.
-/

namespace WorkspaceLink.Yaml

/-! ## Texts of nodes -/

/-- A node stands for a mapping that it is the value of in one of its entries. -/
def Nodes.StandsFor (ns : Nodes) (id next : NodeId) : Prop :=
  ∃ es, ns.entries? id = some es ∧ ∃ k, (k, next) ∈ es ∧ ns.tag k = .value

/-- A node spells a text: its own, or that of a node that stands for it. -/
inductive Nodes.Spells (ns : Nodes) : NodeId → List Char → Prop where
  | own {id : NodeId} {cs : List Char} (h : (ns.node id).content = .scalar cs) : Spells ns id cs
  | standing {id next : NodeId} {cs : List Char} (first : ns.StandsFor id next)
      (rest : Spells ns next cs) : Spells ns id cs

/-- A scalar of a document does not spell what it announces, or a mapping announces a time. -/
inductive Graph.Misspelt (g : Graph) : ScalarFault → Prop where
  | scalar {id : NodeId} {read : List Char → Except Fault Scalar} {cs : List Char}
      {e : ScalarFault} (announced : (g.nodes.tag id).reader? = some read)
      (spelled : g.nodes.Spells id cs) (h : read cs = .error (.scalar e)) : Misspelt g e
  | time {id : NodeId} {es : List (NodeId × NodeId)} (announced : g.nodes.tag id = .timestamp)
      (mapping : g.nodes.entries? id = some es) : Misspelt g .notText

/-- The way from mapping to mapping is too long: each takes over entries from the next, or the next
stands for each. -/
inductive Graph.Endless [Host] (g : Graph) : Prop where
  | merging {id : NodeId} (way : Way g.nodes.Takes (Host.merging + 1) id) : Endless g
  | standing {id : NodeId} (way : Way g.nodes.StandsFor (Host.standing + 1) id) : Endless g

/-- Why the value of a document cannot be built. -/
inductive Graph.Unbuilt [Host] (g : Graph) : Fault → Prop where
  | malformed : Unbuilt g .malformed
  | misspelt {e : ScalarFault} (h : g.Misspelt e) : Unbuilt g (.scalar e)
  | endless (h : g.Endless) : Unbuilt g .tooDeep

theorem Nodes.From.scalar {ns ms : Nodes} {id : NodeId} {cs : List Char} (h : From ns ms)
    (hid : (ms.node id).content = .scalar cs) : (ns.node id).content = .scalar cs := by
  rcases h.content id with same | ⟨_, es', -, hes'⟩
  · exact same.symm.trans hid
  · rw [entries?_eq_some_iff, hid] at hes'
    nomatch hes'

namespace Builder

variable [Host] {g : Graph}

/-- A step of building goes on from nodes that come from those of a document to such nodes and to a
result with a property, or has a cause to stop. -/
def Builds (g : Graph) (P : α → Prop) (m : Build α) : Prop :=
  Leads g.Unbuilt (fun b => Nodes.From g.nodes b.nodes)
    (fun a b => Nodes.From g.nodes b.nodes ∧ P a) m

namespace Builds

variable {P : α → Prop} {Q : β → Prop}

theorem pure {a : α} (h : P a) : Builds g P (Pure.pure a) := Leads.pure fun _ hb => ⟨hb, h⟩

theorem throw {e : Fault} (h : g.Unbuilt e) : Builds g P (MonadExcept.throw e) :=
  Leads.throw fun _ _ => h

theorem throw_bind {e : Fault} {f : α → Build β} (h : g.Unbuilt e) :
    Builds g Q ((MonadExcept.throw e : Build α) >>= f) := Leads.throw_bind fun _ _ => h

theorem bind {m : Build α} {f : α → Build β} (hm : Builds g P m)
    (hf : ∀ a, P a → Builds g Q (f a)) : Builds g Q (m >>= f) :=
  hm.bind_at fun a _ h => (hf a h.2).pre fun _ hb => hb ▸ h.1

theorem get_bind {f : Builder → Build β}
    (hf : ∀ b, Nodes.From g.nodes b.nodes → Builds g Q (f b)) :
    Builds g Q (MonadState.get >>= f) :=
  Leads.get_bind fun b hb => (hf b hb).pre fun _ h => h ▸ hb

theorem ite {c : Prop} [Decidable c] {m m' : Build α} (hm : Builds g P m) (hm' : Builds g P m') :
    Builds g P (if c then m else m') := Leads.ite hm hm'

/-- A step that changes no nodes. -/
theorem modify {f : Builder → Builder} (h : ∀ b, (f b).nodes = b.nodes) :
    Builds g (fun _ => True) (modify f) :=
  Leads.modify fun b hb => ⟨(h b).symm ▸ hb, trivial⟩

theorem mapM {f : α → Build β} (hf : ∀ a, Builds g (fun _ => True) (f a)) (as : List α) :
    Builds g (fun _ => True) (as.mapM f) := by
  induction as with
  | nil => exact .pure trivial
  | cons a as ih =>
      rw [List.mapM_cons]
      exact (hf a).bind fun _ _ => ih.bind fun _ _ => .pure trivial

theorem forM {f : α → Build PUnit} (hf : ∀ a, Builds g (fun _ => True) (f a)) (as : List α) :
    Builds g (fun _ => True) (as.forM f) := by
  induction as with
  | nil => exact .pure trivial
  | cons a as ih => exact (hf a).bind fun _ _ => ih

theorem foldlM {f : β → α → Build β} (hf : ∀ b a, Builds g (fun _ => True) (f b a)) (as : List α)
    (b : β) : Builds g (fun _ => True) (as.foldlM f b) := by
  induction as generalizing b with
  | nil => exact .pure trivial
  | cons a as ih =>
      rw [List.foldlM_cons]
      exact (hf b a).bind fun _ _ => ih _

end Builds

/-! ## Scalars -/

end Builder

/-! ## Documents -/

/-- A document has collections inside one another, or ways from mapping to mapping, that are too
deep for the machine. -/
def Deep [Host] (s : Source) : Prop :=
  Token.Nested s ∨ ∃ g, Graph.ofSource? s = .ok (some g) ∧ g.Endless

/-- A document has something that does not spell what it announces. -/
def Misspelt [Host] (s : Source) (e : ScalarFault) : Prop :=
  Token.Misspelt s e ∨ ∃ g, Graph.ofSource? s = .ok (some g) ∧ g.Misspelt e

/-- Why a text has no value. -/
inductive Cause [Host] (s : Source) : Fault → Prop where
  | malformed : Cause s .malformed
  | truncated : Cause s .truncated
  | cut {f : Fault} (h : s.cut = some f) : Cause s f
  | deep (h : Deep s) : Cause s .tooDeep
  | misspelt {e : ScalarFault} (h : Misspelt s e) : Cause s (.scalar e)

end WorkspaceLink.Yaml
