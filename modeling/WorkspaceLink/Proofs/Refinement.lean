import Mathlib.Data.List.Forall2
import Mathlib.Logic.Function.Basic
import WorkspaceLink.Proofs.Operations
import WorkspaceLink.Proofs.Tracking
import WorkspaceLink.Session

/-!
# A store as a map

Whatever sequence of operations is run on a store, it acts as a map from keys to bindings: creating
binds the key of a configuration, deleting unbinds the key that an id names, and reading shows what
is bound there.
-/

namespace WorkspaceLink

/-! ## Maps of bindings -/

/-- What a linked service is known by under its key: its resource and its tags. -/
structure Binding where
  resourceId : Value
  tags : Fields

abbrev Bindings := Store.Key → Option Binding

/-- What an operation is on a map of bindings. -/
inductive Operation where
  | bind (c : Config)
  | look (link : LinkId)
  | unbind (link : LinkId)

namespace Operation

def next : Operation → Bindings → Bindings
  | bind c, b => Function.update b c.item.key (some ⟨c.resourceId, c.tags.toFields⟩)
  | look _, b => b
  | unbind link, b => Function.update b link.key none

/-- A snapshot is the answer of an operation on a map: it shows the configuration that was bound, or
what is bound under a key. -/
def Answers : Operation → Bindings → Snapshot → Prop
  | bind c, _, t => ∃ id data, t = .present id data ∧
      ∀ f ∈ Field.configurable, data.field? f.key = some (c.value f)
  | look link, b, t =>
    match b link.key with
    | none => t = .absent
    | some bound => ∃ id data, t = .present id data ∧
        data.field? Field.properties.key = some (.map (propertiesOf bound.resourceId)) ∧
        data.field? Field.tags.key = some (.map bound.tags)
  | unbind _, _, t => t = .absent

/-- Operations that all succeed, with their answers, lead from one map to another. -/
inductive Agree : List Operation → Bindings → List (Except Fault Snapshot) → Bindings → Prop
  | nil {b : Bindings} : Agree [] b [] b
  | cons {op : Operation} {ops : List Operation} {b b' : Bindings} {t : Snapshot}
      {results : List (Except Fault Snapshot)} : op.Answers b t → Agree ops (op.next b) results b' →
      Agree (op :: ops) b (.ok t :: results) b'

theorem Agree.eq_foldl {ops : List Operation} {b b' : Bindings}
    {results : List (Except Fault Snapshot)} (h : Agree ops b results b') :
    b' = ops.foldl (fun b op => op.next b) b := by
  induction h with
  | nil => rfl
  | cons _ _ ih => exact ih

end Operation

/-! ## Sessions -/

namespace Step

/-- What a step does to a map, if its configuration was decoded or its id can be read. -/
inductive Means [Host] : Step → Operation → Prop
  | createOrUpdate {raw : Value} {c : Config} {from? : Option Snapshot} :
      Config.decode raw = .ok c → Means (.createOrUpdate c from?) (.bind c)
  | read {id : Value} {link : LinkId} : LinkId.parse id = .ok link →
      Means (.read (some id)) (.look link)
  | importExisting {id : Value} {link : LinkId} : LinkId.parse id = .ok link →
      Means (.importExisting (some id)) (.look link)
  | delete {id : Value} {link : LinkId} : LinkId.parse id = .ok link →
      Means (.delete (some id)) (.unbind link)

end Step

namespace Store

variable {s : Store} {c : Config} {link : LinkId} {i : Item}

/-- The map of bindings that a store is. -/
def bindings (s : Store) : Bindings :=
  fun k => (s.items.find? k).map fun i => ⟨i.resourceId, i.flatTags⟩

/-! ## Single operations -/

theorem bindings_put_config : (s.put c.item).bindings = (Operation.bind c).next s.bindings := by
  have tags : c.item.flatTags = c.tags.toFields := by
    simp only [Item.flatTags, Config.item, Tags.toValue, Tags.flatten_map]
    rfl
  funext k
  simp only [bindings, put, Items.find?_insert, Operation.next, Function.update_apply]
  by_cases hk : k = c.item.key
  · rw [if_pos hk.symm, if_pos hk, Option.map_some, tags]
    rfl
  · rw [if_neg (Ne.symm hk), if_neg hk]

theorem bindings_remove : (s.remove link.key).bindings = (Operation.unbind link).next s.bindings := by
  funext k
  simp only [bindings, remove, Items.find?_erase, Operation.next, Function.update_apply]
  by_cases hk : k = link.key
  · rw [if_pos hk.symm, if_pos hk, Option.map_none]
  · rw [if_neg (Ne.symm hk), if_neg hk]

theorem answers_bind (hc : c.Addressable) (subscription : String) (b : Bindings) :
    (Operation.bind c).Answers b (c.snapshot subscription) := by
  obtain ⟨hg, hw, hn⟩ := hc.texts
  refine ⟨_, _, rfl, fun f hf => ?_⟩
  rw [Remote.field?_data]
  congr 1
  cases f with
  | group => exact hg.symm
  | workspace => exact hw.symm
  | name => exact hn.symm
  | properties =>
      rw [Remote.dataValue, Config.value, Config.properties, hc.resource]
      rfl
  | reportedName => exact absurd hf (by decide)
  | tags => rfl

theorem answers_look (hp : s.Plain) {id : Value} (h : LinkId.parse id = .ok link) (b : Bool) :
    ∃ t, ((manager b).read id s).result = .ok t ∧ (Operation.look link).Answers s.bindings t := by
  cases hi : s.items.find? link.key with
  | none =>
      refine ⟨_, (Manager.read_of_not_found h (get_missing hi) rfl).1, ?_⟩
      simp [Operation.Answers, bindings, hi]
  | some i =>
      rw [read_plain h hi (hp.of_find? hi)]
      refine ⟨_, rfl, ?_⟩
      simp only [Operation.Answers, bindings, hi, Option.map_some]
      exact ⟨_, _, rfl, Remote.field?_data .properties, Remote.field?_data .tags⟩

/-- A course on a store gave the answer of an operation on a map, and did to the store what the
operation does to the map. -/
structure Simulates (s : Store) (op : Operation) (course : Course Store Snapshot) : Prop where
  answers : ∃ t, course.result = .ok t ∧ op.Answers s.bindings t
  next : course.service.bindings = op.next s.bindings
  plain : course.service.Plain
  subscription : course.service.subscription = s.subscription

theorem simulates_read (hp : s.Plain) {id : Value} (h : LinkId.parse id = .ok link) (b : Bool) :
    s.Simulates (.look link) ((manager b).read id s) where
  answers := answers_look hp h b
  next := by
    rw [service_read]
    rfl
  plain := by
    rw [service_read]
    exact hp
  subscription := by rw [service_read]

theorem step_refines [Host] {step : Step} {op : Operation} (h : step.Means op) (hp : s.Plain)
    (hs : '/' ∉ s.subscription.toList) (tracked : Snapshot) :
    s.Simulates op (step.run (manager false) tracked s) := by
  cases h with
  | createOrUpdate hc =>
      have addressable := Config.addressable_of_decode hc
      rw [Step.run, createOrUpdate_unchecked addressable hs (Bool.false_and _)]
      exact ⟨⟨_, rfl, answers_bind addressable _ _⟩, bindings_put_config, hp.put (.inr ⟨_, rfl⟩), rfl⟩
  | read hid => exact simulates_read hp hid false
  | importExisting hid => exact simulates_read hp hid false
  | delete hid =>
      rw [Step.run, Option.getD_some, Action.bind_ok (delete_of_parse hid s)]
      exact ⟨⟨_, rfl, rfl⟩, bindings_remove, hp.remove _, rfl⟩

/-! ## Runs -/

theorem agree_runAll [Host] {steps : List Step} {ops : List Operation}
    (h : List.Forall₂ Step.Means steps ops) (hp : s.Plain) (hs : '/' ∉ s.subscription.toList)
    (tracked : Snapshot) :
    Operation.Agree ops s.bindings (Step.runAll (manager false) tracked steps s).1
      (Step.runAll (manager false) tracked steps s).2.bindings := by
  -- a step keeps the subscription and tags that can be read, and no more is asked of the store
  induction h generalizing s tracked with
  | nil => exact .nil
  | @cons step op steps ops hstep _ ih =>
      have simulated := step_refines hstep hp hs tracked
      obtain ⟨t, result, answers⟩ := simulated.answers
      have rest := ih simulated.plain (simulated.subscription ▸ hs)
        (Step.trackedAfter tracked (step.run (manager false) tracked s))
      rw [simulated.next] at rest
      rw [Step.runAll, result]
      exact .cons answers rest

/-- A store that is run through a session is a map that is run through what its steps mean: all of
them succeed with the answers of the map, and lead to the map that the store is then. Reading and
importing leave any store as it is, and deleting again does what deleting once does. -/
theorem run_refines [Host] {steps : List Step} {ops : List Operation}
    (h : List.Forall₂ Step.Means steps ops) (hp : s.Plain) (hs : '/' ∉ s.subscription.toList)
    (tracked : Snapshot) :
    Operation.Agree ops s.bindings (Step.runAll (manager false) tracked steps s).1
        (Step.runAll (manager false) tracked steps s).2.bindings ∧
      (∀ (u : Store) (id : Value), ((manager false).read id u).service = u ∧
        ((manager false).importExisting id u).service = u) ∧
      ∀ (u : Store) {id : Value} {link : LinkId}, LinkId.parse id = .ok link →
        ((manager false).delete id u).result = .ok () ∧
        ((manager false).delete id ((manager false).delete id u).service).result = .ok () ∧
        ((manager false).delete id ((manager false).delete id u).service).service =
          ((manager false).delete id u).service := by
  refine ⟨agree_runAll h hp hs tracked, fun u id => ⟨service_read _ _, service_read _ _⟩, ?_⟩
  intro u id link hid
  simp only [delete_of_parse hid]
  exact ⟨trivial, trivial, remove_remove u _⟩

end Store

namespace Sample

open Store

theorem plain_store : store.Plain :=
  plain_ofItems (by simp [Item.Plain, item])

theorem parse_wanted : LinkId.parse (.str (link "ws02").print) = .ok (link "ws02") :=
  LinkId.parse_print
    ⟨⟨by decide, by decide, by decide, by decide⟩, by decide, by decide, by decide⟩

/-- A linked service is read and another one written over; the first is deleted twice and the second
is taken over. -/
def session : List Step :=
  [.read (some (.str (link "ws01").print)), .createOrUpdate config none,
    .delete (some (.str (link "ws01").print)), .delete (some (.str (link "ws01").print)),
    .importExisting (some (.str (link "ws02").print))]

def operations : List Operation :=
  [.look (link "ws01"), .bind config, .unbind (link "ws01"), .unbind (link "ws01"),
    .look (link "ws02")]

theorem means_session : List.Forall₂ Step.Means session operations :=
  .cons (.read parse_link) <| .cons (.createOrUpdate decode_raw) <| .cons (.delete parse_link) <|
    .cons (.delete parse_link) <| .cons (.importExisting parse_wanted) .nil

end Sample

namespace Store

/-- After the session the first linked service is gone and the second one is what was wanted. -/
theorem run_refines_session :
    List.Forall₂ Step.Means Sample.session Sample.operations ∧ Sample.store.Plain ∧
      Operation.Agree Sample.operations Sample.store.bindings
        (Step.runAll (manager false) Sample.tracked Sample.session Sample.store).1
        (Step.runAll (manager false) Sample.tracked Sample.session Sample.store).2.bindings ∧
      (Step.runAll (manager false) Sample.tracked Sample.session Sample.store).2.bindings
        (Sample.link "ws01").key = none ∧
      (Step.runAll (manager false) Sample.tracked Sample.session Sample.store).2.bindings
        Sample.config.item.key = some ⟨.str Sample.account, [(.str "env", .str "prod")]⟩ := by
  have agree := (run_refines Sample.means_session Sample.plain_store (by decide) Sample.tracked).1
  have other : Sample.config.item.key ≠ (Sample.link "ws01").key := by decide +kernel
  refine ⟨Sample.means_session, Sample.plain_store, agree, ?_, ?_⟩
  · rw [agree.eq_foldl]
    simp only [Sample.operations, List.foldl_cons, List.foldl_nil, Operation.next,
      Function.update_self]
  · rw [agree.eq_foldl]
    simp only [Sample.operations, List.foldl_cons, List.foldl_nil, Operation.next,
      Function.update_of_ne other, Function.update_self]
    rfl

end Store

end WorkspaceLink
