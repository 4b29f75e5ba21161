import WorkspaceLink.Command.Run
import WorkspaceLink.Proofs.Matching

/-!
# Arguments over a file

What a file holds under the keys that arguments are put over does not matter to a creation, as long
as the mapping in the file does not hold itself under another key. The arguments are written into
the mapping as it was loaded, so they are met again wherever it holds itself.
-/

namespace WorkspaceLink

/-! ## Keys that are put over others -/

namespace Fields

variable {fs : Fields} {key name : String}

theorem field?_insert (fs : Fields) (key : String) (v : Value) (name : String) :
    (fs.insert (.str key) v).field? name = if key = name then some v else fs.field? name := by
  induction fs with
  | nil => by_cases h : key = name <;> simp [insert, field?, get?, h]
  | cons e rest ih =>
      obtain ⟨k, w⟩ := e
      rw [insert]
      split
      · rename_i same
        obtain rfl := Scalar.same_str_iff.mp same
        by_cases h : key = name <;> simp [field?, get?, h]
      · rename_i other
        by_cases hk : k.same (.str name) = true
        · have ne : key ≠ name := by
            rintro rfl
            exact other hk
          rw [if_neg ne, field?, field?, get?_cons_same hk, get?_cons_same hk]
        · have apart : k.same (.str name) = false := by simpa using hk
          rw [field?, get?_cons_other apart, ← field?, ih, field?, field?, get?_cons_other apart]

theorem mem_keys_insert {k : Scalar} {v : Value} :
    k ∈ (fs.insert (.str key) v).keys ↔ k = .str key ∨ k ∈ fs.keys := by
  induction fs with
  | nil => simp [insert, keys]
  | cons e rest ih =>
      obtain ⟨j, w⟩ := e
      rw [insert]
      split
      · rename_i same
        obtain rfl := Scalar.same_str_iff.mp same
        simp [keys]
      · have cons (fs : Fields) (w : Value) : keys ((j, w) :: fs) = j :: fs.keys := rfl
        rw [cons, cons, List.mem_cons, List.mem_cons, ih]
        exact or_left_comm

theorem mem_insert_of_ne {e : Scalar × Value} {v : Value} (he : e ∈ fs) (hne : e.1 ≠ .str key) :
    e ∈ fs.insert (.str key) v := by
  induction fs with
  | nil => cases he
  | cons d rest ih =>
      obtain ⟨j, w⟩ := d
      rw [insert]
      rcases List.mem_cons.mp he with rfl | he
      · rw [if_neg (fun same => hne (Scalar.same_str_iff.mp same))]
        exact List.mem_cons_self
      · split
        · exact List.mem_cons_of_mem _ he
        · exact List.mem_cons_of_mem _ (ih he)

theorem field?_eq_none_iff : fs.field? name = none ↔ .str name ∉ fs.keys := by
  rw [field?, get?, Option.map_eq_none_iff, List.find?_eq_none, keys, List.mem_map]
  simp only [Scalar.same_str_iff]
  constructor
  · rintro h ⟨e, he, key⟩
    exact h e he key
  · exact fun h e he key => h ⟨e, he, key⟩

theorem foreign_insert {k : Field} (hk : k ∈ Field.configurable) (v : Value) :
    (fs.insert (.str k.key) v).keys.filter Config.isForeign = fs.keys.filter Config.isForeign := by
  have own : Config.isForeign (.str k.key) = false := by
    simp [Config.isForeign, Field.ofKey?_key, Field.mem_configurable.mp hk]
  induction fs with
  | nil => simp [insert, keys, own]
  | cons e rest ih =>
      obtain ⟨j, w⟩ := e
      have cons (fs : Fields) (w : Value) : keys ((j, w) :: fs) = j :: fs.keys := rfl
      rw [insert]
      split
      · rw [cons, cons]
      · rw [cons, cons, List.filter_cons, List.filter_cons, ih]

/-- Two mappings have the same keys in the same order, and the same values but for the names of
knots. -/
def Agree (fs gs : Fields) : Prop :=
  List.Forall₂ (fun e d => e.1 = d.1 ∧ Value.Renamed e.2 d.2) fs gs

namespace Agree

theorem refl (fs : Fields) : Agree fs fs := List.forall₂_same.mpr fun _ _ => ⟨rfl, .refl _⟩

theorem renameFields {f : Nat → Nat} (hf : Function.Injective f) (fs : Fields) :
    Agree fs (Value.renameFields f fs) := by
  rw [Value.renameFields_eq_mapValues]
  exact List.forall₂_map_right_iff.mpr (List.forall₂_same.mpr fun _ _ => ⟨rfl, .rename hf _⟩)

theorem keys_eq {gs : Fields} (h : Agree fs gs) : fs.keys = gs.keys := by
  induction h with
  | nil => rfl
  | cons he _ ih => exact List.cons_eq_cons.mpr ⟨he.1, ih⟩

theorem getD_field? {gs : Fields} (h : Agree fs gs) (name : String) :
    ((fs.field? name).getD .null).Renamed ((gs.field? name).getD .null) := by
  induction h with
  | nil => exact .refl _
  | @cons e d fs gs he _ ih =>
      obtain ⟨k, v⟩ := e
      obtain ⟨j, w⟩ := d
      obtain rfl : k = j := he.1
      cases hk : k.same (.str name) with
      | true =>
          rw [field?, field?, get?_cons_same hk, get?_cons_same hk]
          exact he.2
      | false =>
          rw [field?, field?, get?_cons_other hk, get?_cons_other hk]
          exact ih

end Agree

end Fields

namespace Overrides

variable {o : Overrides} {fs gs : Fields}

/-- Arguments are put over two mappings entry by entry, each under the key of a field that can be
given. -/
theorem onto_induction {R : Fields → Fields → Prop} (fs gs : Fields) (start : R fs gs)
    (step : ∀ fs gs, ∀ k ∈ Field.configurable, ∀ v, R fs gs →
      R (fs.insert (.str k.key) v) (gs.insert (.str k.key) v)) : R (o.onto fs) (o.onto gs) := by
  have all (es : Fields) (hes : ∀ e ∈ es, ∃ k ∈ Field.configurable, e.1 = .str k.key)
      (fs gs : Fields) (h : R fs gs) : R (fs.insertAll es) (gs.insertAll es) := by
    induction es generalizing fs gs with
    | nil => exact h
    | cons e es ih =>
        obtain ⟨k, hk, key⟩ := hes e (by simp)
        have first := step fs gs k hk e.2 h
        rw [← key] at first
        exact ih (fun e he => hes e (List.mem_cons_of_mem _ he)) _ _ first
  have given : R (fs.insertAll o.fields) (gs.insertAll o.fields) := by
    refine all _ (fun e he => ?_) fs gs start
    obtain ⟨g, hg, rfl⟩ := List.mem_map.mp he
    have mem := (List.mem_filter.mp hg).1
    simp only [List.mem_cons, List.not_mem_nil, or_false] at mem
    rcases mem with rfl | rfl | rfl | rfl <;>
      exact ⟨_, by simp [Field.mem_configurable, Field.computed], rfl⟩
  unfold onto
  split
  · exact given
  · exact step _ _ .properties (by decide) _ given

/-- The keys that arguments are put over. -/
def keys (o : Overrides) : List Scalar := Fields.keys (o.onto [])

/-- What is left of a mapping besides the keys that arguments are put over. -/
def rest (o : Overrides) (fs : Fields) : Fields := fs.filter fun e => !o.keys.contains e.1

theorem foreign_onto (o : Overrides) (fs : Fields) :
    (Fields.keys (o.onto fs)).filter Config.isForeign =
      (Fields.keys fs).filter Config.isForeign :=
  onto_induction (R := fun gs _ => (Fields.keys gs).filter Config.isForeign =
      (Fields.keys fs).filter Config.isForeign) fs fs rfl
    fun _ _ _ hk v h => (Fields.foreign_insert hk v).trans h

theorem field?_onto (o : Overrides) (fs : Fields) (name : String) :
    Fields.field? (o.onto fs) name =
      (Fields.field? (o.onto []) name).or (Fields.field? fs name) := by
  refine onto_induction (R := fun gs es =>
    Fields.field? gs name = (Fields.field? es name).or (Fields.field? fs name)) fs [] rfl ?_
  intro gs es k _ v h
  rw [Fields.field?_insert, Fields.field?_insert]
  split
  · rfl
  · exact h

theorem mem_onto_of_mem_rest {e : Scalar × Value} (he : e ∈ o.rest fs) : e ∈ o.onto fs := by
  obtain ⟨mem, left⟩ := List.mem_filter.mp he
  refine onto_induction (R := fun gs es => e.1 ∉ Fields.keys es → e ∈ gs) fs []
    (fun _ => mem) ?_ (by simpa [keys] using left)
  intro gs es k _ v h hne
  rw [Fields.mem_keys_insert, not_or] at hne
  exact Fields.mem_insert_of_ne (h hne.2) hne.1

theorem configurable_of_mem_keys {k : Scalar} (hk : k ∈ o.keys) :
    ∃ g ∈ Field.configurable, k = .str g.key := by
  revert hk
  refine onto_induction (R := fun gs _ => k ∈ Fields.keys gs →
    ∃ g ∈ Field.configurable, k = .str g.key) [] [] (fun h => by cases h) ?_
  intro gs _ g hg v h hk
  rcases Fields.mem_keys_insert.mp hk with rfl | hk
  · exact ⟨g, hg, rfl⟩
  · exact h hk

/-! ## What is left of a mapping -/

theorem keys_rest (o : Overrides) (fs : Fields) :
    Fields.keys (o.rest fs) = (Fields.keys fs).filter fun k => !o.keys.contains k := by
  rw [rest, Fields.keys, Fields.keys, List.filter_map]
  rfl

theorem foreign_rest (o : Overrides) (fs : Fields) :
    (Fields.keys (o.rest fs)).filter Config.isForeign =
      (Fields.keys fs).filter Config.isForeign := by
  rw [keys_rest, List.filter_filter]
  refine List.filter_congr fun k _ => ?_
  cases put : o.keys.contains k with
  | false => simp
  | true =>
      obtain ⟨g, hg, rfl⟩ := configurable_of_mem_keys (List.contains_iff_mem.mp put)
      simp [Config.isForeign, Field.ofKey?_key, Field.mem_configurable.mp hg]

theorem field?_rest {name : String} (h : .str name ∉ o.keys) (fs : Fields) :
    Fields.field? (o.rest fs) name = Fields.field? fs name := by
  rw [Fields.field?, Fields.field?, Fields.get?, Fields.get?, rest, List.find?_filter]
  congr 2
  funext e
  cases same : e.1.same (.str name) with
  | false => simp
  | true => simp [Scalar.same_str_iff.mp same, h]

theorem rest_mapValues (o : Overrides) (g : Value → Value) (fs : Fields) :
    o.rest (fs.mapValues g) = (o.rest fs).mapValues g := by
  rw [rest, rest, Fields.mapValues, Fields.mapValues, List.filter_map]
  rfl

/-- Mappings of which the same is left match once the same arguments are put over both. -/
theorem matched_onto (agree : Fields.Agree (o.rest fs) (o.rest gs)) :
    Fields.Matched (o.onto fs) (o.onto gs) := by
  constructor
  · rw [foreign_onto, foreign_onto, ← foreign_rest o gs, ← agree.keys_eq, foreign_rest]
  · intro k
    rw [Fields.given, Fields.given, field?_onto o fs, field?_onto o gs]
    cases put : Fields.field? (o.onto []) k.key with
    | some w => exact .refl w
    | none =>
        have left : .str k.key ∉ o.keys := Fields.field?_eq_none_iff.mp put
        rw [Option.none_or, Option.none_or, ← field?_rest left fs, ← field?_rest left gs]
        exact agree.getD_field? k.key

end Overrides

/-! ## Mappings that do not hold themselves -/

namespace Value

mutual
/-- Whether a name is used in a value for something around the value. -/
def refersTo (name : Nat) : Value → Bool
  | .scalar _ | .set _ => false
  | .list xs => anyRefersTo name xs
  | .map fs => fieldsReferTo name fs
  | .pair a b => refersTo name a || refersTo name b
  | .knot n v => n != name && refersTo name v
  | .again n => n == name

def anyRefersTo (name : Nat) : List Value → Bool
  | [] => false
  | x :: xs => refersTo name x || anyRefersTo name xs

/-- Whether a name is used in the entries of a mapping. -/
def fieldsReferTo (name : Nat) : List (Scalar × Value) → Bool
  | [] => false
  | (_, v) :: rest => refersTo name v || fieldsReferTo name rest
end

mutual
theorem replace_of_not_refersTo {n : Nat} {w v : Value} (h : v.refersTo n = false) :
    replace n w v = v := by
  match v with
  | .scalar s | .set ms => rw [replace]
  | .list xs =>
      rw [refersTo] at h
      rw [replace, replaceList_of_not_refersTo h]
  | .map fs =>
      rw [refersTo] at h
      rw [replace, replaceFields_of_not_refersTo h]
  | .pair a b =>
      rw [refersTo, Bool.or_eq_false_iff] at h
      rw [replace, replace_of_not_refersTo h.1, replace_of_not_refersTo h.2]
  | .knot m v =>
      rw [refersTo] at h
      rw [replace]
      split
      · rfl
      · rename_i other
        rw [replace_of_not_refersTo (by simpa [other] using h)]
  | .again m =>
      rw [refersTo] at h
      rw [replace, if_neg (by simpa using h)]

theorem replaceList_of_not_refersTo {n : Nat} {w : Value} {xs : List Value}
    (h : anyRefersTo n xs = false) : replaceList n w xs = xs := by
  match xs with
  | [] => rw [replaceList]
  | x :: xs =>
      rw [anyRefersTo, Bool.or_eq_false_iff] at h
      rw [replaceList, replace_of_not_refersTo h.1, replaceList_of_not_refersTo h.2]

theorem replaceFields_of_not_refersTo {n : Nat} {w : Value} {fs : Fields}
    (h : fieldsReferTo n fs = false) : replaceFields n w fs = fs := by
  match fs with
  | [] => rw [replaceFields]
  | (k, v) :: rest =>
      rw [fieldsReferTo, Bool.or_eq_false_iff] at h
      rw [replaceFields, replace_of_not_refersTo h.1, replaceFields_of_not_refersTo h.2]
end

theorem fieldsReferTo_eq_any (n : Nat) (fs : Fields) :
    fieldsReferTo n fs = fs.any fun e => e.2.refersTo n := by
  induction fs with
  | nil => rw [fieldsReferTo]; rfl
  | cons e rest ih =>
      obtain ⟨k, v⟩ := e
      rw [fieldsReferTo, ih, List.any_cons]

theorem replaceFields_eq_mapValues (n : Nat) (w : Value) (fs : Fields) :
    replaceFields n w fs = Fields.mapValues (replace n w) fs := by
  induction fs with
  | nil => rw [replaceFields]; rfl
  | cons e rest ih =>
      obtain ⟨k, v⟩ := e
      rw [replaceFields, ih]
      rfl

end Value

/-- Whether a mapping holds itself. -/
def RootMap.holdsItself (r : RootMap) : Bool :=
  r.name.any fun n => Value.fieldsReferTo n r.fields

theorem RootMap.unrolled_of_not_holdsItself {r : RootMap} (h : r.holdsItself = false) :
    r.unrolled = r.fields := by
  obtain ⟨name, fields⟩ := r
  cases name with
  | none => rfl
  | some n => exact Value.replaceFields_of_not_refersTo (by simpa [holdsItself] using h)

/-- What is left of a mapping is left as it is where it does not hold the mapping. -/
theorem Overrides.rest_unrolled {o : Overrides} {r : RootMap}
    (h : (o.ontoRoot r).holdsItself = false) : o.rest r.unrolled = o.rest r.fields := by
  obtain ⟨name, fields⟩ := r
  cases name with
  | none => rfl
  | some n =>
      have free : Value.fieldsReferTo n (o.onto fields) = false := by
        simpa [RootMap.holdsItself, ontoRoot] using h
      rw [Value.fieldsReferTo_eq_any, List.any_eq_false] at free
      have left : Value.fieldsReferTo n (o.rest fields) = false := by
        rw [Value.fieldsReferTo_eq_any, List.any_eq_false]
        exact fun e he => free e (mem_onto_of_mem_rest he)
      change o.rest (Value.replaceFields n (.knot n (.map fields)) fields) = o.rest fields
      rw [Value.replaceFields_eq_mapValues, rest_mapValues,
        ← Value.replaceFields_eq_mapValues, Value.replaceFields_of_not_refersTo left]

/-! ## Creating -/

namespace Workbench

variable {σ : Type} {w : Workbench σ} {o : Overrides} {p q : Value} {r r' : RootMap}

theorem create_of_loaded [Host] (hp : w.fileFields p = .ok r) (s : σ) : w.create o p s =
    (Action.ofExcept (Config.decodeFields (o.ontoRoot r).unrolled) >>= fun c => do
      Action.log .info ("Creating " ++ c.text)
      w.manager.createOrUpdate c .absent) s := by
  rw [create, hp, Action.ofExcept_ok_bind]

theorem create_of_refused [Host] {e : Fault} (hp : w.fileFields p = .ok r)
    (h : Config.decodeFields (o.ontoRoot r).unrolled = .error e) (s : σ) :
    w.create o p s = ⟨.error e, s, [], []⟩ := by
  rw [create_of_loaded hp, h]
  rfl

/-- Two files of which the same is left besides the keys that arguments are put over lead to the
same creation: the same calls and payloads from any state of any service, and the same end. What
they hold under those keys does not matter. Both mappings must not hold themselves once the
arguments are put over them. A mapping that is refused is refused before any call. -/
theorem create_shadowed [Host] (hp : w.fileFields p = .ok r) (hq : w.fileFields q = .ok r')
    (agree : Fields.Agree (o.rest r.unrolled) (o.rest r'.unrolled))
    (own : (o.ontoRoot r).holdsItself = false) (own' : (o.ontoRoot r').holdsItself = false)
    (s : σ) :
    Fault.Alike (w.create o p s).result (w.create o q s).result ∧
    (w.create o p s).calls = (w.create o q s).calls ∧
    (w.create o p s).service = (w.create o q s).service ∧
    (w.create o p s).logs = (w.create o q s).logs ∧
    ∀ e, Config.decodeFields (o.ontoRoot r).unrolled = .error e →
      w.create o p s = ⟨.error e, s, [], []⟩ := by
  refine and_assoc.mp (and_assoc.mp (and_assoc.mp ⟨?_, fun e h => create_of_refused hp h s⟩))
  have matched : Fields.Matched (o.ontoRoot r).unrolled (o.ontoRoot r').unrolled := by
    rw [RootMap.unrolled_of_not_holdsItself own, RootMap.unrolled_of_not_holdsItself own']
    rw [Overrides.rest_unrolled own, Overrides.rest_unrolled own'] at agree
    exact Overrides.matched_onto agree
  have decoded := Config.decodeFields_matched matched
  rw [create_of_loaded hp, create_of_loaded hq]
  generalize Config.decodeFields (o.ontoRoot r).unrolled = x at decoded
  generalize Config.decodeFields (o.ontoRoot r').unrolled = y at decoded
  cases decoded with
  | same => exact ⟨⟨⟨.same _, rfl⟩, rfl⟩, rfl⟩
  | defects told => exact ⟨⟨⟨.defects told, rfl⟩, rfl⟩, rfl⟩

end Workbench

/-! ## Files -/

namespace Value

mutual
/-- Whether two values are the same down to the names of knots. -/
def identical : Value → Value → Bool
  | .scalar a, .scalar b => a == b
  | .list xs, .list ys => allIdentical xs ys
  | .map fs, .map gs => fieldsIdentical fs gs
  | .pair a b, .pair c d => identical a c && identical b d
  | .set xs, .set ys => xs == ys
  | .knot n v, .knot m w => n == m && identical v w
  | .again n, .again m => n == m
  | _, _ => false

def allIdentical : List Value → List Value → Bool
  | [], [] => true
  | x :: xs, y :: ys => identical x y && allIdentical xs ys
  | _, _ => false

/-- Whether two mappings have identical entries in the same order. -/
def fieldsIdentical : List (Scalar × Value) → List (Scalar × Value) → Bool
  | [], [] => true
  | (k, v) :: fs, (j, w) :: gs => k == j && identical v w && fieldsIdentical fs gs
  | _, _ => false
end

mutual
theorem eq_of_identical {v w : Value} (h : v.identical w = true) : v = w := by
  unfold identical at h
  split at h
  · rw [eq_of_beq h]
  · rw [eq_of_allIdentical h]
  · rw [eq_of_fieldsIdentical h]
  · rw [Bool.and_eq_true] at h
    rw [eq_of_identical h.1, eq_of_identical h.2]
  · rw [eq_of_beq h]
  · rw [Bool.and_eq_true] at h
    rw [eq_of_beq h.1, eq_of_identical h.2]
  · rw [eq_of_beq h]
  · cases h

theorem eq_of_allIdentical {xs ys : List Value} (h : allIdentical xs ys = true) : xs = ys := by
  match xs, ys with
  | [], [] => rfl
  | x :: xs, y :: ys =>
      rw [allIdentical, Bool.and_eq_true] at h
      rw [eq_of_identical h.1, eq_of_allIdentical h.2]
  | [], _ :: _ | _ :: _, [] => simp [allIdentical] at h

theorem eq_of_fieldsIdentical {fs gs : Fields} (h : fieldsIdentical fs gs = true) : fs = gs := by
  match fs, gs with
  | [], [] => rfl
  | (k, v) :: fs, (j, w) :: gs =>
      rw [fieldsIdentical, Bool.and_eq_true, Bool.and_eq_true] at h
      rw [eq_of_beq h.1.1, eq_of_identical h.1.2, eq_of_fieldsIdentical h.2]
  | [], _ :: _ | _ :: _, [] => simp [fieldsIdentical] at h
end

end Value

/-- Whether a file was loaded as a given mapping. -/
def RootMap.isLoaded (x : Except Fault RootMap) (r : RootMap) : Bool :=
  match x with
  | .ok r' => r'.name == r.name && Value.fieldsIdentical r'.fields r.fields
  | .error _ => false

theorem RootMap.eq_ok_of_isLoaded {x : Except Fault RootMap} {r : RootMap}
    (h : r.isLoaded x = true) : x = .ok r := by
  unfold isLoaded at h
  split at h
  · rename_i r'
    obtain ⟨name, fields⟩ := r
    obtain ⟨name', fields'⟩ := r'
    rw [Bool.and_eq_true] at h
    obtain rfl : name' = name := eq_of_beq h.1
    obtain rfl : fields' = fields := Value.eq_of_fieldsIdentical h.2
    rfl
  · cases h

namespace Sample

/-- Two files that hold different things under the keys of the group and of the properties, and the
same besides. -/
def drafts : Files :=
  [("a.yaml", .text "resource_group_name: [rg1]\nworkspace_name: ws01\n"),
    ("b.yaml", .text "workspace_name: ws01\nlinked_service_properties: 1\n")]

/-- The mapping of a file that holds itself as its tags, and that of one that holds another mapping
with the same entries. -/
def tangles : Files :=
  [("a.yaml", .text "&all\nresource_group_name: rg1\nworkspace_name: ws01\ntags: *all\n"),
    ("b.yaml", .text <| "resource_group_name: rg1\nworkspace_name: ws01\n" ++
      "tags: &all\n  resource_group_name: rg1\n  workspace_name: ws01\n  tags: *all\n")]

def benchWith (files : Files) : Workbench Store := ⟨Store.manager false, files, "sub"⟩

/-- A group and a resource that are given as arguments. -/
def moved : Overrides := ⟨.str "rg2", .null, .null, .null, .str "/subscriptions/sub"⟩

/-- The entries of the mapping, or the tags, that hold themselves. -/
def entangled (tags : Value) : Fields :=
  [(.str Field.group.key, .str "rg1"), (.str Field.workspace.key, .str "ws01"),
    (.str Field.tags.key, tags)]

theorem load_drafts :
    (benchWith drafts).fileFields (.str "a.yaml") = .ok (.ofFields
      [(.str Field.group.key, .list [.str "rg1"]), (.str Field.workspace.key, .str "ws01")]) ∧
    (benchWith drafts).fileFields (.str "b.yaml") = .ok (.ofFields
      [(.str Field.workspace.key, .str "ws01"), (.str Field.properties.key, .int 1)]) :=
  ⟨RootMap.eq_ok_of_isLoaded (by decide +kernel), RootMap.eq_ok_of_isLoaded (by decide +kernel)⟩

theorem load_tangles :
    (benchWith tangles).fileFields (.str "a.yaml") = .ok ⟨some 0, entangled (.again 0)⟩ ∧
    (benchWith tangles).fileFields (.str "b.yaml") =
      .ok (.ofFields (entangled (.knot 6 (.map (entangled (.again 6)))))) :=
  ⟨RootMap.eq_ok_of_isLoaded (by decide +kernel), RootMap.eq_ok_of_isLoaded (by decide +kernel)⟩

/-- The tags of what calls write. -/
def writtenTags (calls : List Call) : List Tags :=
  calls.filterMap fun
    | .write _ p => some p.tags
    | _ => none

end Sample

namespace Workbench

open Sample in
/-- Neither a group that is a list nor properties that are a number matter under arguments. -/
theorem create_shadowed_drafts :
    Fault.Alike ((benchWith drafts).create moved (.str "a.yaml") ⟨"sub", []⟩).result
      ((benchWith drafts).create moved (.str "b.yaml") ⟨"sub", []⟩).result ∧
    ((benchWith drafts).create moved (.str "a.yaml") ⟨"sub", []⟩).calls =
      ((benchWith drafts).create moved (.str "b.yaml") ⟨"sub", []⟩).calls := by
  have left : moved.rest [(.str Field.group.key, .list [.str "rg1"]),
        (.str Field.workspace.key, .str "ws01")] =
      moved.rest [(.str Field.workspace.key, .str "ws01"), (.str Field.properties.key, .int 1)] :=
    Value.eq_of_fieldsIdentical (by decide +kernel)
  obtain ⟨ends, calls, -⟩ := create_shadowed (o := moved) load_drafts.1 load_drafts.2
    (left ▸ .refl _) rfl rfl ⟨"sub", []⟩
  exact ⟨ends, calls⟩

open Sample in
/-- The tags of both files are the same mapping, which holds itself. Where that is the mapping of
the file, the arguments are written into the tags too. -/
theorem create_entangled :
    ∃ r r', (benchWith tangles).fileFields (.str "a.yaml") = .ok r ∧
      (benchWith tangles).fileFields (.str "b.yaml") = .ok r' ∧
      Fields.Agree (moved.rest r.unrolled) (moved.rest r'.unrolled) ∧
      ((benchWith tangles).create moved (.str "a.yaml") ⟨"sub", []⟩).calls ≠
        ((benchWith tangles).create moved (.str "b.yaml") ⟨"sub", []⟩).calls := by
  have left : moved.rest (entangled (.knot 6 (.map (entangled (.again 6))))) =
      Value.renameFields (· + 6)
        (moved.rest (RootMap.unrolled ⟨some 0, entangled (.again 0)⟩)) :=
    Value.eq_of_fieldsIdentical (by decide +kernel)
  refine ⟨_, _, load_tangles.1, load_tangles.2, ?_, fun same => ?_⟩
  · exact left ▸ .renameFields (fun _ _ => Nat.add_right_cancel) _
  rw [create_of_loaded load_tangles.1, create_of_loaded load_tangles.2] at same
  exact absurd (congrArg writtenTags same) (by decide +kernel)

end Workbench

end WorkspaceLink
