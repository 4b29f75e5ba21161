import WorkspaceLink.Proofs.Tracking

/-!
# How an id that is read was spelled

Reading the id of a linked service passes over some of it: which provider it is of, a provider in
front of the linked service itself, and whatever stands behind that. So writing the id again gives
back the text that was read, up to case, exactly where there was nothing to pass over.
-/

namespace WorkspaceLink

namespace LinkId

variable {id : LinkId}

/-- A text that is read as the id of a linked service spells it, but for a provider, a provider in
front of the linked service and more behind it. The id that is written from what was read is that
text, up to case, exactly if the provider is the right one and there is nothing of the others. -/
theorem print_respells_iff {rid : String} (h : parse (.str rid) = .ok id) :
    ∃ provider under more,
      Unicode.SameUpToCase rid (String.ofList (id.spelled provider under more).print) ∧
      (Unicode.SameUpToCase id.print rid ↔
        isWord providerName provider = true ∧ under = none ∧ more = []) := by
  have free := (readable_of_parse h).toSlashFree
  obtain ⟨t, ht, ho⟩ := parse_eq_ok h
  obtain rfl := Scalar.str.inj (Value.scalar.inj ht)
  unfold ofText at ho
  split at ho
  · cases ho
  · rename_i a ha
    obtain ⟨provider, type, child, rest, named⟩ := ofArmId_eq_ok ho
    have segments := (ArmId.split_of_valid? ha).trans named.lower_segments
    refine ⟨provider, child.provider, rest, ?_, ?_⟩
    · rw [Unicode.sameUpToCase_iff, String.toList_ofList, ArmId.print, Unicode.lower_join,
        ← segments, ← Unicode.lower_join, Text.join_split]
    · rw [Unicode.sameUpToCase_iff, Unicode.lower_eq_iff_split, split_print free, segments]
      exact lower_segments_spelled_iff

/-! ## Ids with more in them -/

/-- A resource is read as a linked service whose own id is not the one that was read. -/
def Overlooked (a : ArmId) : Prop :=
  ∃ id, parse (.str (String.ofList a.print)) = .ok id ∧
    ¬ Unicode.SameUpToCase id.print (String.ofList a.print)

theorem overlooked_of_ofText (id : LinkId) {a : ArmId} (h : (ofText a.print).toOption = some id)
    (hne : Unicode.lower id.armId.print ≠ Unicode.lower a.print) : Overlooked a := by
  refine ⟨id, parse_of_ofText h, ?_⟩
  rwa [Unicode.sameUpToCase_iff, toList_print, String.toList_ofList]

end LinkId

namespace Sample

/-- A resource like the sample in another provider. -/
def foreign : ArmId := (link "ws01").spelled "Microsoft.Other".toList none []

/-- The sample, with a provider in front of it. -/
def under : ArmId :=
  (link "ws01").spelled providerName.toList (some "Microsoft.Other".toList) []

/-- Something below the sample. -/
def lock : ArmId :=
  (link "ws01").spelled providerName.toList none [⟨none, "locks".toList, "mine".toList⟩]

theorem ofText_foreign : (LinkId.ofText foreign.print).toOption = some (link "ws01") := by
  decide +kernel

end Sample

namespace LinkId

/-- A resource of another provider, one under a provider of its own and one below a linked service
are all read as the linked service. -/
theorem foreign_parts_overlooked :
    Overlooked Sample.foreign ∧ Overlooked Sample.under ∧ Overlooked Sample.lock := by
  have misspelled : ∀ a ∈ [Sample.foreign, Sample.under, Sample.lock],
      Unicode.lower (Sample.link "ws01").armId.print ≠ Unicode.lower a.print := by
    decide +kernel
  exact ⟨overlooked_of_ofText _ Sample.ofText_foreign (misspelled _ (by simp)),
    overlooked_of_ofText (Sample.link "ws01") (by decide +kernel) (misspelled _ (by simp)),
    overlooked_of_ofText (Sample.link "ws01") (by decide +kernel) (misspelled _ (by simp))⟩

/-- The id of a resource in another provider. -/
theorem print_respells_iff_foreign :
    parse (.str (String.ofList Sample.foreign.print)) = .ok (Sample.link "ws01") ∧
    ∃ provider under more,
      Unicode.SameUpToCase (String.ofList Sample.foreign.print)
        (String.ofList ((Sample.link "ws01").spelled provider under more).print) ∧
      (Unicode.SameUpToCase (Sample.link "ws01").print (String.ofList Sample.foreign.print) ↔
        isWord providerName provider = true ∧ under = none ∧ more = []) :=
  have read := parse_of_ofText Sample.ofText_foreign
  ⟨read, print_respells_iff read⟩

end LinkId

end WorkspaceLink
