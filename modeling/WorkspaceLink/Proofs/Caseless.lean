import WorkspaceLink.Proofs.Placement

/-!
# Reading without regard to case

Where the ASCII letters of a text are put into lower case, the same is read from it, but in lower
case. So ids that differ only in the case of ASCII letters are read alike.
-/

namespace WorkspaceLink

/-! ## ASCII letters -/

namespace Unicode

/-- A character is its own lower case in ASCII, or one of the 26 capital letters. -/
theorem toLower_eq_or (c : Char) : c.toLower = c ∨ ∃ n < 26, c = Char.ofNat (0x41 + n) := by
  by_cases h : c.val ≥ 'A'.val ∧ c.val ≤ 'Z'.val
  · right
    have low : 0x41 ≤ c.toNat := h.1
    have high : c.toNat ≤ 0x5a := h.2
    refine ⟨c.toNat - 0x41, by omega, ?_⟩
    rw [Nat.add_sub_cancel' low, Char.ofNat_toNat]
  · left
    exact dif_neg h

/-- What is the same for the capital letters and the small ones is the same for all characters in
either case. -/
theorem apply_toLower {α : Type} {f : Char → α}
    (h : ∀ n < 26, f (Char.ofNat (0x41 + n)).toLower = f (Char.ofNat (0x41 + n))) (c : Char) :
    f c.toLower = f c := by
  rcases toLower_eq_or c with same | ⟨n, hn, rfl⟩
  · rw [same]
  · exact h n hn

theorem isCased_toLower : ∀ c : Char, isCased c.toLower = isCased c :=
  apply_toLower (by decide)

theorem isCaseIgnorable_toLower : ∀ c : Char, isCaseIgnorable c.toLower = isCaseIgnorable c :=
  apply_toLower (by decide)

theorem lowerChars_toLower : ∀ c : Char, lowerChars c.toLower = lowerChars c :=
  apply_toLower (by decide)

/-- Only a character itself is put into lower case as it, if no letter is. -/
theorem toLower_eq_iff {mark : Char} (h : ∀ n < 26, ((Char.ofNat (0x41 + n)).toLower == mark) =
    (Char.ofNat (0x41 + n) == mark)) (c : Char) : c.toLower = mark ↔ c = mark := by
  have same : (c.toLower == mark) = (c == mark) := apply_toLower (f := fun d => d == mark) h c
  rw [← beq_iff_eq, same, beq_iff_eq]

theorem reachesCased_toLower (cs : List Char) :
    reachesCased (cs.map Char.toLower) = reachesCased cs := by
  induction cs with
  | nil => rfl
  | cons c cs ih =>
      unfold reachesCased at ih ⊢
      have seen := isCaseIgnorable_toLower c
      cases h : isCaseIgnorable c <;> simp_all [isCased_toLower]

/-- The full lower case does not depend on the case of ASCII letters. -/
theorem lower_toLower (cs : List Char) : lower (cs.map Char.toLower) = lower cs := by
  -- a final sigma depends on the characters around it, of which only the kind is asked
  have step (before : List Char) :
      lowerAfter (before.map Char.toLower) (cs.map Char.toLower) = lowerAfter before cs := by
    induction cs generalizing before with
    | nil => rfl
    | cons c cs ih =>
        have sigma : c.toLower = 'Σ' ↔ c = 'Σ' := toLower_eq_iff (by decide) c
        rw [List.map_cons, lowerAfter, lowerAfter, ← List.map_cons, ih, reachesCased_toLower,
          reachesCased_toLower, lowerChars_toLower]
        simp only [sigma]
  exact step []

end Unicode

/-! ## Segments -/

theorem Text.split_toLower (cs : List Char) :
    split '/' (cs.map Char.toLower) = (split '/' cs).map (List.map Char.toLower) := by
  induction cs with
  | nil => rfl
  | cons c cs ih =>
      have slash : c.toLower = '/' ↔ c = '/' := Unicode.toLower_eq_iff (by decide) c
      rw [List.map_cons, split, split, ih]
      simp only [slash]
      split
      · rfl
      · cases split '/' cs <;> rfl

namespace Segment

/-- A segment with its ASCII letters in lower case. -/
abbrev lowered (s : Segment) : Segment := s.map Char.toLower

theorem foldKeywordChar_toLower : ∀ c : Char, foldKeywordChar c.toLower = foldKeywordChar c :=
  Unicode.apply_toLower (by decide)

theorem isKeyword_lowered (keyword : String) (s : Segment) :
    isKeyword keyword (lowered s) = isKeyword keyword s := by
  have fold : foldKeywordChar ∘ Char.toLower = foldKeywordChar := funext foldKeywordChar_toLower
  rw [isKeyword, isKeyword, lowered, List.map_map, fold]

theorem firstLine_lowered (ss : List Segment) :
    firstLine (ss.map lowered) = (firstLine ss).map lowered := by
  have newline : ∀ c : Char, c.toLower = '\n' ↔ c = '\n' := Unicode.toLower_eq_iff (by decide)
  induction ss with
  | nil => rfl
  | cons s ss ih =>
      have inside : (lowered s).contains '\n' = s.contains '\n' := by
        simp [newline]
      have test : (fun d => d != '\n') ∘ Char.toLower = fun d : Char => d != '\n' := by
        funext c
        rw [Function.comp_apply, Bool.eq_iff_iff, bne_iff_ne, bne_iff_ne, ne_eq, newline]
      have line : (lowered s).takeWhile (· != '\n') = lowered (s.takeWhile (· != '\n')) := by
        rw [lowered, List.takeWhile_map, test]
      rw [List.map_cons, firstLine, firstLine, inside, line, ih]
      split <;> rfl

end Segment

/-! ## Ids of any resource -/

namespace ArmId

def Child.lowered (c : Child) : Child :=
  ⟨c.provider.map Segment.lowered, Segment.lowered c.type, Segment.lowered c.name⟩

def Resource.lowered (r : Resource) : Resource :=
  ⟨Segment.lowered r.provider, Segment.lowered r.type, Segment.lowered r.name,
    r.children.map Child.lowered⟩

/-- The parts of an id with their ASCII letters in lower case. -/
def lowered (a : ArmId) : ArmId :=
  ⟨Segment.lowered a.subscription, a.group.map Segment.lowered, a.resource.map Resource.lowered⟩

theorem childrenOf_lowered (ss : List Segment) :
    childrenOf (ss.map Segment.lowered) = (childrenOf ss).map Child.lowered := by
  induction ss using childrenOf.induct with
  | case1 p ns t n rest hp ih =>
      have hp' := (Segment.isKeyword_lowered "providers" p).trans hp
      simp only [List.map_cons, childrenOf, if_pos hp, if_pos hp', ih]
      rfl
  | case2 p ns t n rest hp ih =>
      have hp' := mt (Segment.isKeyword_lowered "providers" p).symm.trans hp
      simp only [List.map_cons] at ih
      simp only [List.map_cons, childrenOf, if_neg hp, if_neg hp', ih]
      rfl
  | case3 t n rest hr =>
      rcases rest with _ | ⟨a, _ | ⟨b, rest⟩⟩
      · rfl
      · rfl
      · exact (hr a b rest rfl).elim
  | case4 ss h h' =>
      rcases ss with _ | ⟨a, _ | ⟨b, rest⟩⟩
      · rfl
      · rfl
      · exact (h' a b rest rfl).elim

theorem resourceOf?_lowered (ss : List Segment) :
    resourceOf? (ss.map Segment.lowered) = (resourceOf? ss).map Resource.lowered := by
  match ss with
  | k :: p :: t :: n :: rest =>
      simp only [List.map_cons, resourceOf?, Segment.isKeyword_lowered, Segment.firstLine_lowered,
        childrenOf_lowered]
      split <;> rfl
  | [] | [_] | [_, _] | [_, _, _] => rfl

theorem scopeOf_lowered (subscription : Segment) (ss : List Segment) :
    scopeOf (Segment.lowered subscription) (ss.map Segment.lowered) =
      (scopeOf subscription ss).lowered := by
  match ss with
  | k :: s :: rest =>
      have whole := resourceOf?_lowered (k :: s :: rest)
      simp only [List.map_cons] at whole
      simp only [List.map_cons, scopeOf, Segment.isKeyword_lowered, whole, resourceOf?_lowered]
      split <;> rfl
  | [] | [_] => rfl

theorem ofSegments?_lowered (ss : List Segment) :
    ofSegments? (ss.map Segment.lowered) = (ofSegments? ss).map lowered := by
  match ss with
  | [] :: k :: s :: rest =>
      simp only [List.map_cons, List.map_nil, ofSegments?, Segment.isKeyword_lowered,
        scopeOf_lowered]
      split <;> rfl
  | [] | (_ :: _) :: _ | [[]] | [[], _] => rfl

theorem parse?_toLower (cs : List Char) :
    parse? (cs.map Char.toLower) = (parse? cs).map lowered := by
  rw [parse?, parse?, Segment.split, Text.split_toLower]
  exact ofSegments?_lowered _

theorem lower_segments_child (c : Child) :
    c.lowered.segments.map Unicode.lower = c.segments.map Unicode.lower := by
  obtain ⟨_ | p, t, n⟩ := c <;> simp [Child.lowered, Unicode.lower_toLower]

theorem lower_segments_lowered (a : ArmId) :
    a.lowered.segments.map Unicode.lower = a.segments.map Unicode.lower := by
  have children (cs : List Child) :
      ((cs.map Child.lowered).flatMap Child.segments).map Unicode.lower =
        (cs.flatMap Child.segments).map Unicode.lower := by
    simp only [List.map_flatMap, List.flatMap_map, lower_segments_child]
  obtain ⟨subscription, _ | group, _ | resource⟩ := a <;>
    simp [lowered, segments, Resource.lowered, Resource.segments, Unicode.lower_toLower, children]

theorem lower_print_lowered (a : ArmId) : Unicode.lower a.lowered.print = Unicode.lower a.print := by
  rw [print, print, Segment.join, Unicode.lower_join, Unicode.lower_join, lower_segments_lowered]

theorem valid?_toLower (cs : List Char) :
    valid? (cs.map Char.toLower) = (valid? cs).map lowered := by
  rw [valid?, valid?, parse?_toLower]
  cases parse? cs with
  | none => rfl
  | some a =>
      simp only [Option.map_some, Option.filter_some, lower_print_lowered, Unicode.lower_toLower,
        List.isEmpty_map]
      split <;> rfl

end ArmId

/-! ## Ids of linked services -/

namespace LinkId

def lowered (id : LinkId) : LinkId :=
  ⟨id.subscription.toLower, id.group.toLower, id.workspace.toLower, id.name.toLower⟩

theorem isWord_lowered (word : String) (s : Segment) :
    isWord word (Segment.lowered s) = isWord word s := by
  rw [isWord, isWord, Segment.lowered, Unicode.lower_toLower]

theorem toList_toLower (s : String) : s.toLower.toList = s.toList.map Char.toLower :=
  String.toList_map

theorem ofList_lowered (s : Segment) :
    String.ofList (Segment.lowered s) = (String.ofList s).toLower := by
  rw [← String.toList_inj, toList_toLower, String.toList_ofList, String.toList_ofList]

theorem ofArmId_lowered (a : ArmId) : ofArmId a.lowered = (ofArmId a).map lowered := by
  obtain ⟨subscription, group, _ | ⟨provider, type, name, children⟩⟩ := a
  · rfl
  · have named : (group.map Segment.lowered).getD [] = Segment.lowered (group.getD []) := by
      cases group <;> rfl
    simp only [ArmId.lowered, ArmId.Resource.lowered, Option.map_some, ofArmId, isWord_lowered,
      named, List.isEmpty_map]
    split
    · rfl
    · cases children with
      | nil => rfl
      | cons child rest =>
          simp only [List.map_cons, ArmId.Child.lowered, isWord_lowered, List.isEmpty_map,
            ofList_lowered]
          split
          · rfl
          · split <;> rfl

theorem ofText_toLower (cs : List Char) :
    ofText (cs.map Char.toLower) = (ofText cs).map lowered := by
  rw [ofText, ofText, ArmId.valid?_toLower]
  cases ArmId.valid? cs with
  | none => rfl
  | some a => exact ofArmId_lowered a

/-- Two texts that differ only in the case of ASCII letters are both read as ids, with the same parts
but for the case of ASCII letters, or both refused for the same reason. No part is ever missing where
it is looked up. -/
theorem accepted_or_refused_caseless {rid rid' : String} (h : rid.toLower = rid'.toLower) :
    (∃ id id', Accepted rid id ∧ Accepted rid' id' ∧ id.lowered = id'.lowered) ∨
      ∃ r, Refused rid r ∧ Refused rid' r := by
  have same : (ofText rid.toList).map lowered = (ofText rid'.toList).map lowered := by
    rw [← ofText_toLower, ← ofText_toLower, ← toList_toLower, ← toList_toLower, h]
  cases read : ofText rid.toList with
  | error r =>
      rw [read] at same
      cases read' : ofText rid'.toList with
      | error r' =>
          rw [read'] at same
          obtain rfl := Except.error.inj same
          exact .inr ⟨r, refused_of_ofText read, refused_of_ofText read'⟩
      | ok id' =>
          rw [read'] at same
          cases same
  | ok id =>
      rw [read] at same
      cases read' : ofText rid'.toList with
      | error r' =>
          rw [read'] at same
          cases same
      | ok id' =>
          rw [read'] at same
          exact .inl ⟨id, id', accepted_of_ofText read, accepted_of_ofText read', Except.ok.inj same⟩

end LinkId

namespace Sample

def plain : String :=
  "/subscriptions/sub/resourceGroups/rg1/providers/Microsoft.OperationalInsights/workspaces/ws01/linkedServices/automation"

/-- The same id in other case. -/
def shouted : String :=
  "/SUBSCRIPTIONS/Sub/resourcegroups/RG1/PROVIDERS/microsoft.operationalinsights/Workspaces/WS01/LinkedServices/Automation"

end Sample

namespace LinkId

/-- An id in two spellings. -/
theorem accepted_or_refused_caseless_shouted :
    Sample.plain.toLower = Sample.shouted.toLower ∧
      ((∃ id id', Accepted Sample.plain id ∧ Accepted Sample.shouted id' ∧
          id.lowered = id'.lowered) ∨
        ∃ r, Refused Sample.plain r ∧ Refused Sample.shouted r) := by
  have same : Sample.plain.toLower = Sample.shouted.toLower := by
    refine (ofList_lowered _).symm.trans (Eq.trans ?_ (ofList_lowered _))
    decide +kernel
  exact ⟨same, accepted_or_refused_caseless same⟩

end LinkId

end WorkspaceLink
