import WorkspaceLink.LinkId.Parts
import WorkspaceLink.Proofs.LinkId
import WorkspaceLink.Proofs.Pattern

/-!
# Reading by segments is reading by patterns

What the patterns of ids keep of a text are the parts that are read from its segments, and none of
the parts that a linked service is read from is ever missing.
-/

namespace WorkspaceLink

namespace ArmId

open Pattern

/-! ## The patterns, between slashes -/

theorem level_subscriptions : IsLevel "/subscriptions/" "subscriptions" := ⟨rfl, by decide⟩

theorem level_groups : IsLevel "/resourceGroups/" "resourceGroups" := ⟨rfl, by decide⟩

theorem level_providers : IsLevel "/providers/" "providers" := ⟨rfl, by decide⟩

variable {k p s t n : Segment} {ss : List Segment}

theorem short_or_two (ss : List Segment) : ss.length ≤ 1 ∨ ∃ k s rest, ss = k :: s :: rest := by
  rcases ss with _ | ⟨k, _ | ⟨s, rest⟩⟩ <;> simp

theorem short_or_four (ss : List Segment) :
    ss.length ≤ 3 ∨ ∃ k p t n rest, ss = k :: p :: t :: n :: rest := by
  rcases ss with _ | ⟨k, _ | ⟨p, _ | ⟨t, _ | ⟨n, rest⟩⟩⟩⟩ <;> simp

theorem length_le_one (h : ∀ k s rest, ss = k :: s :: rest → False) : ss.length ≤ 1 :=
  (short_or_two ss).resolve_right fun ⟨k, s, rest, he⟩ => h k s rest he

theorem first?_group_cons (ss : List Segment) (hk : '/' ∉ k) (hs : '/' ∉ s) :
    groupPattern.first? (slashed (k :: s :: ss)) =
      if Segment.isKeyword "resourceGroups" k then some ⟨[(.group, s)], slashed ss⟩ else none := by
  rw [groupPattern, level_groups.first?_seq_cons hk, first?_segment hs]

theorem first?_group_short (hs : ∀ s ∈ ss, '/' ∉ s) (hl : ss.length ≤ 1) :
    groupPattern.first? (slashed ss) = none :=
  level_groups.first?_seq_short hs hl

theorem first?_resource_cons (hk : '/' ∉ k) (hp : '/' ∉ p) (ht : '/' ∉ t) (hn : '/' ∉ n) :
    resourcePattern.first? (slashed (k :: p :: t :: n :: ss)) =
      if Segment.isKeyword "providers" k then
        some ⟨[(.provider, p), (.type, t), (.name, n),
          (.children, (slashed ss).takeWhile (· != '\n'))], (slashed ss).dropWhile (· != '\n')⟩
      else none := by
  have rest : (many (some Label.children) (· != '\n')).first? (slashed ss) =
      some ⟨[(.children, (slashed ss).takeWhile (· != '\n'))],
        (slashed ss).dropWhile (· != '\n')⟩ := by
    simp [first?, ways, head?_runs]
  rw [resourcePattern, level_providers.first?_seq_cons hk,
    first?_segment_seq (.inl led_slash.seq) hp, first?_slash_seq_cons,
    first?_segment_seq (.inl led_slash.seq) ht, first?_slash_seq_cons,
    first?_segment_seq (.inr total_many) hn, rest]
  rfl

theorem first?_resource_short (hs : ∀ s ∈ ss, '/' ∉ s) (hl : ss.length ≤ 3) :
    resourcePattern.first? (slashed ss) = none := by
  match ss, hl with
  | [], _ | [_], _ => exact level_providers.first?_seq_short hs (by simp)
  | [k, p], _ =>
      rw [resourcePattern, level_providers.first?_seq_cons (hs k (by simp)),
        first?_segment_seq (.inl led_slash.seq) (hs p (by simp)), first?_slash_seq_nil]
      exact ite_self _
  | [k, p, t], _ =>
      rw [resourcePattern, level_providers.first?_seq_cons (hs k (by simp)),
        first?_segment_seq (.inl led_slash.seq) (hs p (by simp)), first?_slash_seq_cons,
        first?_segment_seq (.inl led_slash.seq) (hs t (by simp)), first?_slash_seq_nil]
      exact ite_self _

/-! ## Children -/

/-- What the pattern of a child keeps of it. -/
def Child.parts (c : Child) : List (Child.Label × List Char) :=
  (c.provider.map fun p => (Child.Label.provider, p)).toList ++ [(.type, c.type), (.name, c.name)]

@[simp] theorem Child.lookup_provider (c : Child) : c.parts.lookup .provider = c.provider := by
  obtain ⟨_ | _, _, _⟩ := c <;> rfl

@[simp] theorem Child.lookup_type (c : Child) : c.parts.lookup .type = some c.type := by
  obtain ⟨_ | _, _, _⟩ := c <;> rfl

@[simp] theorem Child.lookup_name (c : Child) : c.parts.lookup .name = some c.name := by
  obtain ⟨_ | _, _, _⟩ := c <;> rfl

theorem first?_own_cons (ht : '/' ∉ t) (hn : '/' ∉ n) :
    Child.ownPattern.first? (slashed (t :: n :: ss)) =
      some ⟨Child.parts ⟨none, t, n⟩, slashed ss⟩ := by
  rw [Child.ownPattern, first?_slash_seq_cons, first?_segment_seq (.inl led_slash.seq) ht,
    first?_slash_seq_cons, first?_segment hn]
  rfl

theorem first?_own_short (ht : ∀ s ∈ ss, '/' ∉ s) (hl : ss.length ≤ 1) :
    Child.ownPattern.first? (slashed ss) = none := by
  match ss, hl with
  | [], _ => exact first?_slash_seq_nil
  | [t], _ =>
      rw [Child.ownPattern, first?_slash_seq_cons,
        first?_segment_seq (.inl led_slash.seq) (ht t (by simp)), first?_slash_seq_nil]
      rfl

theorem led_own : Child.ownPattern.Led := led_slash.seq

/-- A child is under a provider of its own if it can be. -/
theorem first?_child (cs : List Char) :
    Child.pattern.first? cs =
      ((Pattern.seq (.word "/providers/") <| .seq (.segment .provider) Child.ownPattern).first?
        cs).or (Child.ownPattern.first? cs) := by
  rw [first?, Child.pattern, ways_maybe_seq, ways_seq_assoc, List.head?_append]
  rfl

theorem first?_child_cons (ss : List Segment) (hk : '/' ∉ k) (hp : '/' ∉ p) (ht : '/' ∉ t)
    (hn : '/' ∉ n) :
    Child.pattern.first? (slashed (k :: p :: t :: n :: ss)) =
      if Segment.isKeyword "providers" k then some ⟨Child.parts ⟨some p, t, n⟩, slashed ss⟩
      else some ⟨Child.parts ⟨none, k, p⟩, slashed (t :: n :: ss)⟩ := by
  rw [first?_child, level_providers.first?_seq_cons hk, first?_own_cons hk hp,
    first?_segment_seq (.inl led_own) hp, first?_own_cons ht hn]
  split <;> rfl

/-- With less than two segments behind a provider, the provider is the child. -/
theorem first?_child_last (ht : '/' ∉ t) (hn : '/' ∉ n) (hs : ∀ s ∈ ss, '/' ∉ s)
    (hl : ss.length ≤ 1) :
    Child.pattern.first? (slashed (t :: n :: ss)) = some ⟨Child.parts ⟨none, t, n⟩, slashed ss⟩ := by
  rw [first?_child, level_providers.first?_seq_cons ht, first?_own_cons ht hn,
    first?_segment_seq (.inl led_own) hn, first?_own_short hs hl]
  simp

theorem first?_child_short (hs : ∀ s ∈ ss, '/' ∉ s) (hl : ss.length ≤ 1) :
    Child.pattern.first? (slashed ss) = none := by
  rw [first?_child, level_providers.first?_seq_short hs hl, first?_own_short hs hl]
  rfl

theorem led_child : Child.pattern.Led := by
  intro c cs h
  rw [Child.pattern, ways_maybe_seq, ways_seq_assoc, level_providers.led.seq c cs h,
    led_own c cs h]
  rfl

theorem all_child_short (hs : ∀ s ∈ ss, '/' ∉ s) (hl : ss.length ≤ 1) :
    Child.pattern.all (slashed ss) = [] := by
  match ss, hl with
  | [], _ => rw [slashed_nil, Pattern.all]
  | [s], hl =>
      have none := first?_child_short hs hl
      rw [slashed_cons, slashed_nil, List.append_nil] at none ⊢
      rw [all_cons_of_none none]
      exact all_eq_nil led_child (hs s (by simp))

theorem all_child_cons {m : List (Child.Label × List Char)} {rest : List Segment}
    (h : Child.pattern.first? (slashed (k :: ss)) = some ⟨m, slashed rest⟩) (hr : rest <:+ ss) :
    Child.pattern.all (slashed (k :: ss)) = ⟨m, slashed rest⟩ :: Child.pattern.all (slashed rest) := by
  obtain ⟨front, rfl⟩ := hr
  have shorter : (slashed rest).length ≤ (k ++ slashed (front ++ rest)).length := by
    rw [slashed_append, List.length_append, List.length_append]
    omega
  exact all_cons_of_match h shorter

theorem all_child (hs : ∀ s ∈ ss, '/' ∉ s) :
    (Child.pattern.all (slashed ss)).map Match.parts = (childrenOf ss).map Child.parts := by
  -- a search goes on behind what it found, as reading does behind a child
  induction ss using childrenOf.induct with
  | case1 k p t n rest hk ih =>
      have found := first?_child_cons rest (hs k (by simp)) (hs p (by simp)) (hs t (by simp))
        (hs n (by simp))
      rw [if_pos hk] at found
      rw [all_child_cons found ⟨[p, t, n], rfl⟩, List.map_cons, ih fun s h => hs s (by simp [h]),
        childrenOf, if_pos hk, List.map_cons]
  | case2 k p t n rest hk ih =>
      have found := first?_child_cons rest (hs k (by simp)) (hs p (by simp)) (hs t (by simp))
        (hs n (by simp))
      rw [if_neg hk] at found
      rw [all_child_cons found ⟨[p], rfl⟩, List.map_cons,
        ih fun s h => hs s (List.mem_cons_of_mem k (List.mem_cons_of_mem p h)), childrenOf,
        if_neg hk, List.map_cons]
  | case3 t n rest hr =>
      have short : rest.length ≤ 1 := length_le_one hr
      have inner : ∀ s ∈ rest, '/' ∉ s := fun s h => hs s (by simp [h])
      have found := first?_child_last (hs t (by simp)) (hs n (by simp)) inner short
      rw [all_child_cons found ⟨[n], rfl⟩, all_child_short inner short, childrenOf]
      · rfl
      · exact hr
  | case4 ss h h' =>
      rw [all_child_short hs (length_le_one h'), childrenOf]
      · rfl
      · exact h
      · exact h'

/-! ## Ids -/

theorem takeWhile_newline (ss : List Segment) :
    (slashed ss).takeWhile (· != '\n') = slashed (Segment.firstLine ss) := by
  induction ss with
  | nil => rfl
  | cons s ss ih =>
      have first : (slashed (s :: ss)).takeWhile (· != '\n') =
          '/' :: (s ++ slashed ss).takeWhile (· != '\n') := rfl
      rw [first, Segment.firstLine]
      split
      · rename_i h
        have stops : (s.takeWhile (· != '\n')).length ≠ s.length := by
          intro whole
          have all := List.all_takeWhile (p := (· != '\n')) (l := s)
          rw [(List.takeWhile_prefix _).eq_of_length whole] at all
          simpa using List.all_eq_true.mp all '\n' (by simpa using h)
        rw [List.takeWhile_append, if_neg stops, slashed_cons, slashed_nil, List.append_nil]
      · rename_i h
        rw [List.takeWhile_append_of_pos (by grind), ih, slashed_cons]

theorem slash_not_mem_firstLine (hs : ∀ s ∈ ss, '/' ∉ s) : ∀ s ∈ Segment.firstLine ss, '/' ∉ s := by
  intro s h hm
  obtain ⟨-, t, ht, hp⟩ := mem_firstLine h
  exact hs t ht (hp.mem hm)

/-- Labelled parts are those of an id. -/
structure Parts.Shows (ps : Parts) (a : ArmId) : Prop where
  subscription : ps.own.lookup .subscription = some a.subscription
  group : ps.own.lookup .group = a.group
  provider : ps.own.lookup .provider = a.resource.map Resource.provider
  type : ps.own.lookup .type = a.resource.map Resource.type
  name : ps.own.lookup .name = a.resource.map Resource.name
  children : ps.children = ((a.resource.map Resource.children).getD []).map Child.parts

/-- What is kept of a subscription and a group, in front of what is kept of a resource. -/
def scopeParts (subscription : Segment) (group : Option Segment)
    (parts : List (Label × List Char)) : List (Label × List Char) :=
  (.subscription, subscription) :: ((group.map fun g => (Label.group, g)).toList ++ parts)

theorem lookup_scopeParts {subscription : Segment} {group : Option Segment} {l : Label}
    {parts : List (Label × List Char)} (hs : l ≠ .subscription) (hg : l ≠ .group) :
    (scopeParts subscription group parts).lookup l = parts.lookup l := by
  have notSubscription : (l == .subscription) = false := beq_false_of_ne hs
  have notGroup : (l == .group) = false := beq_false_of_ne hg
  cases group <;> simp [scopeParts, List.lookup_cons, notSubscription, notGroup]

theorem shows_scopeParts {subscription : Segment} {group : Option Segment} {r : Option Resource}
    {m : Match Label} (hg : m.parts.lookup .group = none)
    (hp : m.parts.lookup .provider = r.map Resource.provider)
    (ht : m.parts.lookup .type = r.map Resource.type)
    (hn : m.parts.lookup .name = r.map Resource.name)
    (hc : (Child.pattern.all ((m.parts.lookup .children).getD [])).map Match.parts =
      ((r.map Resource.children).getD []).map Child.parts) :
    (Parts.ofMatch ⟨scopeParts subscription group m.parts, m.rest⟩).Shows
      ⟨subscription, group, r⟩ where
  subscription := rfl
  group := by
    cases group with
    | none => exact hg
    | some g => rfl
  provider := (lookup_scopeParts (by decide) (by decide)).trans hp
  type := (lookup_scopeParts (by decide) (by decide)).trans ht
  name := (lookup_scopeParts (by decide) (by decide)).trans hn
  children := by
    rw [← hc, Parts.ofMatch, lookup_scopeParts (by decide) (by decide)]

theorem resourceOf?_short (hl : ss.length ≤ 3) : resourceOf? ss = none := by
  match ss, hl with
  | [], _ | [_], _ | [_, _], _ | [_, _, _], _ => rfl

/-- Whatever stands in front of it, the resource that is matched is the one that is read. -/
theorem shows_resource (subscription : Segment) (group : Option Segment)
    (hs : ∀ s ∈ ss, '/' ∉ s) :
    ∃ m, (maybe resourcePattern).first? (slashed ss) = some m ∧
      (Parts.ofMatch ⟨scopeParts subscription group m.parts, m.rest⟩).Shows
        ⟨subscription, group, resourceOf? ss⟩ := by
  rw [first?_maybe]
  refine ⟨_, rfl, ?_⟩
  have nothing : Child.pattern.all [] = [] := by rw [Pattern.all]
  rcases short_or_four ss with short | ⟨k, p, t, n, rest, rfl⟩
  · rw [first?_resource_short hs short, resourceOf?_short short]
    exact shows_scopeParts rfl rfl rfl rfl (congrArg _ nothing)
  · rw [first?_resource_cons (hs k (by simp)) (hs p (by simp)) (hs t (by simp)) (hs n (by simp)),
      resourceOf?, takeWhile_newline]
    split
    · exact shows_scopeParts rfl rfl rfl rfl
        (all_child (slash_not_mem_firstLine fun s h => hs s (by simp [h])))
    · exact shows_scopeParts rfl rfl rfl rfl (congrArg _ nothing)

theorem shows_scope (subscription : Segment) (hs : ∀ s ∈ ss, '/' ∉ s) :
    ∃ m, ((maybe groupPattern).seq (maybe resourcePattern)).first? (slashed ss) = some m ∧
      (Parts.ofMatch ⟨(.subscription, subscription) :: m.parts, m.rest⟩).Shows
        (scopeOf subscription ss) := by
  rw [first?_seq_of_total total_maybe, first?_maybe, Option.bind_some]
  -- a group that is not there takes nothing, and the resource is looked for in its place
  have ungrouped (hf : groupPattern.first? (slashed ss) = none)
      (ho : scopeOf subscription ss = ⟨subscription, none, resourceOf? ss⟩) :
      ∃ m, ((maybe resourcePattern).first?
          ((groupPattern.first? (slashed ss)).getD ⟨[], slashed ss⟩).rest).map
            ((groupPattern.first? (slashed ss)).getD ⟨[], slashed ss⟩).andThen = some m ∧
        (Parts.ofMatch ⟨(.subscription, subscription) :: m.parts, m.rest⟩).Shows
          (scopeOf subscription ss) := by
    obtain ⟨m, hm, shows⟩ := shows_resource subscription none hs
    rw [hf, ho]
    exact ⟨m, by simp [hm, Match.nil_andThen], shows⟩
  match ss, hs with
  | k :: s :: rest, hs =>
      have group := first?_group_cons rest (hs k (by simp)) (hs s (by simp))
      have inner : ∀ t ∈ rest, '/' ∉ t := fun t h => hs t (by simp [h])
      by_cases hk : Segment.isKeyword "resourceGroups" k = true
      · obtain ⟨m, hm, shows⟩ := shows_resource subscription (some s) inner
        rw [group, if_pos hk, scopeOf, if_pos hk]
        exact ⟨⟨(.group, s) :: m.parts, m.rest⟩, by simp [hm, Match.andThen], shows⟩
      · exact ungrouped (by rw [group, if_neg hk]) (by rw [scopeOf, if_neg hk])
  | [], hs | [_], hs => exact ungrouped (first?_group_short hs (by simp)) rfl

theorem ofSegments?_short (hl : ss.length ≤ 1) : ofSegments? ([] :: ss) = none := by
  match ss, hl with
  | [], _ | [_], _ => rfl

/-- The pattern of ids matches where an id is read, and keeps its parts. -/
theorem first?_pattern (cs : List Char) :
    match parse? cs with
    | some a => ∃ m, pattern.first? cs = some m ∧ (Parts.ofMatch m).Shows a
    | none => pattern.first? cs = none := by
  have hs : ∀ s ∈ Segment.split cs, '/' ∉ s := fun s h => Text.not_mem_of_mem_split h
  have text : Segment.join (Segment.split cs) = cs := Text.join_split '/' cs
  have some : Segment.split cs ≠ [] := Text.split_ne_nil '/' cs
  rw [parse?]
  generalize Segment.split cs = segments at hs text some
  obtain ⟨first, ss, rfl⟩ := List.exists_cons_of_ne_nil some
  rw [join_cons] at text
  subst text
  cases first with
  | cons c s =>
      have other : c ≠ '/' := fun h => hs _ List.mem_cons_self (by simp [h])
      exact congrArg List.head? (level_subscriptions.led.seq c (s ++ slashed ss) other)
  | nil =>
      have inner : ∀ s ∈ ss, '/' ∉ s := fun s h => hs s (by simp [h])
      rw [List.nil_append]
      rcases short_or_two ss with short | ⟨k, s, rest, rfl⟩
      · rw [ofSegments?_short short]
        exact level_subscriptions.first?_seq_short inner short
      · have behind : ∀ t ∈ rest, '/' ∉ t := fun t h => inner t (by simp [h])
        rw [pattern, level_subscriptions.first?_seq_cons (inner k (by simp)), ofSegments?]
        by_cases hk : Segment.isKeyword "subscriptions" k = true
        · obtain ⟨m, hm, shows⟩ := shows_scope s behind
          rw [if_pos hk, if_pos hk,
            first?_segment_seq (.inr (total_maybe.seq total_maybe)) (inner s (by simp)), hm]
          exact ⟨⟨(.subscription, s) :: m.parts, m.rest⟩, rfl, shows⟩
        · rw [if_neg hk, if_neg hk]

theorem shows_of_parse? {cs : List Char} {a : ArmId} (h : parse? cs = some a) :
    (Parts.ofText cs).Shows a := by
  have found := first?_pattern cs
  rw [h] at found
  obtain ⟨m, hm, shows⟩ := found
  rwa [Parts.ofText, hm]

theorem ofText_of_parse?_none {cs : List Char} (h : parse? cs = none) :
    Parts.ofText cs = ⟨[(.name, cs)], []⟩ := by
  have found := first?_pattern cs
  rw [h] at found
  rw [Parts.ofText, found]

/-! ## Writing and reading -/

theorem childSegments_parts (cs : List Child) :
    Parts.childSegments (cs.map Child.parts) = cs.flatMap Child.segments := by
  induction cs with
  | nil => rfl
  | cons c cs ih =>
      simp [Parts.childSegments, Child.segments, ih]

theorem Parts.Shows.print? {ps : Parts} {a : ArmId} (h : ps.Shows a) :
    ps.print? = some a.print := by
  obtain ⟨subscription, group, resource⟩ := a
  rw [Parts.print?, h.subscription, h.group, h.provider, h.type, h.name, h.children]
  cases resource with
  | none => simp [ArmId.print, segments]
  | some r => simp [ArmId.print, segments, Resource.segments, childSegments_parts]

theorem print?_unmatched (cs : List Char) : Parts.print? ⟨[(.name, cs)], []⟩ = none := rfl

theorem isValid_parts (cs : List Char) : Parts.isValid cs = isValid cs := by
  rw [Parts.isValid, isValid, valid?]
  cases h : parse? cs with
  | none => simp [ofText_of_parse?_none h, print?_unmatched]
  | some a =>
      rw [(shows_of_parse? h).print?, Bool.eq_iff_iff]
      simp

end ArmId

namespace LinkId

theorem demand_eq_ok {κ : Type} [BEq κ] {trouble : κ → Trouble} {parts : List (κ × List Char)}
    {label : κ} {part : List Char} (h : parts.lookup label = some part) :
    demand trouble parts label = .ok part := by
  rw [demand, h]

/-- Reading an id from the parts that patterns keep is reading it from its segments: no part that is
looked up is missing. -/
theorem ofParts_eq (cs : List Char) : ofParts cs = (ofText cs).mapError .refused := by
  rw [ofParts, ofText, ArmId.isValid_parts, ArmId.isValid]
  cases hv : ArmId.valid? cs with
  | none => rfl
  | some a =>
      obtain ⟨hs, hg, -, ht, hn, hc⟩ :=
        ArmId.shows_of_parse? (ArmId.valid?_eq_some_iff.mp hv).1
      obtain ⟨subscription, group, _ | ⟨provider, type, name, children⟩⟩ := a
      · simp only [ht, Option.map_none]
        rfl
      · simp only [ht, hg, hc, ofArmId, Option.map_some, Option.getD_some, Option.isSome_some,
          Bool.not_true, Bool.false_eq_true, if_false]
        split
        · rfl
        · cases children with
          | nil => rfl
          | cons child rest =>
              simp only [List.map_cons, List.head?_cons, Option.getD_some,
                ArmId.Child.lookup_type, ArmId.Child.lookup_name]
              split
              · rfl
              · split
                · rfl
                · rename_i whole
                  cases group with
                  | none => exact absurd rfl whole
                  | some g =>
                      rw [demand_eq_ok hs, demand_eq_ok hg, demand_eq_ok hn,
                        demand_eq_ok child.lookup_name]
                      rfl

end LinkId

end WorkspaceLink
