import WorkspaceLink.Pattern
import WorkspaceLink.Proofs.LowerCase

/-!
# How patterns match

Where what follows a run can only begin with the character that ends the run, there is no choice in
the run. So between slashes a pattern matches segment by segment.
-/

namespace WorkspaceLink

namespace Pattern

variable {κ : Type} {p q r : Pattern κ} {cs : List Char} {test : Char → Bool}

/-! ## Runs -/

theorem head?_runs (test : Char → Bool) (cs : List Char) :
    (runs test cs).head? = some (cs.takeWhile test, cs.dropWhile test) := by
  induction cs with
  | nil => rfl
  | cons c cs ih =>
      cases h : test c <;> simp [runs, h, ih]

theorem mem_runs_iff {a b : List Char} :
    (a, b) ∈ runs test cs ↔ cs = a ++ b ∧ ∀ c ∈ a, test c = true := by
  induction cs generalizing a with
  | nil =>
      simp only [runs, List.mem_singleton, Prod.mk.injEq, List.nil_eq_append_iff]
      exact ⟨fun h => ⟨h, by simp [h.1]⟩, And.left⟩
  | cons c cs ih =>
      have stopped : (a, b) = ([], c :: cs) → c :: cs = a ++ b ∧ ∀ d ∈ a, test d = true := by
        rintro ⟨⟩
        simp
      cases h : test c with
      | true =>
          simp only [runs, h, if_true, List.mem_append, List.mem_map, List.mem_singleton]
          constructor
          · rintro (⟨⟨a', b'⟩, hr, he⟩ | he)
            · obtain ⟨rfl, rfl⟩ := Prod.mk.inj he
              obtain ⟨rfl, ha⟩ := ih.mp hr
              exact ⟨rfl, by simpa [h] using ha⟩
            · exact stopped he
          · rintro ⟨he, ha⟩
            cases a with
            | nil => exact .inr (by simpa using he.symm)
            | cons d a =>
                obtain ⟨rfl, rfl⟩ := List.cons.inj he
                exact .inl ⟨(a, b), ih.mpr ⟨rfl, fun d hd => ha d (by simp [hd])⟩, rfl⟩
      | false =>
          simp only [runs, h, Bool.false_eq_true, if_false, List.mem_singleton]
          refine ⟨stopped, ?_⟩
          rintro ⟨he, ha⟩
          cases a with
          | nil => simpa using he.symm
          | cons d a =>
              obtain ⟨rfl, -⟩ := List.cons.inj he
              simp [h] at ha

/-- Where nothing goes on from within a run, only the whole run counts. -/
theorem flatMap_runs {β : Type} {f : List Char × List Char → List β}
    (h : ∀ a c b, test c = true → f (a, c :: b) = []) :
    (runs test cs).flatMap f = f (cs.takeWhile test, cs.dropWhile test) := by
  induction cs generalizing f with
  | nil => simp [runs]
  | cons c cs ih =>
      cases ht : test c with
      | true =>
          have inner := ih (f := fun r => f (c :: r.1, r.2)) fun a d b hd => h (c :: a) d b hd
          simp [runs, ht, List.flatMap_map, inner, h [] c cs ht]
      | false => simp [runs, ht]

/-! ## Sequences -/

theorem ways_seq_assoc : ((p.seq q).seq r).ways cs = (p.seq (q.seq r)).ways cs := by
  have regroup (m n : Match κ) (l : List (Match κ)) :
      l.map (m.andThen n).andThen = l.map (m.andThen ∘ n.andThen) :=
    List.map_congr_left fun k _ => Match.andThen_assoc m n k
  simp only [ways, List.flatMap_assoc, List.flatMap_map, List.map_flatMap, List.map_map, regroup,
    Match.rest_andThen]

theorem ways_seq_of_skip {rest : List Char} (h : p.ways cs = [⟨[], rest⟩]) :
    (p.seq q).ways cs = q.ways rest := by
  have skipped : (q.ways rest).map (Match.andThen ⟨[], rest⟩) = q.ways rest := List.map_id _
  simp [ways, h, skipped]

theorem ways_seq_of_nil (h : p.ways cs = []) : (p.seq q).ways cs = [] := by
  simp [ways, h]

theorem ways_maybe_seq :
    ((p.maybe).seq q).ways cs = (p.seq q).ways cs ++ q.ways cs := by
  have skipped : (q.ways cs).map (Match.andThen ⟨[], cs⟩) = q.ways cs := List.map_id _
  simp [ways, skipped]

theorem begins_iff : p.Begins cs ↔ ∃ m, m ∈ p.ways cs := List.ne_nil_iff_exists_cons.trans
  ⟨fun ⟨m, _, h⟩ => ⟨m, by simp [h]⟩, fun ⟨_, h⟩ => List.exists_cons_of_ne_nil (List.ne_nil_of_mem h)⟩

/-- A pattern matches at the start of every text. -/
def Total (p : Pattern κ) : Prop := ∀ cs, p.Begins cs

theorem total_many {label : Option κ} : (many label test).Total := by
  intro cs h
  have head := head?_runs test cs
  rw [List.map_eq_nil_iff.mp h] at head
  cases head

theorem total_maybe : (p.maybe).Total := fun _ => by simp [Begins, ways]

theorem Total.seq (hp : p.Total) (hq : q.Total) : (p.seq q).Total := by
  intro cs
  obtain ⟨m, hm⟩ := begins_iff.mp (hp cs)
  obtain ⟨n, hn⟩ := begins_iff.mp (hq m.rest)
  exact begins_iff.mpr ⟨_, List.mem_flatMap.mpr ⟨m, hm, List.mem_map.mpr ⟨n, hn, rfl⟩⟩⟩

/-- A pattern that always matches takes nothing back of what was matched before it. -/
theorem first?_seq_of_total (hq : q.Total) :
    (p.seq q).first? cs = (p.first? cs).bind fun m => (q.first? m.rest).map m.andThen := by
  simp only [first?, ways]
  cases p.ways cs with
  | nil => rfl
  | cons m ms =>
      obtain ⟨n, ns, h⟩ := List.exists_cons_of_ne_nil (hq m.rest)
      simp [h]

theorem first?_maybe : (p.maybe).first? cs = some ((p.first? cs).getD ⟨[], cs⟩) := by
  simp only [first?, ways]
  cases p.ways cs <;> rfl

/-! ## What is left -/

/-- A pattern can match the beginning of a text in a way that leaves this of it. -/
def Leaves (p : Pattern κ) (cs rest : List Char) : Prop := ∃ m ∈ p.ways cs, m.rest = rest

theorem leaves_one {rest : List Char} :
    (one test : Pattern κ).Leaves cs rest ↔ ∃ c, cs = c :: rest ∧ test c = true := by
  cases cs with
  | nil => simp [Leaves, ways]
  | cons c cs =>
      constructor
      · rintro ⟨m, hm, rfl⟩
        rw [ways] at hm
        split at hm
        · rename_i h
          obtain rfl := List.mem_singleton.mp hm
          exact ⟨c, rfl, h⟩
        · cases hm
      · rintro ⟨_, he, h⟩
        obtain ⟨rfl, rfl⟩ := List.cons.inj he
        exact ⟨⟨[], cs⟩, by simp [ways, h], rfl⟩

theorem leaves_many {label : Option κ} {rest : List Char} :
    (many label test).Leaves cs rest ↔ ∃ a, cs = a ++ rest ∧ ∀ c ∈ a, test c = true := by
  simp only [Leaves, ways, List.mem_map]
  constructor
  · rintro ⟨m, ⟨⟨a, b⟩, hr, rfl⟩, rfl⟩
    exact ⟨a, mem_runs_iff.mp hr⟩
  · rintro ⟨a, h⟩
    exact ⟨_, ⟨(a, rest), mem_runs_iff.mpr h, rfl⟩, rfl⟩

theorem leaves_seq {rest : List Char} :
    (p.seq q).Leaves cs rest ↔ ∃ between, p.Leaves cs between ∧ q.Leaves between rest := by
  simp only [Leaves, ways, List.mem_flatMap, List.mem_map]
  constructor
  · rintro ⟨_, ⟨m, hm, n, hn, rfl⟩, rfl⟩
    exact ⟨m.rest, ⟨m, hm, rfl⟩, n, hn, rfl⟩
  · rintro ⟨_, ⟨m, hm, rfl⟩, n, hn, rfl⟩
    exact ⟨m.andThen n, ⟨m, hm, n, hn, rfl⟩, rfl⟩

/-- A pattern matches exactly the texts with a property, whatever stands behind them. -/
def Spells (p : Pattern κ) (P : List Char → Prop) : Prop :=
  ∀ cs rest, p.Leaves cs rest ↔ ∃ body, cs = body ++ rest ∧ P body

/-- A pattern up to the end matches what it spells, with or without a newline behind it. -/
theorem Spells.begins_ending_iff {P : List Char → Prop} (h : p.Spells P) :
    (p.seq .ending).Begins cs ↔ P cs ∨ ∃ body, cs = body ++ ['\n'] ∧ P body := by
  have ended : (p.seq .ending).Begins cs ↔ p.Leaves cs [] ∨ p.Leaves cs ['\n'] := by
    simp only [begins_iff, Leaves, ways, List.mem_flatMap]
    constructor
    · rintro ⟨_, m, hm, hn⟩
      split at hn
      · rename_i hr
        exact hr.imp (fun hr => ⟨m, hm, hr⟩) fun hr => ⟨m, hm, hr⟩
      · cases hn
    · rintro (⟨m, hm, hr⟩ | ⟨m, hm, hr⟩) <;>
        exact ⟨m.andThen ⟨[], m.rest⟩, m, hm, by simp [hr]⟩
  rw [ended, h, h]
  simp

/-! ## Between slashes -/

/-- Segments, each behind a slash. -/
def slashed (ss : List Segment) : List Char := ss.flatMap ('/' :: ·)

@[simp] theorem slashed_nil : slashed [] = [] := rfl

@[simp] theorem slashed_cons (s : Segment) (ss : List Segment) :
    slashed (s :: ss) = '/' :: (s ++ slashed ss) := rfl

theorem slashed_append (ss ts : List Segment) : slashed (ss ++ ts) = slashed ss ++ slashed ts :=
  List.flatMap_append

theorem join_cons (s : Segment) (ss : List Segment) :
    Segment.join (s :: ss) = s ++ slashed ss := by
  induction ss generalizing s with
  | nil => simp [Text.join]
  | cons t ss ih =>
      have step : Segment.join (s :: t :: ss) = s ++ '/' :: Segment.join (t :: ss) := rfl
      rw [step, ih, slashed_cons]

variable {s : Segment} {ss : List Segment}

theorem takeWhile_slashed (hs : '/' ∉ s) : (s ++ slashed ss).takeWhile (· != '/') = s := by
  have ends : (slashed ss).takeWhile (· != '/') = [] := by cases ss <;> simp
  rw [List.takeWhile_append_of_pos (by grind), ends, List.append_nil]

theorem dropWhile_slashed (hs : '/' ∉ s) :
    (s ++ slashed ss).dropWhile (· != '/') = slashed ss := by
  have begins : (slashed ss).dropWhile (· != '/') = slashed ss := by cases ss <;> simp
  rw [List.dropWhile_append_of_pos (by grind), begins]

/-- A pattern matches only what begins with a slash. -/
def Led (p : Pattern κ) : Prop := ∀ c cs, c ≠ '/' → p.ways (c :: cs) = []

theorem Led.seq (hp : p.Led) : (p.seq q).Led := fun c cs h => by simp [ways, hp c cs h]

theorem foldKeywordChar_eq_slash_iff {c : Char} : Segment.foldKeywordChar c = '/' ↔ c = '/' := by
  constructor
  · intro h
    unfold Segment.foldKeywordChar at h
    split at h
    · cases h
    · split at h
      · cases h
      · split at h
        · cases h
        · split at h
          · rcases Unicode.toNat_toLower c with same | letter
            · exact same.symm.trans h
            · rw [h] at letter
              exact absurd letter (by decide)
          · exact h
  · rintro rfl
    rfl

theorem slash_mem_map_fold {cs : List Char} :
    '/' ∈ cs.map Segment.foldKeywordChar ↔ '/' ∈ cs := by
  simp [foldKeywordChar_eq_slash_iff]

theorem led_word {w : String} {cs : List Char} (hw : w.toList = '/' :: cs) :
    (word w : Pattern κ).Led := by
  intro c ds h
  refine if_neg fun keyword => h ?_
  simp only [Segment.isKeyword, ← String.length_toList, hw, List.length_cons, List.take_succ_cons,
    List.map_cons, beq_iff_eq, List.cons.injEq] at keyword
  exact foldKeywordChar_eq_slash_iff.mp keyword.1

/-- Runs between slashes are whole segments. -/
theorem ways_segment_seq {label : κ} (hq : q.Led) (hs : '/' ∉ s) :
    ((segment label).seq q).ways (s ++ slashed ss) =
      (q.ways (slashed ss)).map (Match.andThen ⟨[(label, s)], slashed ss⟩) := by
  -- a run that stops early leaves a character that nothing begins with
  have inside (a : List Char) (c : Char) (b : List Char) (h : (c != '/') = true) :
      (q.ways (c :: b)).map (Match.andThen ⟨[(label, a)], c :: b⟩) = [] := by
    rw [hq c b (by simpa using h), List.map_nil]
  simp only [segment, ways, List.flatMap_map, Option.map_some, Option.toList_some]
  rw [flatMap_runs inside, takeWhile_slashed hs, dropWhile_slashed hs]

theorem first?_segment {label : κ} (hs : '/' ∉ s) :
    (segment label).first? (s ++ slashed ss) = some ⟨[(label, s)], slashed ss⟩ := by
  simp [first?, segment, ways, head?_runs, takeWhile_slashed hs, dropWhile_slashed hs]

theorem first?_segment_seq {label : κ} (hq : q.Led ∨ q.Total) (hs : '/' ∉ s) :
    ((segment label).seq q).first? (s ++ slashed ss) =
      (q.first? (slashed ss)).map (Match.andThen ⟨[(label, s)], slashed ss⟩) := by
  rcases hq with led | total
  · rw [first?, ways_segment_seq led hs, List.head?_map]
    rfl
  · rw [first?_seq_of_total total, first?_segment hs]
    rfl

/-- Up to a mark, a text is one word or another. -/
theorem take_append_mark_iff {mark : Char} {as bs : List Char} (cs : List Char) (ha : mark ∉ as)
    (hb : mark ∉ bs) : (as ++ mark :: cs).take (bs.length + 1) = bs ++ [mark] ↔ as = bs := by
  induction as generalizing bs with
  | nil => cases bs <;> simp_all
  | cons a as ih =>
      simp only [List.mem_cons, not_or] at ha
      cases bs with
      | nil => simp [Ne.symm ha.1]
      | cons b bs =>
          simp only [List.mem_cons, not_or] at hb
          simp [ih ha.2 hb.2]

/-- A word is a keyword between slashes. -/
structure IsLevel (w keyword : String) : Prop where
  spelled : w.toList = '/' :: (keyword.toList ++ ['/'])
  plain : '/' ∉ keyword.toList

variable {w keyword : String} {k : Segment}

theorem IsLevel.ways_cons (h : IsLevel w keyword) (hk : '/' ∉ k) :
    (word w : Pattern κ).ways (slashed (k :: s :: ss)) =
      if Segment.isKeyword keyword k then [⟨[], s ++ slashed ss⟩] else [] := by
  have length : w.length = keyword.toList.length + 2 := by
    rw [← String.length_toList, h.spelled]
    simp
  have same : Segment.isKeyword w ((slashed (k :: s :: ss)).take w.length) =
      Segment.isKeyword keyword k := by
    rw [Bool.eq_iff_iff, Segment.isKeyword, Segment.isKeyword, beq_iff_eq, beq_iff_eq, length,
      h.spelled]
    have mark := take_append_mark_iff ((s ++ slashed ss).map Segment.foldKeywordChar)
      (mt slash_mem_map_fold.mp hk) (mt slash_mem_map_fold.mp h.plain)
    have slash : Segment.foldKeywordChar '/' = '/' := rfl
    simpa [slash] using mark
  rw [ways, same]
  by_cases hkey : Segment.isKeyword keyword k = true
  · have spelled : k.length = keyword.toList.length := by
      rw [Segment.isKeyword, beq_iff_eq] at hkey
      simpa using congrArg List.length hkey
    simp [hkey, length, ← spelled]
  · simp [hkey]

theorem IsLevel.ways_short (h : IsLevel w keyword) (hs : ∀ s ∈ ss, '/' ∉ s) (hl : ss.length ≤ 1) :
    (word w : Pattern κ).ways (slashed ss) = [] := by
  refine if_neg fun same => ?_
  simp only [Segment.isKeyword, beq_iff_eq, ← String.length_toList, h.spelled] at same
  match ss, hl with
  | [], _ => simp at same
  | [s], _ =>
      have second : '/' ∈ (s.take (keyword.toList.length + 1)).map Segment.foldKeywordChar := by
        simp only [slashed_cons, slashed_nil, List.append_nil, List.length_cons,
          List.length_append, List.length_nil, List.take_succ_cons, List.map_cons,
          List.map_append, List.cons.injEq, true_and] at same
        rw [same]
        exact List.mem_append_right _ (List.mem_singleton.mpr rfl)
      rw [slash_mem_map_fold] at second
      exact hs s (by simp) (List.mem_of_mem_take second)

theorem IsLevel.led (h : IsLevel w keyword) : (word w : Pattern κ).Led := led_word h.spelled

theorem IsLevel.first?_seq_cons (h : IsLevel w keyword) (hk : '/' ∉ k) :
    ((word w).seq q).first? (slashed (k :: s :: ss)) =
      if Segment.isKeyword keyword k then q.first? (s ++ slashed ss) else none := by
  have level : (word w : Pattern κ).ways (slashed (k :: s :: ss)) = _ := h.ways_cons hk
  split
  · rename_i same
    rw [if_pos same] at level
    rw [first?, ways_seq_of_skip level, first?]
  · rename_i other
    rw [if_neg other] at level
    rw [first?, ways_seq_of_nil level, List.head?_nil]

theorem IsLevel.first?_seq_short (h : IsLevel w keyword) (hs : ∀ s ∈ ss, '/' ∉ s)
    (hl : ss.length ≤ 1) : ((word w).seq q).first? (slashed ss) = none := by
  rw [first?, ways_seq_of_nil (h.ways_short hs hl), List.head?_nil]

theorem led_slash : (word "/" : Pattern κ).Led := led_word (show "/".toList = ['/'] from rfl)

theorem first?_slash_seq_cons :
    ((word "/").seq q).first? (slashed (s :: ss)) = q.first? (s ++ slashed ss) := by
  have slash : (word "/" : Pattern κ).ways (slashed (s :: ss)) = [⟨[], s ++ slashed ss⟩] := rfl
  rw [first?, ways_seq_of_skip slash, first?]

theorem first?_slash_seq_nil : ((word "/").seq q).first? (slashed []) = none := rfl

/-! ## All matches -/

theorem all_cons_of_match {c : Char} {m : Match κ} (h : p.first? (c :: cs) = some m)
    (hl : m.rest.length ≤ cs.length) : p.all (c :: cs) = m :: p.all m.rest := by
  rw [all, h]
  exact if_pos hl

theorem all_cons_of_none {c : Char} (h : p.first? (c :: cs) = none) :
    p.all (c :: cs) = p.all cs := by
  rw [all, h]

theorem all_eq_nil (hp : p.Led) (hs : '/' ∉ cs) : p.all cs = [] := by
  induction cs with
  | nil => rw [all]
  | cons c cs ih =>
      simp only [List.mem_cons, not_or] at hs
      have none : p.first? (c :: cs) = none := by
        rw [first?, hp c cs (Ne.symm hs.1), List.head?_nil]
      rw [all_cons_of_none none, ih hs.2]

end Pattern

end WorkspaceLink
