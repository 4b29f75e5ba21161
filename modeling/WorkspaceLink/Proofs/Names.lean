import WorkspaceLink.Proofs.Pattern
import WorkspaceLink.Rule

/-!
# How names are spelled

The rules for the names of resource groups and workspaces, against the grammars of these names. A
pattern ends at the end of a text or in front of a last newline, so the rules let a newline stand
behind a name: besides the texts of the grammars they let some lines through.
-/

namespace WorkspaceLink

/-! ## Last newlines -/

namespace Text

theorem dropLastNewline_line (body : List Char) : dropLastNewline (body ++ ['\n']) = body := by
  simp [dropLastNewline]

theorem dropLastNewline_of_not_mem {cs : List Char} (h : '\n' ∉ cs) : dropLastNewline cs = cs := by
  rw [dropLastNewline, if_neg]
  exact fun last => h (List.mem_of_getLast? last)

/-- For a property of texts of one line, a last newline is passed over where there is one. -/
theorem dropLastNewline_iff {P : List Char → Prop} {cs : List Char}
    (line : ∀ body, P body → '\n' ∉ body) :
    P (dropLastNewline cs) ↔ P cs ∨ ∃ body, cs = body ++ ['\n'] ∧ P body := by
  constructor
  · intro h
    unfold dropLastNewline at h
    split at h
    · rename_i last
      obtain ⟨body, rfl⟩ := List.getLast?_eq_some_iff.mp last
      exact .inr ⟨body, rfl, by simpa using h⟩
    · exact .inl h
  · rintro (h | ⟨body, rfl, h⟩)
    · rwa [dropLastNewline_of_not_mem (line cs h)]
    · rwa [dropLastNewline_line]

end Text

namespace Rule

variable {cs : List Char}

/-! ## Resource groups -/

def GroupBody (cs : List Char) : Prop := cs ≠ [] ∧ ∀ c ∈ cs, isGroupChar c = true

theorem GroupBody.oneLine (h : GroupBody cs) : '\n' ∉ cs := by
  intro hm
  have newline : isGroupChar '\n' = false := by decide +kernel
  cases newline.symm.trans (h.2 _ hm)

def groupPattern : Pattern Empty :=
  .seq (.seq (.one isGroupChar) (.many none isGroupChar)) .ending

theorem spells_group :
    (Pattern.seq (.one isGroupChar) (.many none isGroupChar) : Pattern Empty).Spells GroupBody := by
  intro cs rest
  simp only [Pattern.leaves_seq, Pattern.leaves_one, Pattern.leaves_many]
  constructor
  · rintro ⟨_, ⟨c, rfl, hc⟩, a, rfl, ha⟩
    exact ⟨c :: a, rfl, by simp, by simpa [hc] using ha⟩
  · rintro ⟨body, rfl, nonempty, hb⟩
    obtain ⟨c, a, rfl⟩ := List.exists_cons_of_ne_nil nonempty
    exact ⟨a ++ rest, ⟨c, rfl, hb c (by simp)⟩, a, rfl, fun d hd => hb d (by simp [hd])⟩

theorem isGroupName_iff :
    isGroupName cs = true ↔ GroupBody cs ∨ ∃ body, cs = body ++ ['\n'] ∧ GroupBody body := by
  rw [← Text.dropLastNewline_iff fun _ => GroupBody.oneLine]
  simp [isGroupName, GroupBody]

/-- The test for names of resource groups is their pattern. -/
theorem isGroupName_iff_begins : isGroupName cs = true ↔ groupPattern.Begins cs := by
  rw [isGroupName_iff, groupPattern, spells_group.begins_ending_iff]

/-- The characters that the name of a resource group may have: those of words, and some signs. -/
def GroupChars (cs : List Char) : Prop :=
  ∀ c ∈ cs, Unicode.isWord c = true ∨ c ∈ ['-', '.', '_', '(', ')']

theorem groupBody_iff : GroupBody cs ↔ 1 ≤ cs.length ∧ GroupChars cs := by
  have underscore : Unicode.isWord '_' = true := by decide +kernel
  have same (c : Char) :
      isGroupChar c = true ↔ Unicode.isWord c = true ∨ c ∈ ['-', '.', '_', '(', ')'] := by
    simp only [isGroupChar, Bool.or_eq_true, beq_iff_eq, List.mem_cons, List.not_mem_nil, or_false]
    grind
  simp only [GroupBody, GroupChars, same, Nat.one_le_iff_ne_zero, ne_eq, List.length_eq_zero_iff]

structure GroupGrammar (cs : List Char) : Prop where
  chars : GroupChars cs
  nonempty : 1 ≤ cs.length
  short : cs.length ≤ 90
  last : cs.getLast? ≠ some '.'

/-- A newline behind the characters of a name, which may end with a period then. -/
def GroupLine (cs : List Char) : Prop :=
  ∃ body, cs = body ++ ['\n'] ∧ GroupChars body ∧ 1 ≤ body.length ∧ body.length ≤ 89

theorem groupName_eq_nil_iff {key s : String} :
    groupName key (.str s) = [] ↔
      s.length ≤ maxGroupLength ∧ s.toList.getLast? ≠ some '.' ∧ isGroupName s.toList = true := by
  by_cases hs : s = ""
  · subst hs
    simp [groupName, isGroupName, Text.dropLastNewline]
  · simp [groupName, hs]

/-- The rule for the names of resource groups lets the texts of the grammar through, and some lines. -/
theorem groupName_fit_iff (key s : String) :
    groupName key (.str s) = [] ↔ GroupGrammar s.toList ∨ GroupLine s.toList := by
  rw [groupName_eq_nil_iff, isGroupName_iff, ← String.length_toList, maxGroupLength]
  generalize s.toList = cs
  constructor
  · rintro ⟨short, last, body | ⟨body, rfl, spelled⟩⟩
    · obtain ⟨nonempty, chars⟩ := groupBody_iff.mp body
      exact .inl ⟨chars, nonempty, short, last⟩
    · -- the newline counts as a character, and a period may hide in front of it
      obtain ⟨nonempty, chars⟩ := groupBody_iff.mp spelled
      rw [List.length_append, List.length_singleton] at short
      exact .inr ⟨body, rfl, chars, nonempty, by omega⟩
  · rintro (⟨chars, nonempty, short, last⟩ | ⟨body, rfl, chars, nonempty, short⟩)
    · exact ⟨short, last, .inl (groupBody_iff.mpr ⟨nonempty, chars⟩)⟩
    · refine ⟨?_, by simp, .inr ⟨body, rfl, groupBody_iff.mpr ⟨nonempty, chars⟩⟩⟩
      rw [List.length_append, List.length_singleton]
      omega

theorem GroupGrammar.oneLine (h : GroupGrammar cs) : '\n' ∉ cs :=
  (groupBody_iff.mpr ⟨h.nonempty, h.chars⟩).oneLine

theorem GroupLine.not_grammar (h : GroupLine cs) : ¬ GroupGrammar cs := by
  intro grammar
  obtain ⟨body, rfl, -⟩ := h
  exact grammar.oneLine (by simp)

/-! ## Workspaces -/

def WorkspaceBody (cs : List Char) : Prop :=
  3 ≤ cs.length ∧ (∀ c ∈ cs, isWorkspaceChar c = true) ∧ cs.head? ≠ some '-' ∧
    cs.getLast? ≠ some '-'

theorem WorkspaceBody.oneLine (h : WorkspaceBody cs) : '\n' ∉ cs := by
  intro hm
  have newline : isWorkspaceChar '\n' = false := by decide
  cases newline.symm.trans (h.2.1 _ hm)

theorem isAlphanum_iff {c : Char} :
    c.isAlphanum = true ↔ isWorkspaceChar c = true ∧ c ≠ '-' := by
  have dash : ¬ Char.isAlphanum '-' = true := by decide
  simp only [isWorkspaceChar, Bool.or_eq_true, beq_iff_eq]
  constructor
  · intro h
    refine ⟨.inr h, ?_⟩
    rintro rfl
    exact dash h
  · rintro ⟨rfl | h, other⟩
    · exact absurd rfl other
    · exact h

def workspaceOwnPattern : Pattern Empty :=
  .seq (.one Char.isAlphanum) <|
    .seq (.seq (.one isWorkspaceChar) (.many none isWorkspaceChar)) (.one Char.isAlphanum)

def workspacePattern : Pattern Empty := .seq workspaceOwnPattern .ending

theorem workspaceBody_cons_iff {c d e : Char} {a : List Char} :
    WorkspaceBody (c :: d :: (a ++ [e])) ↔
      c.isAlphanum = true ∧ isWorkspaceChar d = true ∧ (∀ x ∈ a, isWorkspaceChar x = true) ∧
        e.isAlphanum = true := by
  rw [isAlphanum_iff, isAlphanum_iff]
  have last : (c :: d :: (a ++ [e])).getLast? = some e := by
    rw [← List.cons_append, ← List.cons_append, List.getLast?_concat]
  simp only [WorkspaceBody, last, List.head?_cons]
  grind

theorem spells_workspace : workspaceOwnPattern.Spells WorkspaceBody := by
  intro cs rest
  simp only [workspaceOwnPattern, Pattern.leaves_seq, Pattern.leaves_one, Pattern.leaves_many]
  constructor
  · rintro ⟨_, ⟨c, rfl, hc⟩, _, ⟨_, ⟨d, rfl, hd⟩, a, rfl, ha⟩, e, rfl, he⟩
    exact ⟨c :: d :: (a ++ [e]), by simp, workspaceBody_cons_iff.mpr ⟨hc, hd, ha, he⟩⟩
  · rintro ⟨body, rfl, spelled⟩
    match body, spelled with
    | c :: d :: x :: more, spelled =>
        -- the run gives its last character back to the test for the end
        have ends := List.dropLast_concat_getLast (List.cons_ne_nil x more)
        rw [← ends] at spelled ⊢
        obtain ⟨hc, hd, ha, he⟩ := workspaceBody_cons_iff.mp spelled
        exact ⟨_, ⟨c, rfl, hc⟩, _ :: rest, ⟨_, ⟨d, rfl, hd⟩, _, by simp, ha⟩, _, rfl, he⟩
    | [], ⟨short, _⟩ | [_], ⟨short, _⟩ | [_, _], ⟨short, _⟩ => simp at short

theorem isWorkspaceName_iff : isWorkspaceName cs = true ↔
    WorkspaceBody cs ∨ ∃ body, cs = body ++ ['\n'] ∧ WorkspaceBody body := by
  rw [← Text.dropLastNewline_iff fun _ => WorkspaceBody.oneLine]
  simp [isWorkspaceName, WorkspaceBody, and_assoc]

/-- The test for names of workspaces is their pattern. -/
theorem isWorkspaceName_iff_begins : isWorkspaceName cs = true ↔ workspacePattern.Begins cs := by
  rw [isWorkspaceName_iff, workspacePattern, spells_workspace.begins_ending_iff]

/-- The characters that the name of a workspace has: letters, digits and dashes, and no dash at either
end. -/
structure WorkspaceChars (cs : List Char) : Prop where
  chars : ∀ c ∈ cs, c.isAlphanum = true ∨ c = '-'
  first : cs.head? ≠ some '-'
  last : cs.getLast? ≠ some '-'

theorem workspaceBody_iff : WorkspaceBody cs ↔ 3 ≤ cs.length ∧ WorkspaceChars cs := by
  have same (c : Char) : isWorkspaceChar c = true ↔ c.isAlphanum = true ∨ c = '-' := by
    simp [isWorkspaceChar, or_comm]
  simp only [WorkspaceBody, same]
  exact ⟨fun ⟨h, chars, first, last⟩ => ⟨h, chars, first, last⟩,
    fun ⟨h, chars, first, last⟩ => ⟨h, chars, first, last⟩⟩

structure WorkspaceGrammar (cs : List Char) : Prop extends WorkspaceChars cs where
  long : 4 ≤ cs.length
  short : cs.length ≤ 63

/-- A newline behind a name of a workspace, which counts as one of its characters. -/
def WorkspaceLine (cs : List Char) : Prop :=
  ∃ body, cs = body ++ ['\n'] ∧ WorkspaceChars body ∧ 3 ≤ body.length ∧ body.length ≤ 62

theorem workspaceName_eq_nil_iff {key s : String} :
    workspaceName key (.str s) = [] ↔
      isWorkspaceName s.toList = true ∧ minWorkspaceLength ≤ s.length ∧
        s.length ≤ maxWorkspaceLength := by
  by_cases hs : s = ""
  · subst hs
    simp [workspaceName, minWorkspaceLength]
  · simp [workspaceName, hs]

theorem workspaceName_fit_iff (key s : String) :
    workspaceName key (.str s) = [] ↔ WorkspaceGrammar s.toList ∨ WorkspaceLine s.toList := by
  rw [workspaceName_eq_nil_iff, isWorkspaceName_iff, ← String.length_toList, minWorkspaceLength,
    maxWorkspaceLength]
  generalize s.toList = cs
  constructor
  · rintro ⟨body | ⟨body, rfl, spelled⟩, long, short⟩
    · exact .inl ⟨(workspaceBody_iff.mp body).2, long, short⟩
    · obtain ⟨long, chars⟩ := workspaceBody_iff.mp spelled
      rw [List.length_append, List.length_singleton] at short
      exact .inr ⟨body, rfl, chars, long, by omega⟩
  · rintro (⟨chars, long, short⟩ | ⟨body, rfl, chars, long, short⟩)
    · exact ⟨.inl (workspaceBody_iff.mpr ⟨by omega, chars⟩), long, short⟩
    · refine ⟨.inr ⟨body, rfl, workspaceBody_iff.mpr ⟨long, chars⟩⟩, ?_⟩
      rw [List.length_append, List.length_singleton]
      omega

theorem WorkspaceGrammar.oneLine (h : WorkspaceGrammar cs) : '\n' ∉ cs :=
  (workspaceBody_iff.mpr ⟨Nat.le_of_succ_le h.long, h.toWorkspaceChars⟩).oneLine

theorem WorkspaceLine.not_grammar (h : WorkspaceLine cs) : ¬ WorkspaceGrammar cs := by
  intro grammar
  obtain ⟨body, rfl, -⟩ := h
  exact grammar.oneLine (by simp)

/-! ## Both rules -/

theorem fit_iff_grammar_iff {fit grammar line : Prop} (h : fit ↔ grammar ∨ line)
    (apart : line → ¬ grammar) : (fit ↔ grammar) ↔ ¬ line := by
  grind

/-- Which texts the rules for names let through, and that these are the texts of the grammars exactly
if the text is no line of which the newline is passed over. -/
theorem names_fit_iff (key s : String) :
    ((groupName key (.str s) = [] ↔ GroupGrammar s.toList ∨ GroupLine s.toList) ∧
      ((groupName key (.str s) = [] ↔ GroupGrammar s.toList) ↔ ¬ GroupLine s.toList)) ∧
    (workspaceName key (.str s) = [] ↔ WorkspaceGrammar s.toList ∨ WorkspaceLine s.toList) ∧
      ((workspaceName key (.str s) = [] ↔ WorkspaceGrammar s.toList) ↔
        ¬ WorkspaceLine s.toList) :=
  have group := groupName_fit_iff key s
  have workspace := workspaceName_fit_iff key s
  ⟨⟨group, fit_iff_grammar_iff group GroupLine.not_grammar⟩, workspace,
    fit_iff_grammar_iff workspace WorkspaceLine.not_grammar⟩

/-- Names with a newline behind them are let through. -/
theorem lines_let_through :
    (groupName "resource_group_name" (.str "rg1\n") = [] ∧ ¬ GroupGrammar "rg1\n".toList) ∧
      workspaceName "workspace_name" (.str "ws01\n") = [] ∧
        ¬ WorkspaceGrammar "ws01\n".toList := by
  refine ⟨⟨?_, fun grammar => grammar.oneLine (by decide)⟩, ?_,
    fun grammar => grammar.oneLine (by decide)⟩
  · rw [groupName_eq_nil_iff]
    decide +kernel
  · rw [workspaceName_eq_nil_iff]
    decide +kernel

end Rule

end WorkspaceLink
