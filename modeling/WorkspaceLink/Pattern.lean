import WorkspaceLink.ArmId

/-!
# Patterns

A pattern is matched from the start of a text, and choices in it are tried in an order: a run is as
long as it can be, an optional part is there if it can be, and where nothing that follows matches
then, the next choice is taken. So a pattern has a list of matches, of which the first one counts.
-/

namespace WorkspaceLink

/-- Patterns, with runs of characters that may be kept under a label. -/
inductive Pattern (κ : Type) where
  /-- A word, whatever its case. -/
  | word (w : String)
  | one (test : Char → Bool)
  /-- As many characters as pass a test. -/
  | many (label : Option κ) (test : Char → Bool)
  | seq (p q : Pattern κ)
  | maybe (p : Pattern κ)
  /-- Nothing, at the end of the text or of its last line. -/
  | ending

/-- What was kept of a text that matched, and what is left of it. -/
structure Match (κ : Type) where
  parts : List (κ × List Char)
  rest : List Char

namespace Match

variable {κ : Type}

def andThen (m n : Match κ) : Match κ := ⟨m.parts ++ n.parts, n.rest⟩

theorem andThen_assoc (l m n : Match κ) : (l.andThen m).andThen n = l.andThen (m.andThen n) := by
  simp [andThen]

theorem nil_andThen (cs : List Char) (m : Match κ) : andThen ⟨[], cs⟩ m = m := rfl

@[simp] theorem rest_andThen (m n : Match κ) : (m.andThen n).rest = n.rest := rfl

end Match

namespace Pattern

variable {κ : Type}

/-- The ways to split a text after characters that pass a test, the longest first. -/
def runs (test : Char → Bool) : List Char → List (List Char × List Char)
  | [] => [([], [])]
  | c :: cs =>
    if test c then (runs test cs).map (fun r => (c :: r.1, r.2)) ++ [([], c :: cs)]
    else [([], c :: cs)]

/-- The matches of a pattern at the start of a text, in the order in which they are tried. -/
def ways : Pattern κ → List Char → List (Match κ)
  | .word w, cs =>
    if Segment.isKeyword w (cs.take w.length) then [⟨[], cs.drop w.length⟩] else []
  | .one test, c :: cs => if test c then [⟨[], cs⟩] else []
  | .one _, [] => []
  | .many label test, cs =>
    (runs test cs).map fun r => ⟨(label.map fun l => (l, r.1)).toList, r.2⟩
  | .seq p q, cs => (p.ways cs).flatMap fun m => (q.ways m.rest).map m.andThen
  | .maybe p, cs => p.ways cs ++ [⟨[], cs⟩]
  | .ending, cs => if cs = [] ∨ cs = ['\n'] then [⟨[], cs⟩] else []

/-- What stands before the next slash, kept under a label. -/
def segment (label : κ) : Pattern κ := .many (some label) (· != '/')

/-- The match of a pattern at the start of a text. -/
def first? (p : Pattern κ) (cs : List Char) : Option (Match κ) := (p.ways cs).head?

/-- Whether a text begins with a pattern. -/
def Begins (p : Pattern κ) (cs : List Char) : Prop := p.ways cs ≠ []

/-- The matches of a pattern anywhere in a text, from left to right and apart from each other; those
of no characters do not count. -/
def all (p : Pattern κ) : List Char → List (Match κ)
  | [] => []
  | c :: cs =>
    match p.first? (c :: cs) with
    | some m => if m.rest.length ≤ cs.length then m :: all p m.rest else all p cs
    | none => all p cs
termination_by cs => cs.length

end Pattern

end WorkspaceLink
