/-!
# Ranges of code points

A property of characters is a list of closed ranges; membership is one scan of the list.
-/

namespace WorkspaceLink.Unicode

/-- Closed ranges of code points, in increasing order. -/
abbrev Ranges := List (Nat × Nat)

/-- Whether a code point lies in one of the ranges. -/
def Ranges.has (rs : Ranges) (n : Nat) : Bool :=
  rs.any fun r => r.1 ≤ n && n ≤ r.2

theorem Ranges.has_nil (n : Nat) : Ranges.has [] n = false := rfl

theorem Ranges.has_cons (r : Nat × Nat) (rs : Ranges) (n : Nat) :
    Ranges.has (r :: rs) n = (decide (r.1 ≤ n ∧ n ≤ r.2) || Ranges.has rs n) := by
  simp [Ranges.has]

end WorkspaceLink.Unicode
