import WorkspaceLink.Manager

/-!
# Sessions

Operations on one tracked linked service: each starts from the snapshot that the last one left, and
one that fails leaves it as it was.
-/

namespace WorkspaceLink

/-- An operation on the tracked linked service. Where no snapshot or id is given, the tracked one is
meant. -/
inductive Step where
  | createOrUpdate (c : Config) (from? : Option Snapshot)
  | apply (c : Config) (from? : Option Snapshot)
  | read (id? : Option Value)
  | importExisting (id? : Option Value)
  | delete (id? : Option Value)

namespace Step

variable {σ : Type}

/-- The snapshot that an operation ends with. -/
def run (m : Manager σ) (tracked : Snapshot) : Step → Action σ Snapshot
  | .createOrUpdate c from? => m.createOrUpdate c (from?.getD tracked)
  | .apply c from? => m.apply c (from?.getD tracked)
  | .read id? => m.read (id?.getD tracked.id)
  | .importExisting id? => m.importExisting (id?.getD tracked.id)
  | .delete id? => do
    m.delete (id?.getD tracked.id)
    pure .absent

/-- The snapshot tracked after an operation. -/
def trackedAfter (tracked : Snapshot) (c : Course σ Snapshot) : Snapshot :=
  match c.result with
  | .ok s => s
  | .error _ => tracked

/-- The ends of steps that are run one after another, and the state in which they leave a service. -/
def runAll (m : Manager σ) : Snapshot → List Step → σ →
    List (Except Fault Snapshot) × σ
  | _, [], s => ([], s)
  | tracked, step :: rest, s =>
    let course := step.run m tracked s
    let ends := runAll m (trackedAfter tracked course) rest course.service
    (course.result :: ends.1, ends.2)

end Step

end WorkspaceLink
