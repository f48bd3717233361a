import UpgradeDrill.Node.Basic
import UpgradeDrill.Routine.Pool
import UpgradeDrill.Upgrade.Error

/-!
# Agreement of a cohort

All nodes of a cohort are asked the same at once, and their values are compared with that of the
first node.
-/

namespace UpgradeDrill

/-- What the nodes of a cohort reported. -/
structure CohortState (α : Type) where
  /-- The value of the first node. -/
  reference : α
  referenceNode : String
  /-- Every node with its value, in the order of the cohort. -/
  observations : List (String × α)
  /-- The names of the nodes with another value than the first, in ascending order. -/
  mismatches : List String

namespace CohortState

variable {α : Type}

/-- Adds a name to names in ascending order. -/
def insertName (name : String) : List String → List String
  | [] => [name]
  | other :: rest =>
    if name < other then name :: other :: rest
    else if name = other then other :: rest
    else other :: insertName name rest

/-- The state of a cohort with the given observations, at least one. -/
def ofObservations? [DecidableEq α] (observations : List (String × α)) : Option (CohortState α) :=
  observations.head?.map fun (referenceNode, reference) =>
    { reference
      referenceNode
      observations
      mismatches := ((observations.filter (·.2 ≠ reference)).map (·.1)).foldr insertName [] }

def isConsistent (state : CohortState α) : Bool := state.mismatches.isEmpty

/-- The value of all nodes, or the first node that has another. -/
def agreed [DecidableEq α] (inspect : α → String) (what : String) (state : CohortState α) :
    Except UpgradeError α :=
  match state.observations.find? (·.2 ≠ state.reference) with
  | none => .ok state.reference
  | some (node, actual) =>
    .error (.inconsistent what state.referenceNode node (inspect state.reference) (inspect actual))

end CohortState

namespace Cohort

variable {I : Interface} {α : Type} [DecidableEq α]

/-- Asks every node of a cohort at once. -/
def observe (cohort : List (Node I)) (ask : Node I → Attempt I QueryError α) :
    Attempt I UpgradeError (CohortState α) := do
  let values ← (joinAll (cohort.map ask)).widen .query
  match CohortState.ofObservations? ((cohort.map (·.name)).zip values) with
  | some state => return state
  | none => throw .emptyCohort

/-- The value that every node of a cohort reports. -/
def ensureConsistent (inspect : α → String) (what : String) (cohort : List (Node I))
    (ask : Node I → Attempt I QueryError α) : Attempt I UpgradeError α := do
  let state ← observe cohort ask
  Attempt.ofExcept (state.agreed inspect what)

end Cohort

end UpgradeDrill
