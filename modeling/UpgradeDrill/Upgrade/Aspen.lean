import UpgradeDrill.Routine.Pool
import UpgradeDrill.Upgrade.Lifecycle

/-!
# The aspen upgrade

Aspen enables vote extensions one block after its activation. From then on blocks carry extended
commit info, which the block at the activation height does not.
-/

namespace UpgradeDrill.Aspen

variable {I : Interface}

def name : String := "aspen"

def changes : List String :=
  ["price_feed_change", "validator_update_action_change", "ibc_acknowledgement_failure_change"]

def checkEnableHeight (node : Node I) (expected : Nat) : Attempt I UpgradeError Unit := do
  let actual ← node.voteExtensionsEnableHeight.widen .query
  if actual = expected then return
  else throw (.voteExtensionsEnableHeight node.name expected actual)

/-- Checks whether the block at a height carries extended commit info. -/
def checkCommitInfo (node : Node I) (height : Nat) (expected : Bool) :
    Attempt I UpgradeError Unit := do
  let block ← (node.block height).widen .query
  let present := block.commitInfo.isSome
  if present = expected then return
  else throw (.extendedCommitInfo node.name height present expected)

/-- Checks that vote extensions are disabled on one node. -/
def checkBefore (node : Node I) : Attempt I UpgradeError Unit := do
  checkEnableHeight node 0
  let latest ← node.lastBlockHeight.widen .query
  checkCommitInfo node latest false

/-- Checks that vote extensions were enabled on one node from a height on, the one after
activation. -/
def checkAfter (activationHeight enableHeight : Nat) (node : Node I) :
    Attempt I UpgradeError Unit := do
  checkEnableHeight node enableHeight
  checkCommitInfo node activationHeight false
  let latest ← node.lastBlockHeight.widen .query
  checkCommitInfo node latest true

def assertBefore (cohort : List (Node I)) : Attempt I UpgradeError Unit := do
  let _ ← joinAll (cohort.map checkBefore)

def assertAfter (cohort : List (Node I)) (activationHeight : Nat) :
    Attempt I UpgradeError Unit := do
  let enableHeight ← Attempt.ofExcept (Lifecycle.heightAfter activationHeight 1)
  let _ ← joinAll (cohort.map (checkAfter activationHeight enableHeight))

end UpgradeDrill.Aspen
