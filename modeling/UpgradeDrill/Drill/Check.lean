import UpgradeDrill.Drill.Deployment
import UpgradeDrill.Text.Hex
import UpgradeDrill.Upgrade.Cohort

/-!
# Checks of a drill

What must hold of the network before the upgrade is scheduled, and once every node has carried it
out: all nodes agree, the app version has increased, history is as it was, and every change is
applied.
-/

namespace UpgradeDrill.Drill

def firstBlockTimeout : Nat := Duration.ofSecs 60

def validatorNameTimeout : Nat := Duration.ofSecs 60

/-- What was seen of a network before the upgrade. -/
structure Snapshot where
  firstBlock : Block
  appVersion : Nat

def checkUpgradeBefore (name : String) (cohort : List (Node network)) :
    Attempt network UpgradeError Unit :=
  if name = Aspen.name then Aspen.assertBefore cohort else throw (.unknownUpgrade name)

def checkUpgradeAfter (name : String) (cohort : List (Node network)) (activationHeight : Nat) :
    Attempt network UpgradeError Unit :=
  if name = Aspen.name then Aspen.assertAfter cohort activationHeight
  else throw (.unknownUpgrade name)

def agreedFirstBlock (cohort : List (Node network)) : Attempt network DrillError Block :=
  (Cohort.ensureConsistent Block.inspect "block 1" cohort (·.block 1)).widen .upgrade

def currentVersion : String := "current app version"

/-- Waits for the first blocks and checks the network before the upgrade. -/
def checkBefore (config : Config) (validators : List ValidatorConfig) :
    Attempt network DrillError Snapshot := do
  let cohort := validators.map (·.node)
  let _ ← (joinAll (cohort.map (·.waitUntilHeight 1 firstBlockTimeout))).widen .query
  let firstBlock ← agreedFirstBlock cohort
  let appVersion ←
    (Cohort.ensureConsistent toString currentVersion cohort (·.currentAppVersion)).widen .upgrade
  let genesis ←
    (Cohort.ensureConsistent toString "genesis app version" cohort
      (·.genesisAppVersion)).widen .upgrade
  if appVersion = genesis then
    (checkUpgradeBefore config.upgradeName cohort).widen .upgrade
    return ⟨firstBlock, appVersion⟩
  else throw (.staleNetwork genesis appVersion)

def checkIncreased (before : Nat) : String × Nat → Except UpgradeError Unit
  | (node, after) =>
    if before < after then .ok () else .error (.appVersionUnchanged node before after)

/-- The app version that all nodes must agree on, each of which must be above the one before. -/
def increasedVersion (before : Nat) (cohort : List (Node network)) :
    Attempt network DrillError Nat := do
  let state ← (Cohort.observe cohort (·.currentAppVersion)).widen .upgrade
  -- Each node is compared with the version before the nodes are compared with each other.
  let increased := state.observations.forM (checkIncreased before)
  (Attempt.ofExcept (increased.bind fun _ => state.agreed toString currentVersion)).widen .upgrade

/-- Checks that the first block is still what it was. -/
def checkHistory (before : Block) (cohort : List (Node network)) :
    Attempt network DrillError Unit := do
  let after ← agreedFirstBlock cohort
  if after = before then return
  else
    throw (.upgrade (.changed "block 1" (Hex.ofBytes before.hash) (Hex.ofBytes after.hash)))

/-- Checks reported changes: none is left scheduled, and those applied are known and bring the app
version in effect. -/
def checkApplied (registry : Registry) (appVersion : Nat) (node : String) (info : UpgradesInfo) :
    Except UpgradeError Unit :=
  if info.scheduled.isEmpty then registry.checkChanges info.applied (some appVersion)
  else .error (.unexpectedScheduledChanges node info.scheduled.length)

def checkAfter (registry : Registry) (before : Snapshot) (reference : ValidatorConfig)
    (validators : List ValidatorConfig) : Attempt network DrillError Unit := do
  let cohort := validators.map (·.node)
  let appVersion ← increasedVersion before.appVersion cohort
  checkHistory before.firstBlock cohort
  let info ←
    (Cohort.ensureConsistent UpgradesInfo.inspect "upgrades info" cohort
      (·.upgradesInfo)).widen .upgrade
  (Attempt.ofExcept (checkApplied registry appVersion reference.name info)).widen .upgrade

def awaitName (node : ValidatorConfig) (validator : ValidatorConfig) :
    Attempt network DrillError Unit := do
  let _ ←
    (Query.pollUntil node.name ("report name of " ++ validator.address) validatorNameTimeout quoted
      (Sequencer.validatorName node.participant validator.address)
      (· == validator.name)).widen .query

end UpgradeDrill.Drill
