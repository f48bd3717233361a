import UpgradeDrill.Drill.Bridge
import UpgradeDrill.Drill.Check

/-!
# Drills

The whole drill. All validators but the last are started alongside the rollup, and funds are bridged
in. The upgrade is scheduled and staged on all of them but one, which must stall at activation,
recover once it is upgraded, and catch up. The last validator then joins. In the end all nodes must
agree on the new state, every validator is named, and funds are bridged out.
-/

namespace UpgradeDrill.Drill

/-- How long a node that joins after activation may take to get past it. -/
def joinTimeout : Nat := Duration.ofSecs 60

/-- The upgrade of a drill, once its height is known. -/
structure Schedule where
  activationHeight : Nat
  registry : Registry

/-- Schedules the upgrade some blocks after the latest height of a validator. -/
def schedule (config : Config) (reference : ValidatorConfig) :
    Attempt network DrillError Schedule := do
  let latest ← reference.node.lastBlockHeight.widen .query
  let activationHeight ←
    (Attempt.ofExcept (Lifecycle.heightAfter latest config.activationOffset)).widen .upgrade
  let changes ← Attempt.ofExcept config.changes
  let group : UpgradeGroup := ⟨config.upgradeName, changes, activationHeight⟩
  let registry ← (Attempt.ofExcept (Registry.ofGroups [group])).widen .upgrade
  return ⟨activationHeight, registry⟩

/-- Stages the upgrade on validators, and waits until each has activated it. -/
def upgradeAll (config : Config) (schedule : Schedule) (validators : List ValidatorConfig) :
    Attempt network DrillError Unit := do
  let staging := validators.map fun validator =>
    Lifecycle.stage validator.node config.deployer validator.component
      (config.newRelease schedule.activationHeight validator)
  let staged ← (pool config.concurrency staging).widen .upgrade
  let activations := (validators.zip (inOrder staged)).map fun (validator, staged) =>
    Lifecycle.awaitActivation validator.node config.deployer validator.component staged
      schedule.registry
  let _ ← (pool config.concurrency activations).widen .upgrade

/-- Confirms that a validator that was not upgraded has stalled, upgrades it, and waits until it has
caught up with a reference. -/
def recover (config : Config) (schedule : Schedule) (missed reference : ValidatorConfig) :
    Attempt network DrillError Unit := do
  let height := schedule.activationHeight
  let stalled ← (Lifecycle.detectStall missed.node height).widen .upgrade
  let _ ←
    (Lifecycle.resumeAfterStall missed.node config.deployer missed.component
      (config.newRelease height missed) stalled reference.node schedule.registry).widen .upgrade

/-- Starts a validator that has the upgrade from the beginning, and waits until it gets past
activation. Gives the identity that it reports. -/
def join (config : Config) (schedule : Schedule) (validator : ValidatorConfig) :
    Attempt network DrillError NodeInfo := do
  let info ← start config validator (config.newRelease schedule.activationHeight validator)
  let target ←
    (Attempt.ofExcept
      (Lifecycle.heightAfter schedule.activationHeight Lifecycle.restartMargin)).widen .upgrade
  let _ ← (validator.node.waitUntilHeight target joinTimeout).widen .query
  return info

/-- The identity of a validator, which is asked for if it is not known yet. -/
def identity (validator : ValidatorConfig) : Option NodeInfo → Attempt network DrillError NodeInfo
  | some info => return info
  | none => (Sequencer.nodeInfo validator.participant).widen .query

/-- Names validators by the keys and with the powers that their nodes report. -/
def nameAll (cli : SequencerCli) (validators : List ValidatorConfig)
    (infos : List (Option NodeInfo)) : Attempt network DrillError Unit :=
  (validators.zip infos).forM fun (validator, info) => do
    let info ← identity validator info
    cli.validatorUpdate validator.participant info.pubKey info.votingPower

def splitLast? {α : Type} (list : List α) : Option (List α × α) :=
  list.getLast?.map fun last => (list.dropLast, last)

/-- Carries out a drill. -/
def run (config : Config) : Attempt network DrillError Unit := do
  let images ← Attempt.ofExcept config.preUpgrade
  let cli := SequencerCli.docker config.imageTag
  fetchCharts config
  match splitLast? config.validators with
  | none => throw (.invalidConfig "no validators")
  | some (initial, joining) =>
    let infos ← startNetwork config images initial
    let before ← checkBefore config initial
    bridgeIn config cli
    let schedule ← schedule config (← validatorAt initial 0)
    match splitLast? initial with
    | none => throw (.invalidConfig "no validators")
    | some (upgraded, missed) =>
      -- The last of the initial validators is left to stall.
      upgradeAll config schedule upgraded
      let reference ← validatorAt upgraded 0
      recover config schedule missed reference
      let joiningInfo ← join config schedule joining
      checkAfter schedule.registry before reference config.validators
      nameAll cli config.validators (infos ++ [some joiningInfo])
      (checkUpgradeAfter config.upgradeName (config.validators.map (·.node))
        schedule.activationHeight).widen .upgrade
      config.validators.forM (awaitName reference)
      bridgeOut config cli

end UpgradeDrill.Drill
