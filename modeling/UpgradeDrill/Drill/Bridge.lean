import UpgradeDrill.Config.Basic
import UpgradeDrill.Drill.SequencerCli

/-!
# The bridge in a drill

Funds are moved to the rollup before the upgrade, and back to the sequencer after it.
-/

namespace UpgradeDrill.Drill

def bridgeInTimeout : Nat := Duration.ofSecs 30

def bridgeOutTimeout : Nat := Duration.ofSecs 60

/-- The validator at a place, which is given a part of the drill. -/
def validatorAt (validators : List ValidatorConfig) (place : Nat) :
    Attempt network DrillError ValidatorConfig :=
  match validators[place]? with
  | some validator => return validator
  | none => throw (.missingValidator place)

def checkUnfunded (config : Config) : Attempt network DrillError Unit := do
  let address := config.bridge.evmDestination
  let balance ← (Rollup.balance config.rollup.url address).widen .query
  if balance = 0 then return else throw (.unexpectedBalance address balance 0)

def awaitRollupBalance (config : Config) (expected timeout : Nat) :
    Attempt network DrillError Unit := do
  let _ ←
    (Rollup.waitUntilBalance config.rollup.url config.bridge.evmDestination expected
      timeout).widen .query

/-- Locks funds on the sequencer and waits until they are credited on the rollup. -/
def bridgeIn (config : Config) (cli : SequencerCli) : Attempt network DrillError Unit := do
  checkUnfunded config
  let opener ← validatorAt config.validators 1
  cli.initBridgeAccount opener.participant
  let locker ← validatorAt config.validators 2
  cli.bridgeLock locker.participant config.bridge.lockAmount config.bridge.evmDestination
  awaitRollupBalance config config.bridge.evmBalanceAfterLock bridgeInTimeout

/-- Withdraws funds from the rollup, waits until they arrive on the sequencer, and until the block
of the withdrawal is finalized. -/
def bridgeOut (config : Config) (cli : SequencerCli) : Attempt network DrillError Unit := do
  let url := config.rollup.url
  let bridge := config.bridge
  let hash ← (Rollup.sendRawTransaction url bridge.withdrawTransaction).widen .query
  awaitRollupBalance config bridge.evmBalanceAfterWithdraw bridgeOutTimeout
  let witness ← validatorAt config.validators 3
  let _ ← cli.waitUntilBalance witness.participant bridge.sequencerAccount
    bridge.sequencerBalanceAfterWithdraw bridgeOutTimeout
  let block ← (Rollup.transactionBlockNumber url hash).widen .query
  let _ ← (Rollup.waitUntilFinalizedHeight url block bridgeOutTimeout).widen .query

end UpgradeDrill.Drill
