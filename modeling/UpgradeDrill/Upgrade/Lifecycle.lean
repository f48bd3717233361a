import UpgradeDrill.Node.Basic
import UpgradeDrill.Text.Digits
import UpgradeDrill.Upgrade.Deployer
import UpgradeDrill.Upgrade.Registry

/-!
# The upgrade of one node

A running node is staged: its height is read and the new release is deployed. It then activates the
upgrade, or has stopped short of it and is found stalled, in which case it is upgraded afterwards
and catches up. Each step hands its result to the next, so the height read before a restart is the
one that is used after it.
-/

namespace UpgradeDrill

/-- How a node came to activate an upgrade, and where it stands. -/
inductive Phase where
  | running
  | staged
  | stalled
  | converged
  | upgraded
  deriving DecidableEq, Repr

/-- A node that a release with a scheduled upgrade was deployed to. -/
structure Staged where
  /-- The height just before, if the node could tell it. -/
  capturedHeight : Option Nat
  activationHeight : Nat
  deriving DecidableEq, Repr

/-- A node that stopped because it was not upgraded in time. -/
structure Stalled where
  activationHeight : Nat
  /-- The height while stalled, if the node could tell it. -/
  observedHeight : Option Nat
  deriving DecidableEq, Repr

/-- A node that has reached the activation height with the upgrade. -/
structure Activated where
  /-- Whether the node was running when it was staged (`converged`) or had stopped (`stalled`). -/
  source : Phase
  /-- The height at which activation was seen. -/
  height : Nat
  deriving DecidableEq, Repr

namespace Lifecycle

variable {I : Interface}

def rolloutTimeout : Nat := Duration.ofSecs 60

def restartTimeout : Nat := Duration.ofSecs 60

/-- How many blocks past its captured height a restarted node must get: one may be committed between
reading the height and the shutdown. -/
def restartMargin : Nat := 2

/-- Scheduled changes are checked while the node is more than this many blocks short of
activation. -/
def preCheckMargin : Nat := 2

def timePerBlock : Nat := Duration.ofSecs 10

def minBlockWait : Nat := Duration.ofSecs 30

/-- The height some blocks after another; heights have 64 bits. -/
def heightAfter (height blocks : Nat) : Except UpgradeError Nat :=
  if height + blocks ≤ maxUInt64 then .ok (height + blocks)
  else .error (.heightOverflow height blocks)

/-- The time for a number of blocks, which counts up to 32 bits. -/
def scaledWait (blocks : Nat) : Nat := timePerBlock * min blocks maxUInt32

/-- The time for a number of blocks, but no less than half a minute. -/
def blockWait (blocks : Nat) : Nat := max (scaledWait blocks) minBlockWait

/-- Reads the height of a node and deploys a release with a scheduled upgrade to it. A node that
cannot tell its height has stopped, and is restarted after the deployment. -/
def stage (node : Node I) (deployer : Deployer I) (component : Component) (release : Release) :
    Attempt I UpgradeError Staged :=
  match release.activationHeight with
  | none => throw .missingActivationHeight
  | some activationHeight => do
    -- The height is read first, since the deployment restarts a node that runs.
    let captured ← Attempt.outcome node.tryLastBlockHeight
    deployer.upgrade component release
    match captured with
    | .ok height => return ⟨some height, activationHeight⟩
    | .error _ => do
      deployer.restart component
      return ⟨none, activationHeight⟩

/-- Checks that a node has applied nothing yet and that what it has scheduled is known. -/
def checkScheduled (node : Node I) (registry : Registry) : Attempt I UpgradeError Unit := do
  let info ← node.upgradesInfo.widen .query
  if info.applied.isEmpty then
    Attempt.ofExcept (registry.checkChanges info.scheduled none)
  else throw (.unexpectedAppliedChanges node.name info.applied.length)

/-- Waits until a staged node has restarted, and gives how it will get to the activation height and
the time that this may take. A node whose height was captured has to get past that height, and its
scheduled changes are checked if activation is not too close. -/
def awaitRestart (node : Node I) (staged : Staged) (registry : Registry) :
    Attempt I UpgradeError (Phase × Nat) :=
  match staged.capturedHeight with
  | some captured => do
    let target ← Attempt.ofExcept (heightAfter captured restartMargin)
    let _ ← (node.waitUntilHeight target restartTimeout).widen .query
    let latest ← node.lastBlockHeight.widen .query
    if latest < staged.activationHeight - preCheckMargin then
      checkScheduled node registry
    return (.converged, blockWait (staged.activationHeight - latest))
  -- The node may be any number of blocks short of activation.
  | none => return (.stalled, scaledWait staged.activationHeight)

/-- Waits until a staged node has restarted and reached the activation height. -/
def awaitActivation (node : Node I) (deployer : Deployer I) (component : Component)
    (staged : Staged) (registry : Registry) : Attempt I UpgradeError Activated := do
  deployer.waitForRollout component rolloutTimeout
  let (source, timeout) ← awaitRestart node staged registry
  let poll ← (node.waitUntilHeight staged.activationHeight timeout).widen .query
  return ⟨source, poll.value⟩

/-- Confirms that a node that was not upgraded has stopped short of the activation height. -/
def detectStall (node : Node I) (activationHeight : Nat) : Attempt I UpgradeError Stalled := do
  match ← Attempt.outcome node.tryLastBlockHeight with
  | .ok height =>
    if activationHeight ≤ height then throw (.notStalled node.name height activationHeight)
    else return ⟨activationHeight, some height⟩
  | .error _ => return ⟨activationHeight, none⟩

/-- Upgrades a stalled node, waits until it activates, and then until it has caught up with the
height that a reference node reports. -/
def resumeAfterStall (node : Node I) (deployer : Deployer I) (component : Component)
    (release : Release) (stalled : Stalled) (reference : Node I) (registry : Registry) :
    Attempt I UpgradeError Activated := do
  let staged ← stage node deployer component release
  if staged.activationHeight = stalled.activationHeight then
    let _ ← awaitActivation node deployer component staged registry
    let target ← reference.lastBlockHeight.widen .query
    let timeout := blockWait (target - stalled.activationHeight)
    let poll ← (node.waitUntilHeight target timeout).widen .query
    return ⟨.stalled, poll.value⟩
  else
    throw (.activationHeightMismatch component.name stalled.activationHeight
      staged.activationHeight)

end Lifecycle

end UpgradeDrill
