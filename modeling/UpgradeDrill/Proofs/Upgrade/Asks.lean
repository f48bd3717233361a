import UpgradeDrill.Proofs.Query.Retry
import UpgradeDrill.Proofs.Routine.Pool
import UpgradeDrill.Upgrade.Aspen
import UpgradeDrill.Upgrade.Cohort
import UpgradeDrill.Upgrade.Lifecycle

/-!
# What an upgrade asks

The checks and waits of an upgrade ask a node nothing but its queries, and run no commands but those
of the deployer. So whatever is asked is of one kind if the queries of the nodes and these commands
are (`Node.Asks`). Heights that are passed on to further queries have 64 bits, and waits for blocks
fit the clock.
-/

namespace UpgradeDrill

open Attempt

variable {I : Interface} {K : I.Request → Prop}

/-- The queries of a node ask only what is of a kind, as long as heights have 64 bits. -/
structure Node.Asks (K : I.Request → Prop) (node : Node I) : Prop where
  tryLastBlockHeight : node.tryLastBlockHeight.AsksOnly K
  lastBlockHeight : node.lastBlockHeight.AsksOnly K
  heights : node.lastBlockHeight.Returns (· ≤ maxUInt64)
  currentAppVersion : node.currentAppVersion.AsksOnly K
  genesisAppVersion : node.genesisAppVersion.AsksOnly K
  voteExtensionsEnableHeight : node.voteExtensionsEnableHeight.AsksOnly K
  block : ∀ height, height ≤ maxUInt64 → (node.block height).AsksOnly K
  upgradesInfo : node.upgradesInfo.AsksOnly K

namespace Lifecycle

/-- However many blocks are waited for, the wait ends before the clock does. -/
lemma scaledWait_lt_clockLimit (blocks : Nat) : scaledWait blocks < Backoff.clockLimit := by
  have le : min blocks maxUInt32 ≤ maxUInt32 := Nat.min_le_right ..
  have bound : timePerBlock * maxUInt32 < Backoff.clockLimit := by decide
  exact Nat.lt_of_le_of_lt (Nat.mul_le_mul_left _ le) bound

lemma blockWait_lt_clockLimit (blocks : Nat) : blockWait blocks < Backoff.clockLimit :=
  Nat.max_lt.2 ⟨scaledWait_lt_clockLimit blocks, by decide⟩

lemma pollInterval_lt_blockWait (blocks : Nat) : Query.pollInterval < blockWait blocks :=
  Nat.lt_of_lt_of_le (by decide : Query.pollInterval < minBlockWait) (Nat.le_max_right ..)

lemma returns_heightAfter {height blocks : Nat} :
    (Attempt.ofExcept (heightAfter height blocks) : Attempt I UpgradeError Nat).Returns
      fun after => after = height + blocks ∧ after ≤ maxUInt64 := by
  refine returns_ofExcept fun after eq => ?_
  unfold heightAfter at eq
  split at eq
  · rename_i fits
    cases eq
    exact ⟨rfl, fits⟩
  · cases eq

variable (node : Node I)

/-- The height at which a node stands once it has restarted. -/
def standing (captured : Nat) : Attempt I UpgradeError Nat := do
  let target ← Attempt.ofExcept (heightAfter captured restartMargin)
  let _ ← (node.waitUntilHeight target restartTimeout).widen .query
  node.lastBlockHeight.widen .query

/-- What is left of awaiting a node once its rollout is done. -/
def awaitHeight (staged : Staged) (registry : Registry) : Attempt I UpgradeError Activated := do
  let (source, timeout) ← awaitRestart node staged registry
  let poll ← (node.waitUntilHeight staged.activationHeight timeout).widen .query
  return ⟨source, poll.value⟩

lemma awaitRestart_eq (staged : Staged) (registry : Registry) :
    awaitRestart node staged registry =
      match staged.capturedHeight with
      | some captured => do
        let latest ← standing node captured
        if latest < staged.activationHeight - preCheckMargin then
          checkScheduled node registry
        return (.converged, blockWait (staged.activationHeight - latest))
      | none => return (.stalled, scaledWait staged.activationHeight) := by
  obtain ⟨_ | captured, activationHeight⟩ := staged
  · rfl
  · unfold awaitRestart standing
    simp only [bind_assoc]

lemma asksOnly_standing (tried : node.tryLastBlockHeight.AsksOnly K)
    (latest : node.lastBlockHeight.AsksOnly K) (captured : Nat) :
    (standing node captured).AsksOnly K := by
  refine (asksOnly_ofExcept _).bind fun target => ?_
  refine (AsksOnly.widen _ ?_).bind fun _ => .widen _ latest
  exact Query.asksOnly_pollUntil _ _ _ _ _ tried

variable {node}

lemma asksOnly_checkScheduled (info : node.upgradesInfo.AsksOnly K) (registry : Registry) :
    (checkScheduled node registry).AsksOnly K := by
  refine (AsksOnly.widen _ info).bind fun info => ?_
  split
  · exact asksOnly_ofExcept _
  · exact asksOnly_throw _

/-- A staged node that restarts is asked for its height and its upgrades. -/
lemma asksOnly_awaitRestart (tried : node.tryLastBlockHeight.AsksOnly K)
    (latest : node.lastBlockHeight.AsksOnly K) (info : node.upgradesInfo.AsksOnly K)
    (staged : Staged) (registry : Registry) : (awaitRestart node staged registry).AsksOnly K := by
  rw [awaitRestart_eq]
  split
  · refine (asksOnly_standing node tried latest _).bind fun latest => ?_
    dsimp only
    split
    · exact (asksOnly_checkScheduled info registry).bind fun _ => asksOnly_pure _
    · exact asksOnly_pure _
  · exact asksOnly_pure _

end Lifecycle

namespace Node.Asks

variable {node reference : Node I}

lemma mono {K' : I.Request → Prop} (asks : node.Asks K)
    (wider : ∀ request, K request → K' request) : node.Asks K' where
  tryLastBlockHeight := asks.tryLastBlockHeight.mono wider
  lastBlockHeight := asks.lastBlockHeight.mono wider
  heights := asks.heights
  currentAppVersion := asks.currentAppVersion.mono wider
  genesisAppVersion := asks.genesisAppVersion.mono wider
  voteExtensionsEnableHeight := asks.voteExtensionsEnableHeight.mono wider
  block height le := (asks.block height le).mono wider
  upgradesInfo := asks.upgradesInfo.mono wider

variable (asks : node.Asks K)
include asks

lemma waitUntilHeight (height timeout : Nat) : (node.waitUntilHeight height timeout).AsksOnly K :=
  Query.asksOnly_pollUntil _ _ _ _ _ asks.tryLastBlockHeight

lemma awaitRestart (staged : Staged) (registry : Registry) :
    (Lifecycle.awaitRestart node staged registry).AsksOnly K :=
  Lifecycle.asksOnly_awaitRestart asks.tryLastBlockHeight asks.lastBlockHeight asks.upgradesInfo
    staged registry

lemma checkEnableHeight (expected : Nat) : (Aspen.checkEnableHeight node expected).AsksOnly K := by
  refine (AsksOnly.widen _ asks.voteExtensionsEnableHeight).bind fun actual => ?_
  split
  · exact asksOnly_pure _
  · exact asksOnly_throw _

lemma checkCommitInfo {height : Nat} (fits : height ≤ maxUInt64) (expected : Bool) :
    (Aspen.checkCommitInfo node height expected).AsksOnly K := by
  refine (AsksOnly.widen _ (asks.block height fits)).bind fun block => ?_
  dsimp only
  split
  · exact asksOnly_pure _
  · exact asksOnly_throw _

lemma checkBefore : (Aspen.checkBefore node).AsksOnly K :=
  (asks.checkEnableHeight 0).bind fun _ =>
    (AsksOnly.widen _ asks.lastBlockHeight).bind_returns (asks.heights.widen _) fun _ fits =>
      asks.checkCommitInfo fits _

lemma checkAfter {activationHeight : Nat} (fits : activationHeight ≤ maxUInt64)
    (enableHeight : Nat) : (Aspen.checkAfter activationHeight enableHeight node).AsksOnly K :=
  (asks.checkEnableHeight enableHeight).bind fun _ =>
    (asks.checkCommitInfo fits false).bind fun _ =>
      (AsksOnly.widen _ asks.lastBlockHeight).bind_returns (asks.heights.widen _) fun _ fits =>
        asks.checkCommitInfo fits _

lemma detectStall (activationHeight : Nat) :
    (Lifecycle.detectStall node activationHeight).AsksOnly K := by
  refine (AsksOnly.outcome asks.tryLastBlockHeight).bind fun outcome => ?_
  cases outcome with
  | ok height =>
    dsimp only
    split
    · exact asksOnly_throw _
    · exact asksOnly_pure _
  | error error => exact asksOnly_pure _

/-- A node that catches up is asked for its height after the reference. -/
lemma catchUp (asks' : reference.Asks K) (stalled : Stalled) :
    AsksOnly K (do
      let target ← reference.lastBlockHeight.widen UpgradeError.query
      let timeout := Lifecycle.blockWait (target - stalled.activationHeight)
      let poll ← (node.waitUntilHeight target timeout).widen .query
      return (⟨.stalled, poll.value⟩ : Activated)) := by
  refine (AsksOnly.widen _ asks'.lastBlockHeight).bind fun target => ?_
  exact ((asks.waitUntilHeight _ _).widen _).bind fun _ => asksOnly_pure _

section Deployed

variable {deployer : Deployer I} {component : Component} {release : Release}

lemma stage (upgrade : (deployer.upgrade component release).AsksOnly K)
    (restart : (deployer.restart component).AsksOnly K) :
    (Lifecycle.stage node deployer component release).AsksOnly K := by
  unfold Lifecycle.stage
  split
  · exact asksOnly_throw _
  · refine (AsksOnly.outcome asks.tryLastBlockHeight).bind fun captured => ?_
    refine upgrade.bind fun _ => ?_
    cases captured with
    | ok height => exact asksOnly_pure _
    | error error => exact restart.bind fun _ => asksOnly_pure _

lemma awaitActivation (rollout : (deployer.waitForRollout component
    Lifecycle.rolloutTimeout).AsksOnly K) (staged : Staged) (registry : Registry) :
    (Lifecycle.awaitActivation node deployer component staged registry).AsksOnly K := by
  refine rollout.bind fun _ => ?_
  refine (asks.awaitRestart staged registry).bind fun restarted => ?_
  exact ((asks.waitUntilHeight _ _).widen _).bind fun _ => asksOnly_pure _

lemma resumeAfterStall (asks' : reference.Asks K)
    (upgrade : (deployer.upgrade component release).AsksOnly K)
    (restart : (deployer.restart component).AsksOnly K)
    (rollout : (deployer.waitForRollout component Lifecycle.rolloutTimeout).AsksOnly K)
    (stalled : Stalled) (registry : Registry) :
    (Lifecycle.resumeAfterStall node deployer component release stalled reference
      registry).AsksOnly K := by
  refine (asks.stage upgrade restart).bind fun staged => ?_
  split
  · exact (asks.awaitActivation rollout staged registry).bind fun _ => asks.catchUp asks' stalled
  · exact asksOnly_throw _

end Deployed

end Node.Asks

section Cohort

variable {α : Type} [DecidableEq α] {cohort : List (Node I)}

lemma Cohort.asksOnly_observe {ask : Node I → Attempt I QueryError α}
    (only : ∀ node ∈ cohort, (ask node).AsksOnly K) : (observe cohort ask).AsksOnly K := by
  have each : ∀ attempt ∈ cohort.map ask, attempt.AsksOnly K := by
    intro attempt mem
    obtain ⟨node, listed, rfl⟩ := List.mem_map.1 mem
    exact only node listed
  refine (AsksOnly.widen _ (asksOnly_joinAll each)).bind fun values => ?_
  split
  · exact asksOnly_pure _
  · exact asksOnly_throw _

lemma Cohort.asksOnly_ensureConsistent {inspect : α → String} {what : String}
    {ask : Node I → Attempt I QueryError α} (only : ∀ node ∈ cohort, (ask node).AsksOnly K) :
    (ensureConsistent inspect what cohort ask).AsksOnly K :=
  (asksOnly_observe only).bind fun _ => asksOnly_ofExcept _

end Cohort

section Aspen

variable {cohort : List (Node I)} (asks : ∀ node ∈ cohort, node.Asks K)
include asks

lemma Aspen.asksOnly_assertBefore : (assertBefore cohort).AsksOnly K := by
  refine (asksOnly_joinAll fun attempt mem => ?_).bind fun _ => asksOnly_pure _
  obtain ⟨node, listed, rfl⟩ := List.mem_map.1 mem
  exact (asks node listed).checkBefore

/-- The activation height has 64 bits if the height after it has. -/
lemma Aspen.asksOnly_assertAfter (activationHeight : Nat) :
    (assertAfter cohort activationHeight).AsksOnly K := by
  refine (asksOnly_ofExcept _).bind_returns Lifecycle.returns_heightAfter fun _ fits => ?_
  refine (asksOnly_joinAll fun attempt mem => ?_).bind fun _ => asksOnly_pure _
  obtain ⟨node, listed, rfl⟩ := List.mem_map.1 mem
  exact (asks node listed).checkAfter (by omega) _

end Aspen

end UpgradeDrill
