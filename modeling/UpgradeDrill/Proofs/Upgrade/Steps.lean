import UpgradeDrill.Proofs.Query.Rounds
import UpgradeDrill.Proofs.Upgrade.Asks

/-!
# Steps of an upgrade

An upgrade goes step by step: a step is a command, or a query that is made once, retried or polled.
None makes more attempts or waits longer than a retried query with the longest wait for blocks that
there is, which does not depend on what the nodes report. `Steps` counts the steps.
-/

namespace UpgradeDrill

open Attempt Backoff

variable {I : Interface} {ε ε' α β : Type}

/-- The longest wait for blocks: their number counts up to 32 bits. -/
def longestWait : Nat := Lifecycle.scaledWait maxUInt32

/-- The attempts of a query that is retried for as long as that. -/
def mostRounds : Nat := rounds BackoffConfig.defaultInitialDelay longestWait

/-- An attempt does no more than some steps do. -/
def Attempt.Steps (steps : Nat) (x : Attempt I ε α) : Prop :=
  x.Within (steps * mostRounds) (steps * longestWait)

namespace Attempt

variable {x : Attempt I ε α} {steps first : Nat}

lemma steps_one {count span : Nat} (within : x.Within count span) (few : count ≤ mostRounds)
    (short : span ≤ longestWait) : x.Steps 1 :=
  Within.mono within (by omega) (by omega)

lemma Steps.mono {more : Nat} (taken : x.Steps steps) (le : steps ≤ more) : x.Steps more :=
  Within.mono taken (Nat.mul_le_mul_right _ le) (Nat.mul_le_mul_right _ le)

lemma steps_pure (value : α) : (pure value : Attempt I ε α).Steps steps :=
  (within_pure value).mono (Nat.zero_le _) (Nat.zero_le _)

lemma steps_throw (error : ε) : (throw error : Attempt I ε α).Steps steps :=
  (within_throw error).mono (Nat.zero_le _) (Nat.zero_le _)

lemma steps_ofExcept (result : Except ε α) : (ofExcept result : Attempt I ε α).Steps steps :=
  (within_ofExcept result).mono (Nat.zero_le _) (Nat.zero_le _)

lemma Steps.bind_returns {V : α → Prop} {f : α → Attempt I ε β} (taken : x.Steps first)
    (returns : x.Returns V) (rest : Nat) (second : ∀ value, V value → (f value).Steps rest)
    (fits : first + rest ≤ steps) : (x >>= f).Steps steps := by
  have both : (x >>= f).Steps (first + rest) := by
    unfold Steps
    rw [Nat.add_mul, Nat.add_mul]
    exact Within.bind_returns taken returns second
  exact both.mono fits

/-- The second part of a bind takes the rest of the steps. -/
lemma Steps.bind {f : α → Attempt I ε β} (taken : x.Steps first) (rest : Nat)
    (second : ∀ value, (f value).Steps rest) (fits : first + rest ≤ steps) :
    (x >>= f).Steps steps :=
  taken.bind_returns (fun _ _ _ _ _ => trivial) rest (fun value (_ : True) => second value) fits

/-- What has been decided takes no step. -/
lemma Steps.decided {result : Except ε α} {f : α → Attempt I ε β}
    (second : ∀ value, (f value).Steps steps) : (ofExcept result >>= f).Steps steps :=
  Steps.bind ((steps_ofExcept result).mono (Nat.le_refl 0)) steps second (by omega)

lemma Steps.map (f : α → β) (taken : x.Steps steps) : (f <$> x).Steps steps :=
  Within.map f taken

lemma Steps.widen (g : ε → ε') (taken : x.Steps steps) : (x.widen g).Steps steps :=
  Within.widen g taken

lemma Steps.outcome (taken : x.Steps steps) : (Attempt.outcome x : Attempt I ε' _).Steps steps :=
  Within.outcome taken

lemma Steps.forM {γ : Type} {list : List γ} {f : γ → Attempt I ε PUnit}
    (each : ∀ item ∈ list, (f item).Steps steps) : (list.forM f).Steps (list.length * steps) := by
  unfold Steps
  rw [Nat.mul_assoc, Nat.mul_assoc]
  exact Within.forM each

variable {attempts : List (Attempt I ε α)}

lemma steps_pool {limit : Nat} (room : 0 < limit)
    (each : ∀ attempt ∈ attempts, attempt.Steps steps) :
    (pool limit attempts).Steps (attempts.length * steps) := by
  unfold Steps
  rw [Nat.mul_assoc, Nat.mul_assoc]
  exact within_pool room each

lemma steps_joinAll (each : ∀ attempt ∈ attempts, attempt.Steps steps) :
    (joinAll attempts).Steps (attempts.length * steps) := by
  unfold Steps
  rw [Nat.mul_assoc, Nat.mul_assoc]
  exact within_joinAll each

end Attempt

section Query

variable {query : Attempt I QueryError α} (participant operation : String) {timeout : Nat}

/-- A query of one request is a step if it is retried. -/
lemma Query.steps_retry (once : query.Within 1 0) (short : timeout ≤ longestWait) :
    (Query.retry participant operation timeout query).Steps 1 := by
  have le := Nat.le_trans (budget_le 0 timeout) short
  refine steps_one (Query.within_retry participant operation timeout once) ?_ ?_
  · rw [Nat.mul_one]
    exact Nat.succ_le_succ (Nat.div_le_div_right le)
  · rw [Nat.mul_zero]
    exact le

/-- A query of one request is a step if it is polled. -/
lemma Query.steps_pollUntil (text : α → String) (awaited : α → Bool) (once : query.Within 1 0)
    (short : timeout ≤ longestWait) :
    (Query.pollUntil participant operation timeout text query awaited).Steps 1 := by
  have le := Nat.le_trans (budget_le 0 timeout) short
  refine steps_one (Query.within_pollUntil participant operation timeout text awaited once) ?_ ?_
  · rw [Nat.mul_one]
    exact Nat.succ_le_succ (Nat.div_le_div le (by decide) (by decide))
  · rw [Nat.mul_zero]
    exact le

end Query

namespace Lifecycle

lemma scaledWait_le (blocks : Nat) : scaledWait blocks ≤ longestWait := by
  unfold longestWait scaledWait
  rw [Nat.min_self]
  exact Nat.mul_le_mul_left _ (Nat.min_le_right ..)

lemma blockWait_le (blocks : Nat) : blockWait blocks ≤ longestWait :=
  Nat.max_le.2 ⟨scaledWait_le blocks, by decide⟩

/-- A staged node waits no longer than the longest wait for blocks, whatever it has reported. -/
lemma returns_awaitRestart (node : Node I) (staged : Staged) (registry : Registry) :
    (awaitRestart node staged registry).Returns fun restarted =>
      restarted.2 ≤ longestWait := by
  unfold awaitRestart
  split
  · refine returns_bind fun target => returns_bind fun _ => returns_bind fun latest => ?_
    dsimp only
    split
    · exact returns_bind fun _ => returns_pure (blockWait_le _)
    · exact returns_pure (blockWait_le _)
  · exact returns_pure (scaledWait_le _)

end Lifecycle

/-- The steps of the queries of a node. -/
structure Node.Stepwise (node : Node I) : Prop where
  tryLastBlockHeight : node.tryLastBlockHeight.Within 1 0
  lastBlockHeight : node.lastBlockHeight.Steps 1
  currentAppVersion : node.currentAppVersion.Steps 1
  genesisAppVersion : node.genesisAppVersion.Steps 1
  voteExtensionsEnableHeight : node.voteExtensionsEnableHeight.Steps 2
  block : ∀ height, (node.block height).Steps 1
  upgradesInfo : node.upgradesInfo.Steps 1

/-- Whatever a deployer does is a step. -/
structure Deployer.Stepwise (deployer : Deployer I) : Prop where
  install : ∀ component release, (deployer.install component release).Steps 1
  upgrade : ∀ component release, (deployer.upgrade component release).Steps 1
  restart : ∀ component, (deployer.restart component).Steps 1
  waitForRollout : ∀ component timeout, (deployer.waitForRollout component timeout).Steps 1

namespace Node.Stepwise

variable {node reference : Node I} (stepwise : node.Stepwise)
include stepwise

lemma tryOnce : node.tryLastBlockHeight.Steps 1 :=
  steps_one stepwise.tryLastBlockHeight (by decide) (Nat.zero_le _)

lemma waitUntilHeight (height : Nat) {timeout : Nat} (short : timeout ≤ longestWait) :
    (node.waitUntilHeight height timeout).Steps 1 :=
  Query.steps_pollUntil _ _ _ _ stepwise.tryLastBlockHeight short

lemma checkScheduled (registry : Registry) : (Lifecycle.checkScheduled node registry).Steps 1 := by
  refine (stepwise.upgradesInfo.widen _).bind 0 (fun info => ?_) (by decide)
  split
  · exact steps_ofExcept _
  · exact steps_throw _

lemma awaitRestart (staged : Staged) (registry : Registry) :
    (Lifecycle.awaitRestart node staged registry).Steps 3 := by
  unfold Lifecycle.awaitRestart
  split
  · refine Steps.decided fun target => ?_
    refine ((stepwise.waitUntilHeight _ (by decide)).widen _).bind 2 (fun _ => ?_) (by decide)
    refine (stepwise.lastBlockHeight.widen _).bind 1 (fun latest => ?_) (by decide)
    dsimp only
    split
    · exact (stepwise.checkScheduled registry).bind 0 (fun _ => steps_pure _) (by decide)
    · exact steps_pure _
  · exact steps_pure _

lemma detectStall (activationHeight : Nat) :
    (Lifecycle.detectStall node activationHeight).Steps 1 := by
  refine stepwise.tryOnce.outcome.bind 0 (fun outcome => ?_) (by decide)
  cases outcome with
  | ok height =>
    dsimp only
    split
    · exact steps_throw _
    · exact steps_pure _
  | error error => exact steps_pure _

section Deployed

variable {deployer : Deployer I} (deploys : deployer.Stepwise)
include deploys

lemma stage (component : Component) (release : Release) :
    (Lifecycle.stage node deployer component release).Steps 3 := by
  unfold Lifecycle.stage
  split
  · exact steps_throw _
  · refine stepwise.tryOnce.outcome.bind 2 (fun captured => ?_) (by decide)
    refine (deploys.upgrade _ _).bind 1 (fun _ => ?_) (by decide)
    cases captured with
    | ok height => exact steps_pure _
    | error error => exact (deploys.restart _).bind 0 (fun _ => steps_pure _) (by decide)

lemma awaitActivation (component : Component) (staged : Staged) (registry : Registry) :
    (Lifecycle.awaitActivation node deployer component staged registry).Steps 5 := by
  refine (deploys.waitForRollout _ _).bind 4 (fun _ => ?_) (by decide)
  refine (stepwise.awaitRestart staged registry).bind_returns
    (Lifecycle.returns_awaitRestart node staged registry) 1 (fun restarted short => ?_) (by decide)
  exact ((stepwise.waitUntilHeight _ short).widen _).bind 0 (fun _ => steps_pure _) (by decide)

lemma resumeAfterStall (stepwise' : reference.Stepwise) (component : Component) (release : Release)
    (stalled : Stalled) (registry : Registry) :
    (Lifecycle.resumeAfterStall node deployer component release stalled reference
      registry).Steps 10 := by
  refine (stepwise.stage deploys component release).bind 7 (fun staged => ?_) (by decide)
  split
  · refine (stepwise.awaitActivation deploys component staged registry).bind 2 (fun _ => ?_)
      (by decide)
    refine (stepwise'.lastBlockHeight.widen _).bind 1 (fun target => ?_) (by decide)
    exact ((stepwise.waitUntilHeight _ (Lifecycle.blockWait_le _)).widen _).bind 0
      (fun _ => steps_pure _) (by decide)
  · exact steps_throw _

end Deployed

lemma checkEnableHeight (expected : Nat) : (Aspen.checkEnableHeight node expected).Steps 2 := by
  refine (stepwise.voteExtensionsEnableHeight.widen _).bind 0 (fun actual => ?_) (by decide)
  split
  · exact steps_pure _
  · exact steps_throw _

lemma checkCommitInfo (height : Nat) (expected : Bool) :
    (Aspen.checkCommitInfo node height expected).Steps 1 := by
  refine ((stepwise.block height).widen _).bind 0 (fun block => ?_) (by decide)
  dsimp only
  split
  · exact steps_pure _
  · exact steps_throw _

lemma checkBefore : (Aspen.checkBefore node).Steps 4 :=
  (stepwise.checkEnableHeight 0).bind 2 (fun _ =>
    (stepwise.lastBlockHeight.widen _).bind 1 (fun _ => stepwise.checkCommitInfo _ _)
      (by decide)) (by decide)

lemma checkAfter (activationHeight enableHeight : Nat) :
    (Aspen.checkAfter activationHeight enableHeight node).Steps 5 := by
  refine (stepwise.checkEnableHeight enableHeight).bind 3 (fun _ => ?_) (by decide)
  refine (stepwise.checkCommitInfo _ _).bind 2 (fun _ => ?_) (by decide)
  exact (stepwise.lastBlockHeight.widen _).bind 1 (fun _ => stepwise.checkCommitInfo _ _)
    (by decide)

end Node.Stepwise

section Cohort

variable {cohort : List (Node I)} {steps : Nat}

/-- All nodes of a cohort are asked at once. -/
lemma steps_joinCohort {ask : Node I → Attempt I ε α}
    (each : ∀ node ∈ cohort, (ask node).Steps steps) :
    (joinAll (cohort.map ask)).Steps (cohort.length * steps) := by
  rw [← List.length_map ask]
  refine steps_joinAll fun attempt mem => ?_
  obtain ⟨node, listed, rfl⟩ := List.mem_map.1 mem
  exact each node listed

variable [DecidableEq α]

lemma Cohort.steps_observe {ask : Node I → Attempt I QueryError α}
    (each : ∀ node ∈ cohort, (ask node).Steps 1) : (observe cohort ask).Steps cohort.length := by
  refine ((steps_joinCohort each).widen _).bind 0 (fun values => ?_) (by omega)
  split
  · exact steps_pure _
  · exact steps_throw _

lemma Cohort.steps_ensureConsistent (inspect : α → String) (what : String)
    {ask : Node I → Attempt I QueryError α} (each : ∀ node ∈ cohort, (ask node).Steps 1) :
    (ensureConsistent inspect what cohort ask).Steps cohort.length :=
  (steps_observe each).bind 0 (fun _ => steps_ofExcept _) (Nat.le_refl _)

end Cohort

section Aspen

variable {cohort : List (Node I)} (stepwise : ∀ node ∈ cohort, node.Stepwise)
include stepwise

lemma Aspen.steps_assertBefore : (assertBefore cohort).Steps (cohort.length * 4) :=
  (steps_joinCohort fun node mem => (stepwise node mem).checkBefore).bind 0
    (fun _ => steps_pure _) (Nat.le_refl _)

lemma Aspen.steps_assertAfter (activationHeight : Nat) :
    (assertAfter cohort activationHeight).Steps (cohort.length * 5) :=
  Steps.decided fun _ =>
    (steps_joinCohort fun node mem => (stepwise node mem).checkAfter _ _).bind 0
      (fun _ => steps_pure _) (Nat.le_refl _)

end Aspen

end UpgradeDrill
