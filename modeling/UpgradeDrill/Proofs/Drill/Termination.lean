import UpgradeDrill.Proofs.Drill.Order
import UpgradeDrill.Proofs.Upgrade.Steps

/-!
# Every drill ends

Whatever its requests and commands are answered with, a drill is over after a number of them that
depends on the number of validators alone, and in a time that is bounded apart from the time that
they take themselves. The loops of the command-line client are bounded as those for queries are,
also where one of them is made in every round of another.
-/

namespace UpgradeDrill

open Attempt Backoff

namespace JsonRpc

lemma within_call (url method : String) (params : Json) : (call url method params).Within 1 0 :=
  (within_request _).bind fun _ => within_ofExcept _

end JsonRpc

namespace GrpcCall

lemma within_unary {M N : Type} [Wire.Message M] [Wire.Message N] (url path : String)
    (message : M) : (unary url path message : Attempt network QueryError N).Within 1 0 := by
  unfold unary
  split
  · exact (within_request _).bind fun _ => within_ofExcept _
  · exact (within_throw _).mono (Nat.zero_le _) (Nat.zero_le _)

end GrpcCall

namespace Sequencer

variable (participant : Participant)

lemma steps_rpc (method : String) (params : Json) {timeout : Nat} (short : timeout ≤ longestWait)
    {α : Type} (read : Json → Except QueryError α) :
    Attempt.Steps 1 (do
      let result ← rpc participant method params timeout
      Attempt.ofExcept (read result)) :=
  (Query.steps_retry _ _ (JsonRpc.within_call _ _ _) short).bind 0 (fun _ => steps_ofExcept _)
    (by decide)

lemma steps_grpc {M N : Type} [Wire.Message M] [Wire.Message N] (operation path : String)
    (message : M) :
    (grpc participant operation path message : Attempt network QueryError N).Steps 1 :=
  Query.steps_retry _ _ (GrpcCall.within_unary _ _ _) (by decide)

lemma steps_nodeInfo : (nodeInfo participant).Steps 1 :=
  steps_rpc participant _ _ (by decide) _

lemma within_validatorName (address : String) : (validatorName participant address).Within 1 0 :=
  (GrpcCall.within_unary _ _ _).bind fun _ => within_pure _

lemma stepwise_node : (node participant).Stepwise where
  tryLastBlockHeight := (JsonRpc.within_call _ _ _).bind fun _ => within_ofExcept _
  lastBlockHeight := steps_rpc participant _ _ (by decide) _
  currentAppVersion := steps_rpc participant _ _ (by decide) _
  genesisAppVersion := steps_rpc participant _ _ (by decide) _
  voteExtensionsEnableHeight :=
    (steps_rpc participant _ _ (by decide) _).bind 1
      (fun _ => steps_rpc participant _ _ (by decide) _) (by decide)
  block _ := steps_grpc participant _ _ _
  upgradesInfo := steps_grpc participant _ _ _

end Sequencer

namespace Helm

lemma steps_execute (root program : String) (arguments : List String) :
    (execute root program arguments).Steps 1 := by
  refine Steps.bind (steps_one (within_request _) (by decide) (Nat.zero_le _)) 0 (fun reply => ?_)
    (by decide)
  cases reply with
  | error cause => exact steps_throw _
  | ok output =>
    dsimp only
    split
    · exact steps_pure _
    · exact steps_throw _

lemma stepwise_deployer (root : String) : (deployer root).Stepwise where
  install _ _ := steps_execute root _ _
  upgrade _ _ := steps_execute root _ _
  restart _ := steps_execute root _ _
  waitForRollout _ _ := steps_execute root _ _

end Helm

namespace Rollup

variable (url : String)

lemma within_balance (address : String) : (balance url address).Within 1 0 :=
  (JsonRpc.within_call _ _ _).bind fun _ => within_ofExcept _

lemma within_finalizedHeight : (finalizedHeight url).Within 1 0 :=
  (JsonRpc.within_call _ _ _).bind fun _ => within_ofExcept _

lemma within_sendRawTransaction (transaction : String) :
    (sendRawTransaction url transaction).Within 1 0 := by
  refine (JsonRpc.within_call _ _ _).bind_rest (Nat.le_refl _) (Nat.le_refl _) fun result => ?_
  split
  · exact (within_pure _).mono (Nat.zero_le _) (Nat.zero_le _)
  · exact (within_throw _).mono (Nat.zero_le _) (Nat.zero_le _)

lemma within_transactionBlockNumber (hash : String) :
    (transactionBlockNumber url hash).Within 1 0 :=
  (JsonRpc.within_call _ _ _).bind fun _ => within_ofExcept _

end Rollup

namespace SequencerCli

variable (cli : SequencerCli) (participant : Participant) {least : Nat} {session : Backoff}

lemma within_tryExec (args : List String) : (cli.tryExec participant args).Within 1 0 :=
  (within_request _).bind fun _ => within_ofExcept _

lemma within_execFrom (args : List String) (paces : session.Paces least) :
    (cli.execFrom participant args session).Within (rounds least session.remaining * 1)
      (session.remaining + rounds least session.remaining * 0) := by
  induction session using execFrom.induct with
  | case1 session ih =>
    rw [execFrom]
    refine (cli.within_tryExec participant args).timed.bind_rest (le_rounds_mul ..)
      (Nat.zero_le _) fun timed => ?_
    obtain ⟨outcome, took⟩ := timed
    cases outcome with
    | ok stdout => exact (within_pure stdout).mono (Nat.zero_le _) (Nat.zero_le _)
    | error error =>
      dsimp only
      split
      · rename_i next granted
        have rest := ih took next granted (paces.wait granted).1
        obtain ⟨few, short⟩ := paces.again granted 1 0
        exact ((within_sleep _).bind fun _ => rest).mono few short
      · exact (within_throw _).mono (Nat.zero_le _) (Nat.zero_le _)

/-- A command that is retried is run no more often than first delays fit into its longest budget,
and once. -/
theorem within_exec (args : List String) :
    (cli.exec participant args).Within
      (rounds BackoffConfig.defaultInitialDelay (longest cli.retryTimeout))
      (longest cli.retryTimeout) := by
  refine within_readClock.bind_rest (Nat.zero_le _) (Nat.zero_le _) fun now => ?_
  split
  · rename_i session started
    obtain ⟨paces, le⟩ := paces_of_start started fun _ => defaultInitialDelay_le_maxDelay
    have bounded := cli.within_execFrom participant args paces
    rw [Nat.mul_one, Nat.mul_zero] at bounded
    exact bounded.mono (Nat.succ_le_succ (Nat.div_le_div_right le)) le
  · exact (within_throw _).mono (Nat.zero_le _) (Nat.zero_le _)

lemma within_balance (account : String) :
    (cli.balance participant account).Within
      (rounds BackoffConfig.defaultInitialDelay (longest cli.retryTimeout))
      (longest cli.retryTimeout) := by
  refine (cli.within_exec participant _).bind_rest (Nat.le_refl _) (Nat.le_refl _)
    fun stdout => ?_
  split
  · exact (within_pure _).mono (Nat.zero_le _) (Nat.zero_le _)
  · exact (within_throw _).mono (Nat.zero_le _) (Nat.zero_le _)

lemma within_waitFrom (account : String) (expected timeout : Nat) {count span : Nat}
    (within : (cli.balance participant account).Within count span) (last : Option Nat)
    (paces : session.Paces least) :
    (cli.waitFrom participant account expected timeout last session).Within
      (rounds least session.remaining * count)
      (session.remaining + rounds least session.remaining * span) := by
  induction last, session using waitFrom.induct with
  | case1 last session ih =>
    rw [waitFrom]
    refine within.timed.bind_rest (le_rounds_mul ..)
      (Nat.le_trans (le_rounds_mul ..) (Nat.le_add_left ..)) fun timed => ?_
    obtain ⟨outcome, took⟩ := timed
    dsimp only
    split
    · exact (within_pure _).mono (Nat.zero_le _) (Nat.zero_le _)
    · split
      · rename_i next granted
        have rest := ih outcome took next granted (paces.wait granted).1
        obtain ⟨few, short⟩ := paces.again granted count span
        exact ((within_sleep _).bind fun _ => rest).mono few short
      · exact (within_throw _).mono (Nat.zero_le _) (Nat.zero_le _)

/-- A polled balance is read no more often than seconds fit into its longest budget, and once. Every
time the command is retried. -/
theorem within_waitUntilBalance (account : String) (expected timeout : Nat) :
    (cli.waitUntilBalance participant account expected timeout).Within
      (rounds Query.pollInterval (longest timeout) *
        rounds BackoffConfig.defaultInitialDelay (longest cli.retryTimeout))
      (longest timeout +
        rounds Query.pollInterval (longest timeout) * longest cli.retryTimeout) := by
  refine within_readClock.bind_rest (Nat.zero_le _) (Nat.zero_le _) fun now => ?_
  split
  · rename_i session started
    obtain ⟨paces, le⟩ := paces_of_start started nofun
    have bounded := cli.within_waitFrom participant account expected timeout
      (cli.within_balance participant account) none paces
    exact bounded.mono (rounds_mul_le le _ _) (Nat.add_le_add le (rounds_mul_le le _ _))
  · exact (within_throw _).mono (Nat.zero_le _) (Nat.zero_le _)

lemma steps_exec (args : List String) (short : cli.retryTimeout = defaultRetryTimeout) :
    (cli.exec participant args).Steps 1 := by
  have within := cli.within_exec participant args
  rw [short] at within
  exact steps_one within (by decide) (by decide)

lemma steps_waitUntilBalance (account : String) (expected : Nat)
    (short : cli.retryTimeout = defaultRetryTimeout) :
    (cli.waitUntilBalance participant account expected Drill.bridgeOutTimeout).Steps 1 := by
  have within := cli.within_waitUntilBalance participant account expected Drill.bridgeOutTimeout
  rw [short] at within
  exact steps_one within (by decide) (by decide)

end SequencerCli

namespace Drill

variable {config : Config}

lemma stepwise_deployer : config.deployer.Stepwise := Helm.stepwise_deployer config.chartRoot

lemma steps_fetchCharts : (fetchCharts config).Steps 2 :=
  (Steps.forM fun chart _ => (Helm.steps_execute config.chartRoot _ _).widen _).mono (by decide)

lemma steps_install (component : Component) (release : Release) :
    (install config component release).Steps 2 :=
  ((stepwise_deployer.install _ _).widen _).bind 1
    (fun _ => (stepwise_deployer.waitForRollout _ _).widen _) (by decide)

lemma steps_start (validator : ValidatorConfig) (release : Release) :
    (start config validator release).Steps 3 :=
  (steps_install _ _).bind 1 (fun _ => (Sequencer.steps_nodeInfo _).widen _) (by decide)

lemma steps_startNetwork (room : 0 < config.concurrency) (images : PreUpgradeImages)
    (validators : List ValidatorConfig) :
    (startNetwork config images validators).Steps ((validators.length + 1) * 3) := by
  have each : ∀ attempt ∈ (validators.map fun validator => some <$>
      start config validator (config.oldRelease images validator)) ++ [startRollup config],
      attempt.Steps 3 := by
    intro attempt mem
    rcases List.mem_append.1 mem with mem | mem
    · obtain ⟨validator, _, rfl⟩ := List.mem_map.1 mem
      exact (steps_start _ _).map _
    · rw [List.mem_singleton.1 mem]
      exact (steps_install _ _).bind 0 (fun _ => steps_pure _) (by decide)
  refine (steps_pool room each).bind 0 (fun _ => steps_pure _) ?_
  rw [List.length_append, List.length_map, List.length_singleton]
  exact Nat.le_refl _

lemma steps_validatorAt (validators : List ValidatorConfig) (place : Nat) :
    (validatorAt validators place).Steps 0 := by
  unfold validatorAt
  split
  · exact steps_pure _
  · exact steps_throw _

section Cohort

variable (validators : List ValidatorConfig)

lemma stepwise_cohort : ∀ node ∈ validators.map (·.node), node.Stepwise := by
  intro node mem
  obtain ⟨validator, _, rfl⟩ := List.mem_map.1 mem
  exact Sequencer.stepwise_node validator.participant

/-- All validators are asked the same. -/
lemma steps_agree {α : Type} [DecidableEq α] (inspect : α → String) (what : String)
    {ask : Node network → Attempt network QueryError α}
    (each : ∀ node : Node network, node.Stepwise → (ask node).Steps 1) :
    ((Cohort.ensureConsistent inspect what (validators.map (·.node)) ask).widen
      DrillError.upgrade).Steps validators.length := by
  rw [← List.length_map (·.node)]
  exact Steps.widen _ (Cohort.steps_ensureConsistent _ _ fun node mem =>
    each node (stepwise_cohort validators node mem))

lemma steps_agreedFirstBlock :
    (agreedFirstBlock (validators.map (·.node))).Steps validators.length :=
  steps_agree validators _ _ fun _ stepwise => stepwise.block 1

lemma steps_checkUpgradeBefore (name : String) :
    (checkUpgradeBefore name (validators.map (·.node))).Steps (validators.length * 4) := by
  unfold checkUpgradeBefore
  split
  · rw [← List.length_map (·.node)]
    exact Aspen.steps_assertBefore (stepwise_cohort validators)
  · exact steps_throw _

lemma steps_checkUpgradeAfter (name : String) (activationHeight : Nat) :
    (checkUpgradeAfter name (validators.map (·.node)) activationHeight).Steps
      (validators.length * 5) := by
  unfold checkUpgradeAfter
  split
  · rw [← List.length_map (·.node)]
    exact Aspen.steps_assertAfter (stepwise_cohort validators) _
  · exact steps_throw _

lemma steps_checkBefore : (checkBefore config validators).Steps (validators.length * 8) := by
  have waits : ((joinAll ((validators.map (·.node)).map
      (·.waitUntilHeight 1 firstBlockTimeout))).widen DrillError.query).Steps
      (validators.length * 1) := by
    rw [← List.length_map (·.node)]
    exact Steps.widen _ (steps_joinCohort fun node mem =>
      (stepwise_cohort validators node mem).waitUntilHeight 1 (by decide))
  refine waits.bind (validators.length * 7) (fun _ => ?_) (by omega)
  refine (steps_agreedFirstBlock validators).bind (validators.length * 6) (fun first => ?_)
    (by omega)
  refine (steps_agree validators _ _ fun _ stepwise => stepwise.currentAppVersion).bind
    (validators.length * 5) (fun version => ?_) (by omega)
  refine (steps_agree validators _ _ fun _ stepwise => stepwise.genesisAppVersion).bind
    (validators.length * 4) (fun genesis => ?_) (by omega)
  split
  · exact ((steps_checkUpgradeBefore validators _).widen _).bind 0 (fun _ => steps_pure _)
      (by omega)
  · exact steps_throw _

lemma steps_checkAfter (registry : Registry) (before : Snapshot) (reference : ValidatorConfig) :
    (checkAfter registry before reference validators).Steps (validators.length * 3) := by
  have increased : (increasedVersion before.appVersion (validators.map (·.node))).Steps
      validators.length := by
    rw [← List.length_map (·.node)]
    refine Steps.bind (Steps.widen _ (Cohort.steps_observe fun node mem => ?_)) 0
      (fun _ => (steps_ofExcept _).widen _) (Nat.le_refl _)
    exact (stepwise_cohort validators node mem).currentAppVersion
  have history : (checkHistory before.firstBlock (validators.map (·.node))).Steps
      validators.length := by
    refine (steps_agreedFirstBlock validators).bind 0 (fun after => ?_) (Nat.le_refl _)
    split
    · exact steps_pure _
    · exact steps_throw _
  refine increased.bind (validators.length * 2) (fun version => ?_) (by omega)
  refine history.bind validators.length (fun _ => ?_) (by omega)
  exact (steps_agree validators _ _ fun _ stepwise => stepwise.upgradesInfo).bind 0
    (fun _ => (steps_ofExcept _).widen _) (Nat.le_refl _)

end Cohort

section Bridge

variable {cli : SequencerCli} (short : cli.retryTimeout = SequencerCli.defaultRetryTimeout)

lemma steps_awaitRollupBalance (expected : Nat) {timeout : Nat} (fits : timeout ≤ longestWait) :
    (awaitRollupBalance config expected timeout).Steps 1 := by
  refine (Query.steps_pollUntil _ _ _ _ (Rollup.within_balance _ _) fits).widen _ |>.bind 0
    (fun _ => steps_pure _) (by decide)

include short

lemma steps_bridgeIn : (bridgeIn config cli).Steps 4 := by
  have unfunded : (checkUnfunded config).Steps 1 := by
    refine ((steps_one (Rollup.within_balance _ _) (by decide) (Nat.zero_le _)).widen _).bind 0
      (fun balance => ?_) (by decide)
    split
    · exact steps_pure _
    · exact steps_throw _
  refine unfunded.bind 3 (fun _ => ?_) (by decide)
  refine (steps_validatorAt _ _).bind 3 (fun opener => ?_) (by decide)
  refine Steps.bind ((cli.steps_exec _ _ short).bind 0 (fun _ => steps_pure _) (Nat.le_refl 1)) 2
    (fun _ => ?_) (by decide)
  refine (steps_validatorAt _ _).bind 2 (fun locker => ?_) (by decide)
  refine Steps.bind ((cli.steps_exec _ _ short).bind 0 (fun _ => steps_pure _) (Nat.le_refl 1)) 1
    (fun _ => ?_) (by decide)
  exact steps_awaitRollupBalance _ (by decide)

lemma steps_bridgeOut : (bridgeOut config cli).Steps 5 := by
  refine ((steps_one (Rollup.within_sendRawTransaction _ _) (by decide)
    (Nat.zero_le _)).widen _).bind 4 (fun hash => ?_) (by decide)
  refine (steps_awaitRollupBalance _ (by decide)).bind 3 (fun _ => ?_) (by decide)
  refine (steps_validatorAt _ _).bind 3 (fun witness => ?_) (by decide)
  refine (cli.steps_waitUntilBalance _ _ _ short).bind 2 (fun _ => ?_) (by decide)
  refine ((steps_one (Rollup.within_transactionBlockNumber _ _) (by decide)
    (Nat.zero_le _)).widen _).bind 1 (fun block => ?_) (by decide)
  exact Steps.bind ((Query.steps_pollUntil _ _ _ _ (Rollup.within_finalizedHeight _)
    (by decide)).widen _) 0 (fun _ => steps_pure _) (by decide)

end Bridge

lemma steps_schedule (reference : ValidatorConfig) : (schedule config reference).Steps 1 := by
  refine ((Sequencer.stepwise_node _).lastBlockHeight.widen _).bind 0 (fun latest => ?_)
    (by decide)
  refine Steps.bind ((steps_ofExcept _).widen _) 0 (fun height => ?_) (Nat.le_refl 0)
  refine Steps.decided fun changes => ?_
  exact Steps.bind ((steps_ofExcept _).widen _) 0 (fun registry => steps_pure _) (Nat.le_refl 0)

lemma steps_awaiting (schedule : Schedule) (tokens : List (ValidatorConfig × Staged)) :
    ∀ attempt ∈ tokens.map fun (validator, staged) =>
      Lifecycle.awaitActivation validator.node config.deployer validator.component staged
        schedule.registry, attempt.Steps 5 := by
  intro attempt mem
  obtain ⟨⟨validator, staged⟩, _, rfl⟩ := List.mem_map.1 mem
  exact (Sequencer.stepwise_node _).awaitActivation stepwise_deployer _ _ _

lemma steps_upgradeAll (room : 0 < config.concurrency) (schedule : Schedule)
    (validators : List ValidatorConfig) :
    (upgradeAll config schedule validators).Steps (validators.length * 8) := by
  have staging : ∀ attempt ∈ validators.map fun validator =>
      Lifecycle.stage validator.node config.deployer validator.component
        (config.newRelease schedule.activationHeight validator), attempt.Steps 3 := by
    intro attempt mem
    obtain ⟨validator, _, rfl⟩ := List.mem_map.1 mem
    exact (Sequencer.stepwise_node _).stage stepwise_deployer _ _
  refine ((steps_pool room staging).widen _).bind (validators.length * 5) (fun staged => ?_) ?_
  · refine ((steps_pool room (steps_awaiting schedule _)).widen _).bind 0 (fun _ => steps_pure _) ?_
    rw [List.length_map, List.length_zip]
    omega
  · rw [List.length_map]
    omega

lemma steps_recover (schedule : Schedule) (missed reference : ValidatorConfig) :
    (recover config schedule missed reference).Steps 11 := by
  refine (((Sequencer.stepwise_node _).detectStall _).widen _).bind 10 (fun stalled => ?_)
    (by decide)
  exact Steps.bind (((Sequencer.stepwise_node _).resumeAfterStall stepwise_deployer
    (Sequencer.stepwise_node _) _ _ _ _).widen _) 0 (fun _ => steps_pure _) (by decide)

lemma steps_join (schedule : Schedule) (validator : ValidatorConfig) :
    (join config schedule validator).Steps 4 := by
  refine (steps_start _ _).bind 1 (fun info => ?_) (by decide)
  refine Steps.bind ((steps_ofExcept _).widen _) 1 (fun target => ?_) (Nat.le_refl 1)
  exact (((Sequencer.stepwise_node _).waitUntilHeight _ (by decide)).widen _).bind 0
    (fun _ => steps_pure _) (by decide)

lemma steps_nameAll (cli : SequencerCli) (validators : List ValidatorConfig)
    (infos : List (Option NodeInfo)) :
    (nameAll cli validators infos).Steps (validators.length * 2) := by
  have each : ∀ item ∈ validators.zip infos, Attempt.Steps 2 (do
      let info ← identity item.1 item.2
      cli.validatorUpdate item.1.participant info.pubKey info.votingPower) := by
    rintro ⟨validator, info⟩ _
    have known : (identity validator info).Steps 1 := by
      cases info with
      | none => exact (Sequencer.steps_nodeInfo _).widen _
      | some info => exact steps_pure _
    refine known.bind 1 (fun info => ?_) (by decide)
    exact Steps.bind (steps_one (cli.within_tryExec _ _) (by decide) (Nat.zero_le _)) 0
      (fun _ => steps_pure _) (by decide)
  refine (Steps.forM each).mono ?_
  rw [List.length_zip]
  omega

lemma steps_awaitName (node validator : ValidatorConfig) : (awaitName node validator).Steps 1 :=
  Steps.bind ((Query.steps_pollUntil _ _ _ _ (Sequencer.within_validatorName _ _)
    (by decide)).widen _) 0 (fun _ => steps_pure _) (by decide)

section Lineup

variable (lineup : Lineup config)

lemma length_initial : lineup.initial.length + 1 = config.validators.length := by
  rw [lineup.validators_eq_initial, List.length_append, List.length_singleton]

lemma length_staged : lineup.staged.length + 1 = lineup.initial.length := by
  rw [Lineup.initial, List.length_append, List.length_singleton]

lemma steps_prepare : (prepare lineup).Steps (lineup.initial.length * 11 + 10) := by
  refine steps_fetchCharts.bind (lineup.initial.length * 11 + 8) (fun _ => ?_) (by omega)
  refine (steps_startNetwork lineup.room _ _).bind (lineup.initial.length * 8 + 5) (fun infos => ?_)
    (by omega)
  refine (steps_checkBefore _).bind 5 (fun before => ?_) (by omega)
  refine (steps_bridgeIn rfl).bind 1 (fun _ => ?_) (by omega)
  exact (steps_schedule _).bind 0 (fun schedule => steps_pure _) (by omega)

lemma steps_carryOut (schedule : Schedule) :
    (carryOut lineup schedule).Steps (lineup.staged.length * 8 + 15) := by
  refine (steps_upgradeAll lineup.room _ _).bind 15 (fun _ => ?_) (by omega)
  exact (steps_recover _ _ _).bind 4 (fun _ => steps_join _ _) (by omega)

lemma steps_conclude (prepared : Prepared) (info : NodeInfo) :
    (conclude lineup prepared info).Steps (config.validators.length * 11 + 5) := by
  refine (steps_checkAfter _ _ _ _).bind (config.validators.length * 8 + 5) (fun _ => ?_) (by omega)
  refine (steps_nameAll _ _ _).bind (config.validators.length * 6 + 5) (fun _ => ?_) (by omega)
  refine ((steps_checkUpgradeAfter _ _ _).widen _).bind (config.validators.length * 1 + 5)
    (fun _ => ?_) (by omega)
  refine Steps.bind (Steps.forM fun validator _ => steps_awaitName _ validator) 5 (fun _ => ?_)
    (Nat.le_refl _)
  exact steps_bridgeOut rfl

end Lineup

/-- A drill takes thirty steps for each validator, and three. -/
theorem steps_run (valid : config.validate = .ok ()) :
    (run config).Steps (config.validators.length * 30 + 3) := by
  obtain ⟨lineup⟩ := exists_lineup valid
  have initial := length_initial lineup
  have staged := length_staged lineup
  rw [run_eq lineup]
  refine (steps_prepare lineup).bind
    (lineup.staged.length * 8 + config.validators.length * 11 + 20) (fun prepared => ?_) (by omega)
  exact (steps_carryOut lineup _).bind (config.validators.length * 11 + 5)
    (fun info => steps_conclude lineup prepared info) (by omega)

/-- Every run of a drill with a valid configuration ends, whatever its requests and commands are
answered with: after at most a number of them that depends on the number of validators alone, and
no later than the time that they take themselves and a time that depends on it too. In particular,
a retried or polled query makes a bounded number of attempts in a bounded time if a single attempt
does; so do the loops of the command-line client, also the poll of a balance that is read by a
retried command. Running attempts together is bounded if each of them is, and since there is room
for one at least, none of them is left waiting when the others have ended well. -/
theorem every_run_ends (valid : config.validate = .ok ()) :
    (∀ {σ : Type} (world : World network σ) (now : Nat) (state : σ),
      ((run config).run.exchanges world now state).length ≤
          (config.validators.length * 30 + 3) * mostRounds ∧
        ((run config).run.run world now state).time ≤
          now + (config.validators.length * 30 + 3) * longestWait +
            replyTime ((run config).run.exchanges world now state)) ∧
    (∀ {α : Type} {query : Attempt network QueryError α} {count span : Nat},
      query.Within count span → ∀ participant operation timeout,
        (Query.retry participant operation timeout query).Within
            (rounds BackoffConfig.defaultInitialDelay (longest timeout) * count)
            (longest timeout +
              rounds BackoffConfig.defaultInitialDelay (longest timeout) * span) ∧
          ∀ text awaited,
            (Query.pollUntil participant operation timeout text query awaited).Within
              (rounds Query.pollInterval (longest timeout) * count)
              (longest timeout + rounds Query.pollInterval (longest timeout) * span)) ∧
    (∀ (cli : SequencerCli) (participant : Participant) (args : List String) (account : String)
        (expected timeout : Nat),
      (cli.exec participant args).Within
          (rounds BackoffConfig.defaultInitialDelay (longest cli.retryTimeout))
          (longest cli.retryTimeout) ∧
        (cli.waitUntilBalance participant account expected timeout).Within
          (rounds Query.pollInterval (longest timeout) *
            rounds BackoffConfig.defaultInitialDelay (longest cli.retryTimeout))
          (longest timeout + rounds Query.pollInterval (longest timeout) *
            longest cli.retryTimeout)) ∧
    (∀ {ε α : Type} {attempts : List (Attempt network ε α)} {count span : Nat},
      (∀ attempt ∈ attempts, attempt.Within count span) →
        (pool config.concurrency attempts).Within (attempts.length * count)
            (attempts.length * span) ∧
          (joinAll attempts).Within (attempts.length * count) (attempts.length * span) ∧
          (pool config.concurrency attempts).Returns fun results =>
            (results.map (·.1)).Perm (List.range attempts.length)) := by
  obtain ⟨_, _, _, _, room⟩ := Config.of_validate valid
  refine ⟨fun world now state => Within.run (steps_run valid) world now state, ?_, ?_, ?_⟩
  · intro α query count span within participant operation timeout
    refine ⟨Query.within_retry participant operation timeout within, fun text awaited => ?_⟩
    exact Query.within_pollUntil participant operation timeout text awaited within
  · intro cli participant args account expected timeout
    refine ⟨cli.within_exec participant args, ?_⟩
    exact cli.within_waitUntilBalance participant account expected timeout
  · intro ε α attempts count span within
    refine ⟨within_pool room within, within_joinAll within, fun now es results finish path => ?_⟩
    obtain ⟨log, _, gone⟩ := pool_gone room path
    have all := (gone.ok results rfl).1
    rwa [List.length_map] at all

theorem every_run_ends_sample : Sample.config.validate = .ok () ∧
    ((run Sample.config).run.exchanges Sample.world 0 .old).length ≤
        (Sample.config.validators.length * 30 + 3) * mostRounds ∧
      ((run Sample.config).run.run Sample.world 0 .old).time ≤
        0 + (Sample.config.validators.length * 30 + 3) * longestWait +
          replyTime ((run Sample.config).run.exchanges Sample.world 0 .old) :=
  ⟨Sample.valid, (every_run_ends Sample.valid).1 Sample.world 0 .old⟩

end Drill

end UpgradeDrill
