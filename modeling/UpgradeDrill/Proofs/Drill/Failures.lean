import UpgradeDrill.Proofs.Drill.Lineup
import UpgradeDrill.Proofs.Query.Retry
import UpgradeDrill.Proofs.Upgrade.Faults

/-!
# How a drill fails

A drill may blame its configuration, or miss a validator that it gives a part to. One with a valid
configuration fails in neither way (`Drill.blameless_run`). It may still blame the upgrade that is
configured, but then there is a fault in it (`Drill.explained_run`). All other errors come from the
network, from commands, or from what nodes report.
-/

namespace UpgradeDrill

open Attempt

namespace DrillError

/-- The error is in the configuration, or a part was given to a validator that is not there. -/
def BlamesConfig : DrillError → Prop
  | invalidConfig _ | unreadableConfig | missingValidator _ => True
  | _ => False

/-- The error is in the upgrade, whatever its nodes report. -/
def BlamesUpgrade : DrillError → Prop
  | upgrade cause => cause.BlamesUpgrade
  | _ => False

end DrillError

namespace Config

variable (config : Config)

/-- What is wrong with the configured upgrade, by the error that tells it: there are no checks for
an upgrade of its name, or it lists a change twice. -/
inductive Fault : DrillError → Prop where
  | unknown :
    config.upgradeName ≠ Aspen.name →
    Fault (.upgrade (.unknownUpgrade config.upgradeName))
  | repeated {changes change} :
    config.changes = .ok changes →
    List.Duplicate change changes →
    Fault (.upgrade (.ambiguousChange change config.upgradeName config.upgradeName))

/-- An error does not blame the configuration, and blames the upgrade only for a fault in it. -/
structure Explains (error : DrillError) : Prop where
  blameless : ¬ error.BlamesConfig
  fault : error.BlamesUpgrade → config.Fault error

end Config

/-- An attempt that never blames the configuration. -/
def Attempt.Blameless {α : Type} (attempt : Attempt network DrillError α) : Prop :=
  attempt.Fails fun error => ¬ error.BlamesConfig

/-- An attempt that finds fault with neither the configuration nor the upgrade. -/
def Attempt.Faultless {α : Type} (attempt : Attempt network DrillError α) : Prop :=
  attempt.Fails fun error => ¬ error.BlamesConfig ∧ ¬ error.BlamesUpgrade

section Widen

variable {α : Type}

lemma Attempt.faultless_query (attempt : Attempt network QueryError α) :
    (attempt.widen DrillError.query).Faultless :=
  fails_widen fun _ => ⟨id, id⟩

lemma Attempt.Innocent.faultless {attempt : Attempt network UpgradeError α}
    (innocent : attempt.Innocent) : (attempt.widen DrillError.upgrade).Faultless :=
  Fails.widen innocent fun _ not => ⟨id, not⟩

lemma Attempt.Technical.faultless {attempt : Attempt network UpgradeError α}
    (technical : attempt.Technical) : (attempt.widen DrillError.upgrade).Faultless :=
  technical.innocent.faultless

lemma Attempt.Faultless.explained {attempt : Attempt network DrillError α}
    (faultless : attempt.Faultless) (config : Config) : attempt.Fails config.Explains :=
  faultless.mono fun _ neither => ⟨neither.1, fun blames => (neither.2 blames).elim⟩

end Widen

namespace SequencerCli

variable (cli : SequencerCli) (participant : Participant)

lemma faultless_tryExec (args : List String) : (cli.tryExec participant args).Faultless := by
  refine fails_request.bind fun reply => fails_ofExcept fun error eq => ?_
  unfold ofOutput at eq
  split at eq
  · cases eq
    exact ⟨id, id⟩
  · split at eq
    · cases eq
    · cases eq
      exact ⟨id, id⟩

lemma faultless_execFrom (args : List String) (session : Backoff) :
    (cli.execFrom participant args session).Faultless := by
  induction session using execFrom.induct with
  | case1 session ih =>
    rw [execFrom]
    refine fails_timed.bind fun timed => ?_
    obtain ⟨outcome, took⟩ := timed
    cases outcome with
    | ok stdout => exact fails_pure
    | error error =>
      dsimp only
      split
      · rename_i next granted
        exact fails_sleep.bind fun _ => ih took next granted
      · exact fails_throw ⟨id, id⟩

lemma faultless_exec (args : List String) : (cli.exec participant args).Faultless := by
  refine fails_readClock.bind fun now => ?_
  split
  · exact faultless_execFrom cli participant args _
  · exact fails_throw ⟨id, id⟩

lemma faultless_waitFrom (account : String) (expected timeout : Nat) (last : Option Nat)
    (session : Backoff) :
    (cli.waitFrom participant account expected timeout last session).Faultless := by
  induction last, session using waitFrom.induct with
  | case1 last session ih =>
    rw [waitFrom]
    refine fails_timed.bind fun timed => ?_
    obtain ⟨outcome, took⟩ := timed
    dsimp only
    split
    · exact fails_pure
    · split
      · rename_i next granted
        exact fails_sleep.bind fun _ => ih outcome took next granted
      · exact fails_throw ⟨id, id⟩

lemma faultless_waitUntilBalance (account : String) (expected timeout : Nat) :
    (cli.waitUntilBalance participant account expected timeout).Faultless := by
  refine fails_readClock.bind fun now => ?_
  split
  · exact faultless_waitFrom cli participant account expected timeout _ _
  · exact fails_throw ⟨id, id⟩

end SequencerCli

namespace Drill

variable {config : Config}

lemma faultless_validatorAt {validators : List ValidatorConfig} {place : Nat}
    (lt : place < validators.length) : (validatorAt validators place).Faultless := by
  unfold validatorAt
  rw [List.getElem?_eq_getElem lt]
  exact fails_pure

lemma faultless_fetchCharts : (fetchCharts config).Faultless :=
  .forM fun _ _ => (Helm.technical_execute ..).faultless

lemma faultless_install (component : Component) (release : Release) :
    (install config component release).Faultless :=
  (Helm.technical_execute ..).faultless.bind fun _ => (Helm.technical_execute ..).faultless

lemma faultless_start (validator : ValidatorConfig) (release : Release) :
    (start config validator release).Faultless :=
  (faultless_install _ _).bind fun _ => faultless_query _

lemma faultless_startNetwork (room : 0 < config.concurrency) (images : PreUpgradeImages)
    (validators : List ValidatorConfig) : (startNetwork config images validators).Faultless := by
  refine (fails_pool room fun attempt mem => ?_).bind
    fun _ => fails_pure
  rcases List.mem_append.1 mem with mem | mem
  · obtain ⟨validator, _, rfl⟩ := List.mem_map.1 mem
    exact (faultless_start _ _).map _
  · rw [List.mem_singleton.1 mem]
    exact (faultless_install _ _).bind fun _ => fails_pure

lemma faultless_awaitRollupBalance (expected timeout : Nat) :
    (awaitRollupBalance config expected timeout).Faultless :=
  (faultless_query _).bind fun _ => fails_pure

lemma faultless_bridgeIn (enough : Config.minValidators ≤ config.validators.length)
    (cli : SequencerCli) : (bridgeIn config cli).Faultless := by
  unfold Config.minValidators at enough
  refine Fails.bind ?_ fun _ => ?_
  · refine (faultless_query _).bind fun balance => ?_
    split
    · exact fails_pure
    · exact fails_throw ⟨id, id⟩
  refine (faultless_validatorAt (by omega)).bind fun opener => ?_
  refine ((cli.faultless_exec _ _).bind fun _ => fails_pure).bind fun _ => ?_
  refine (faultless_validatorAt (by omega)).bind fun locker => ?_
  refine ((cli.faultless_exec _ _).bind fun _ => fails_pure).bind fun _ => ?_
  exact faultless_awaitRollupBalance _ _

lemma faultless_bridgeOut (enough : Config.minValidators ≤ config.validators.length)
    (cli : SequencerCli) : (bridgeOut config cli).Faultless := by
  unfold Config.minValidators at enough
  refine (faultless_query _).bind fun hash => ?_
  refine (faultless_awaitRollupBalance _ _).bind fun _ => ?_
  refine (faultless_validatorAt (by omega)).bind fun witness => ?_
  refine (cli.faultless_waitUntilBalance _ _ _ _).bind fun _ => ?_
  exact (faultless_query _).bind fun block => (faultless_query _).bind fun _ => fails_pure

section Pools

variable (room : 0 < config.concurrency) (schedule : Schedule)
include room

lemma technical_staging (validators : List ValidatorConfig) :
    (pool config.concurrency (validators.map fun validator =>
      Lifecycle.stage validator.node config.deployer validator.component
        (config.newRelease schedule.activationHeight validator))).Technical := by
  refine fails_pool room fun attempt mem => ?_
  obtain ⟨validator, _, rfl⟩ := List.mem_map.1 mem
  exact Lifecycle.technical_stage _ (Helm.technical_deployer config.chartRoot) _ _

lemma innocent_awaiting (tokens : List (ValidatorConfig × Staged)) :
    (pool config.concurrency (tokens.map fun (validator, staged) =>
      Lifecycle.awaitActivation validator.node config.deployer validator.component staged
        schedule.registry)).Innocent := by
  refine fails_pool room fun attempt mem => ?_
  obtain ⟨pair, _, rfl⟩ := List.mem_map.1 mem
  exact Lifecycle.innocent_awaitActivation _ (Helm.technical_deployer config.chartRoot) _ _ _

lemma faultless_upgradeAll (validators : List ValidatorConfig) :
    (upgradeAll config schedule validators).Faultless := by
  refine (technical_staging room schedule validators).faultless.bind fun staged => ?_
  exact (innocent_awaiting room schedule _).faultless.bind fun _ => fails_pure

end Pools

lemma faultless_recover (schedule : Schedule) (missed reference : ValidatorConfig) :
    (recover config schedule missed reference).Faultless := by
  refine (Lifecycle.innocent_detectStall _ _).faultless.bind fun stalled => ?_
  exact (Lifecycle.innocent_resumeAfterStall _ _ (Helm.technical_deployer _) _ _ _ _).faultless.bind
    fun _ => fails_pure

lemma faultless_join (schedule : Schedule) (validator : ValidatorConfig) :
    (join config schedule validator).Faultless :=
  (faultless_start _ _).bind fun _ => (Lifecycle.technical_heightAfter _ _).faultless.bind
    fun _ => (faultless_query _).bind fun _ => fails_pure

lemma innocent_increased (before : Nat) (state : CohortState Nat) :
    Innocent (I := network) (Attempt.ofExcept
      ((state.observations.forM (checkIncreased before)).bind fun _ =>
        state.agreed toString currentVersion)) := by
  cases increased : state.observations.forM (checkIncreased before) with
  | ok => exact state.innocent_agreed _ _
  | error error =>
    obtain ⟨observation, _, refused⟩ := Except.of_forM_error increased
    refine fails_throw ?_
    unfold checkIncreased at refused
    dsimp only at refused
    split at refused
    · cases refused
    · cases refused
      exact id

lemma innocent_checkApplied (registry : Registry) (version : Nat) (node : String)
    (info : UpgradesInfo) :
    Innocent (I := network) (Attempt.ofExcept (checkApplied registry version node info)) := by
  unfold checkApplied
  split
  · exact registry.innocent_checkChanges _ _
  · exact fails_throw id

lemma faultless_checkAfter (registry : Registry) (before : Snapshot) (reference : ValidatorConfig)
    (validators : List ValidatorConfig) :
    (checkAfter registry before reference validators).Faultless := by
  refine Fails.bind ?_ fun version => Fails.bind ?_ fun _ => ?_
  · exact (Cohort.innocent_observe ..).faultless.bind fun state =>
      (innocent_increased _ state).faultless
  · refine (Cohort.innocent_ensureConsistent ..).faultless.bind fun after => ?_
    split
    · exact fails_pure
    · exact fails_throw ⟨id, id⟩
  · exact (Cohort.innocent_ensureConsistent ..).faultless.bind fun info =>
      (innocent_checkApplied registry version reference.name info).faultless

lemma faultless_nameAll (cli : SequencerCli) (validators : List ValidatorConfig)
    (infos : List (Option NodeInfo)) : (nameAll cli validators infos).Faultless := by
  refine .forM fun (validator, info) _ => Fails.bind ?_ fun info =>
    (cli.faultless_tryExec _ _).bind fun _ => fails_pure
  cases info with
  | none => exact faultless_query _
  | some info => exact fails_pure

section Fault

variable (cohort : List (Node network))

/-- There are no checks before an upgrade exactly for the fault of its name. -/
lemma explained_checkUpgradeBefore :
    ((checkUpgradeBefore config.upgradeName cohort).widen DrillError.upgrade).Fails
      config.Explains := by
  unfold checkUpgradeBefore
  split
  · exact (Aspen.innocent_assertBefore cohort).faultless.explained config
  · rename_i unknown
    exact (fails_throw rfl).widen fun error eq => eq ▸ ⟨id, fun _ => .unknown unknown⟩

lemma explained_checkUpgradeAfter (activationHeight : Nat) :
    ((checkUpgradeAfter config.upgradeName cohort activationHeight).widen DrillError.upgrade).Fails
      config.Explains := by
  unfold checkUpgradeAfter
  split
  · exact (Aspen.innocent_assertAfter cohort activationHeight).faultless.explained config
  · rename_i unknown
    exact (fails_throw rfl).widen fun error eq => eq ▸ ⟨id, fun _ => .unknown unknown⟩

end Fault

lemma explained_checkBefore (validators : List ValidatorConfig) :
    (checkBefore config validators).Fails config.Explains := by
  have agree {α : Type} [DecidableEq α] (inspect : α → String) (what : String)
      (ask : Node network → Attempt network QueryError α) :=
    Faultless.explained
      (Cohort.innocent_ensureConsistent (validators.map (·.node)) inspect what ask).faultless config
  refine ((faultless_query _).explained config).bind fun _ => (agree _ _ _).bind fun _ => ?_
  refine (agree _ _ _).bind fun version => (agree _ _ _).bind fun genesis => ?_
  split
  · exact (explained_checkUpgradeBefore _).bind fun _ => fails_pure
  · exact fails_throw ⟨id, False.elim⟩

lemma explained_schedule {changes : List String} (known : config.changes = .ok changes)
    (reference : ValidatorConfig) : (schedule config reference).Fails config.Explains := by
  refine ((faultless_query _).explained config).bind fun latest => ?_
  refine ((Lifecycle.technical_heightAfter _ _).faultless.explained config).bind fun height => ?_
  refine fails_decided (fun error eq => nomatch eq.symm.trans known) fun listed eq => ?_
  refine Fails.bind ((fails_ofExcept fun error => id).widen fun error refused => ?_)
    fun registry => fails_pure
  obtain ⟨change, twice, rfl⟩ := Registry.repeated_of_ofGroups refused
  exact ⟨id, fun _ => .repeated eq twice⟩

/-- All errors of a drill with a valid configuration are explained. -/
theorem explained_run (valid : config.validate = .ok ()) :
    (run config).Fails config.Explains := by
  obtain ⟨_, _, enough, _⟩ := Config.of_validate valid
  obtain ⟨lineup⟩ := exists_lineup valid
  rw [run_eq lineup]
  refine Fails.bind ?_ fun prepared => Fails.bind ?_ fun info => ?_
  · refine (faultless_fetchCharts.explained config).bind fun _ => ?_
    refine ((faultless_startNetwork lineup.room _ _).explained config).bind fun infos => ?_
    refine (explained_checkBefore _).bind fun before => ?_
    refine ((faultless_bridgeIn enough _).explained config).bind fun _ => ?_
    exact (explained_schedule lineup.changes_eq _).bind fun schedule => fails_pure
  · refine Faultless.explained ?_ config
    refine (faultless_upgradeAll lineup.room _ _).bind fun _ => ?_
    exact (faultless_recover _ _ _).bind fun _ => faultless_join _ _
  · refine ((faultless_checkAfter _ _ _ _).explained config).bind fun _ => ?_
    refine ((faultless_nameAll _ _ _).explained config).bind fun _ => ?_
    refine (explained_checkUpgradeAfter _ _).bind fun _ => Faultless.explained ?_ config
    refine Fails.bind (.forM fun validator _ => ?_) fun _ => faultless_bridgeOut enough _
    exact (faultless_query _).bind fun _ => fails_pure

/-- A drill with a valid configuration never blames it. -/
theorem blameless_run (valid : config.validate = .ok ()) : (run config).Blameless :=
  (explained_run valid).mono fun _ explains => explains.blameless

end Drill

end UpgradeDrill
