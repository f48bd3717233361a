import UpgradeDrill.Proofs.Drill.Launch

/-!
# What a drill sends

The commands of the deployer join the requests of validators. `Config.Sends` lists all requests of a
drill. Only waits for the rollout of an upgrade tell that a token is awaited, and only the client of
the sequencer names a validator, so these are kept apart from what the deployer is told otherwise.
-/

namespace UpgradeDrill

open Attempt

namespace Config

variable (config : Config) (validators : List ValidatorConfig)

/-- A command of the deployer, other than a wait for the rollout of an upgrade. Activation heights
that are deployed have 64 bits. -/
inductive Deploys : NetworkRequest → Prop where
  | fetch (chart : String) :
    Deploys (.execute (config.fetch chart))
  | release {subcommand component} {release : Release} :
    (∀ height, release.activationHeight = some height → height ≤ maxUInt64) →
    Deploys (.execute (config.deployment subcommand component release))
  | restart (component : Component) :
    Deploys (.execute (config.restart component))
  | rollout (component : Component) :
    Deploys (.execute (config.installRollout component))

/-- A wait for the rollout of an upgrade, with which awaiting its activation begins. -/
def AwaitsRollout (request : NetworkRequest) : Prop :=
  ∃ component, request = .execute (config.rollout component Lifecycle.rolloutTimeout)

/-- What is sent while some validators are handled before any of them is awaited. -/
def Manages (request : NetworkRequest) : Prop :=
  config.Deploys request ∨ config.Asks validators request

/-- What is sent while validators are started and handled before any of them is awaited. -/
def Prepares (request : NetworkRequest) : Prop :=
  config.Manages config.validators request ∨
    ∃ validator ∈ config.validators, validator.participant.AskedIdentity request

/-- What is sent while an upgrade of some validators is carried out. -/
def Handles (request : NetworkRequest) : Prop :=
  config.Manages validators request ∨ config.AwaitsRollout request

/-- The requests of a drill. All heights in them have 64 bits. -/
def Sends (request : NetworkRequest) : Prop :=
  config.Handles config.validators request ∨ config.Names config.validators request

end Config

section Kinds

variable {config : Config} {validators others : List ValidatorConfig} {request : NetworkRequest}

namespace Config

lemma Asks.mono (subset : ∀ v ∈ validators, v ∈ others)
    (asks : config.Asks validators request) : config.Asks others request := by
  cases asks with
  | node mem asked => exact .node (subset _ mem) asked
  | client mem ne => exact .client (subset _ mem) ne
  | rollup params ne => exact .rollup params ne

lemma Names.mono (subset : ∀ v ∈ validators, v ∈ others)
    (names : config.Names validators request) : config.Names others request := by
  cases names with
  | identity mem identified => exact .identity (subset _ mem) identified
  | update info mem => exact .update info (subset _ mem)

lemma Handles.mono (subset : ∀ v ∈ validators, v ∈ others)
    (handles : config.Handles validators request) : config.Handles others request :=
  handles.imp (.imp id (.mono subset)) id

end Config

end Kinds

namespace Drill

variable {config : Config} {lineup : Lineup config} {validators : List ValidatorConfig}

/-- The upgrade is scheduled for a height of 64 bits. -/
lemma returns_prepare :
    (prepare lineup).Returns fun prepared => prepared.schedule.activationHeight ≤ maxUInt64 := by
  have scheduled : (schedule config lineup.first).Returns
      fun schedule => schedule.activationHeight ≤ maxUInt64 := by
    refine returns_bind fun latest => ?_
    refine (Lifecycle.returns_heightAfter.widen _).bind fun height fits => ?_
    exact returns_bind fun changes => returns_bind fun registry => returns_pure fits.2
  refine returns_bind fun _ => returns_bind fun infos => returns_bind fun before => ?_
  exact returns_bind fun _ => scheduled.bind fun schedule fits => returns_pure fits

variable (config) in
/-- Nothing is deployed for a height before the upgrade. -/
lemma oldRelease_fits (images : PreUpgradeImages) (validator : ValidatorConfig) : ∀ height,
    (config.oldRelease images validator).activationHeight = some height → height ≤ maxUInt64 :=
  fun height eq => nomatch (eq : none = some height)

section Start

variable {K : NetworkRequest → Prop} (deploys : ∀ request, config.Deploys request → K request)
include deploys

end Start

section Upgrade

variable {schedule : Schedule} (fits : schedule.activationHeight ≤ maxUInt64)
include fits

variable (config) in
lemma newRelease_fits (validator : ValidatorConfig) : ∀ height,
    (config.newRelease schedule.activationHeight validator).activationHeight = some height →
      height ≤ maxUInt64 := by
  intro height eq
  cases eq
  exact fits

/-- The release with which a validator is staged may be deployed to it. -/
lemma asksOnly_deployment {subcommand : String} (validator : ValidatorConfig) :
    (Helm.execute config.chartRoot "helm"
      ((config.newRelease schedule.activationHeight validator).helmArgs subcommand
        validator.component)).AsksOnly (config.Manages validators) :=
  Helm.asksOnly_execute (.inl (.release (newRelease_fits config fits validator)))

lemma asksOnly_stage {validator : ValidatorConfig} (mem : validator ∈ validators) :
    (Lifecycle.stage validator.node config.deployer validator.component
      (config.newRelease schedule.activationHeight validator)).AsksOnly
        (config.Manages validators) :=
  ((asks_node mem).mono fun _ => .inr).stage (asksOnly_deployment fits validator)
    (Helm.asksOnly_execute (.inl (.restart _)))

lemma asksOnly_staging (room : 0 < config.concurrency) :
    (pool config.concurrency (validators.map fun validator =>
      Lifecycle.stage validator.node config.deployer validator.component
        (config.newRelease schedule.activationHeight validator))).AsksOnly
      (config.Manages validators) := by
  refine asksOnly_pool room fun attempt mem => ?_
  obtain ⟨validator, listed, rfl⟩ := List.mem_map.1 mem
  exact asksOnly_stage fits listed

omit fits in
lemma asks_handled {validator : ValidatorConfig} (mem : validator ∈ validators) :
    validator.node.Asks (config.Handles validators) :=
  (asks_node mem).mono fun _ asks => .inl (.inr asks)

lemma asksOnly_upgradeAll (room : 0 < config.concurrency) :
    (upgradeAll config schedule validators).AsksOnly (config.Handles validators) := by
  refine (((asksOnly_staging fits room).mono fun _ => .inl).widen _).bind fun results => ?_
  refine (AsksOnly.widen _ (asksOnly_pool room fun attempt mem => ?_)).bind fun _ =>
    asksOnly_pure _
  obtain ⟨⟨validator, staged⟩, pair, rfl⟩ := List.mem_map.1 mem
  exact (asks_handled (List.of_mem_zip pair).1).awaitActivation
    (Helm.asksOnly_execute (.inr ⟨_, rfl⟩)) staged schedule.registry

lemma asksOnly_recover {missed reference : ValidatorConfig} (mem : missed ∈ validators)
    (mem' : reference ∈ validators) :
    (recover config schedule missed reference).AsksOnly (config.Handles validators) := by
  refine (((asks_handled mem).detectStall _).widen _).bind fun stalled => ?_
  refine (AsksOnly.widen _ ?_).bind fun _ => asksOnly_pure _
  exact (asks_handled mem).resumeAfterStall (asks_handled mem')
    ((asksOnly_deployment fits missed).mono fun _ => .inl)
    (Helm.asksOnly_execute (.inl (.inl (.restart _))))
    (Helm.asksOnly_execute (.inr ⟨_, rfl⟩)) stalled schedule.registry

end Upgrade

end Drill

end UpgradeDrill
