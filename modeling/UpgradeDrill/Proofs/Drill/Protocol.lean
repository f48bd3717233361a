import UpgradeDrill.Proofs.Drill.Kinds
import UpgradeDrill.Proofs.Drill.Lineup

/-!
# The protocol of a deployment

Which commands of `helm` and `kubectl` a drill may run after which history. `Allowed` lists them one
by one, each with what must have come before, and `Permitted` is what this means for installations,
upgrades and restarts.
-/

namespace UpgradeDrill

/-- A command has ended well by a time. -/
def Done (command : Command) : State network :=
  fun history now => ∃ e ∈ history, e.Succeeds command ∧ e.arrival ≤ now

namespace Config

variable (config : Config) (height : Nat) (validator : ValidatorConfig)

/-- Waits for a component to be ready after it was installed. -/
def installRollout (component : Component) : Command :=
  config.rollout component Helm.installRolloutTimeout

def rollupInstall : Command := config.deployment "install" .rollup config.rollupRelease

/-- Upgrades a validator to what carries out the upgrade at a height. -/
def newUpgrade : Command :=
  config.deployment "upgrade" validator.component (config.newRelease height validator)

/-- Installs a validator that has the upgrade from the beginning. -/
def newInstall : Command :=
  config.deployment "install" validator.component (config.newRelease height validator)

/-- The arguments that pin the images of a sequencer and of its relayer. -/
def tagArgs (sequencer relayer : String) : List String :=
  ["--set=images.sequencer.tag=" ++ sequencer,
    "--set=sequencer-relayer.images.sequencerRelayer.tag=" ++ relayer]

/-- What is set for the upgrade to activate at a height. -/
def newArgs : List String :=
  tagArgs config.imageTag config.imageTag ++
    ["--set=upgrades." ++ config.upgradeName ++ s!".baseInfo.activationHeight={height}"]

/-- A validator was upgraded and has then reported a height from which on the upgrade is in effect.
It was neither upgraded nor restarted in between. -/
def Activated : State network :=
  fun history now => ∃ staging watch, history = staging ++ watch ∧
    (∀ d ∈ watch, d.upgrades validator.component = false ∧
      d.deletesPod validator.component = false) ∧
    ∃ u ∈ staging, ∃ r ∈ watch, ∃ reached, u.Succeeds (config.newUpgrade height validator) ∧
      u.arrival ≤ r.time ∧ validator.participant.ReportsHeight reached r ∧ height ≤ reached ∧
      r.arrival ≤ now

end Config

namespace Lineup

variable {config : Config} (lineup : Lineup config) (height : Nat)

/-- Installs a validator as it is before the upgrade. -/
def oldInstall (validator : ValidatorConfig) : Command :=
  config.deployment "install" validator.component (config.oldRelease lineup.images validator)

/-- What is set before the upgrade, which is disabled then. -/
def oldArgs : List String :=
  Config.tagArgs lineup.images.sequencer lineup.images.sequencerRelayer ++
    ["--set=upgrades." ++ config.upgradeName ++ ".enabled=false"]

/-- Everything that runs before the upgrade has been installed and is ready. -/
structure Running (history : List (Exchange network)) (now : Nat) : Prop where
  installed : ∀ validator ∈ lineup.initial, Done (lineup.oldInstall validator) history now
  ready : ∀ validator ∈ lineup.initial,
    Done (config.installRollout validator.component) history now
  rollupInstalled : Done config.rollupInstall history now
  rollupReady : Done (config.installRollout .rollup) history now

/-- All staged validators had activated the upgrade when the withheld one was asked for its height,
and it told none from which on the upgrade would be in effect. It was only asked once more and
upgraded since then. -/
def Stalled : State network :=
  fun history now => ∃ earlier d c rest, history = earlier ++ d :: c :: rest ∧
    (∀ validator ∈ lineup.staged, config.Activated height validator earlier d.time) ∧
    lineup.withheld.participant.AskedForHeight d ∧ d.arrival ≤ now ∧
    (∀ reached, lineup.withheld.participant.ReportsHeight reached d → reached < height) ∧
    lineup.withheld.participant.AskedForHeight c ∧
    ∀ e ∈ rest, e.Runs (config.newUpgrade height lineup.withheld)

/-- The withheld validator was upgraded, reached the height from which on the upgrade is in effect,
and then a height that the first validator had reported in the meantime. -/
def Recovered : State network :=
  fun history now => ∃ u a r q reached target caughtUp, [u, a, r, q].Sublist history ∧
    u.Succeeds (config.newUpgrade height lineup.withheld) ∧
    lineup.withheld.participant.ReportsHeight reached a ∧ height ≤ reached ∧
    lineup.first.participant.ReportsHeight target r ∧
    lineup.withheld.participant.ReportsHeight caughtUp q ∧ target ≤ caughtUp ∧ q.arrival ≤ now

/-- What may be deployed, and by which subcommand, after which history. -/
inductive Deployable : String → Component → Release → List (Exchange network) → Nat → Prop where
  | initial {validator history now} :
    validator ∈ lineup.initial →
    Deployable "install" validator.component (config.oldRelease lineup.images validator) history now
  | rollup {history now} :
    Deployable "install" .rollup config.rollupRelease history now
  | upgrade {validator history now} :
    validator ∈ lineup.initial →
    lineup.Running history now →
    (validator = lineup.withheld → lineup.Stalled height history now) →
    Deployable "upgrade" validator.component (config.newRelease height validator) history now
  | joining {history now} :
    lineup.Recovered height history now →
    Deployable "install" lineup.joining.component (config.newRelease height lineup.joining)
      history now

/-- Which exchange may follow which history. -/
inductive Allowed : List (Exchange network) → Exchange network → Prop where
  | idle {before e} :
    e.Idle →
    Allowed before e
  | deploy {before e subcommand component release} :
    e.Runs (config.deployment subcommand component release) →
    (∀ d ∈ before, d.runsAny (Command.deploys subcommand component) = false) →
    lineup.Deployable height subcommand component release before e.time →
    Allowed before e
  | restart {before e validator} :
    e.Runs (config.restart validator.component) →
    validator ∈ lineup.initial →
    (validator = lineup.withheld → lineup.Stalled height before e.time) →
    Allowed before e

/-- What an exchange may be after a history, by the commands that it may run. -/
structure Permitted (before : List (Exchange network)) (e : Exchange network) : Prop where
  /-- An installation is that of an initial validator or of the rollup, as they are before the
  upgrade, or that of the joining validator once the withheld one has recovered. -/
  install : e.runsAny (Command.isHelm "install") = true →
    (∃ validator ∈ lineup.initial, e.Runs (lineup.oldInstall validator)) ∨
      e.Runs config.rollupInstall ∨
      e.Runs (config.newInstall height lineup.joining) ∧ lineup.Recovered height before e.time
  /-- An upgrade is that of an initial validator, and everything runs before it. -/
  upgrade : e.runsAny (Command.isHelm "upgrade") = true →
    (∃ validator ∈ lineup.initial, e.Runs (config.newUpgrade height validator)) ∧
      lineup.Running before e.time
  oldArgs : ∀ validator ∈ lineup.initial, e.installs validator.component = true →
    e.Carries lineup.oldArgs
  newArgs : e.runsAny (Command.isHelm "upgrade") = true ∨
      e.installs lineup.joining.component = true → e.Carries (config.newArgs height)
  /-- Nothing is done to the withheld validator until it has stalled. -/
  withheld : e.upgrades lineup.withheld.component = true ∨
      e.deletesPod lineup.withheld.component = true → lineup.Stalled height before e.time
  joining : e.installs lineup.joining.component = true → lineup.Recovered height before e.time

end Lineup

section Arguments

variable {config : Config} {component : Component} {release : Release} {subcommand : String}

lemma Config.mem_of_imageArgs {argument : String}
    (mem : argument ∈ release.imageArgs component.isSequencer) :
    argument ∈ (config.deployment subcommand component release).arguments :=
  List.mem_append_left _ (List.mem_append_left _ (List.mem_append_right _ mem))

lemma Config.mem_of_upgradeArgs {argument : String} (sequencer : component.isSequencer = true)
    (mem : argument ∈ release.upgradeArgs) :
    argument ∈ (config.deployment subcommand component release).arguments := by
  refine List.mem_append_right _ ?_
  rwa [if_pos sequencer]

lemma Config.imageArgs_sequencerRelease {sequencer relayer : String} {priceFeed : Bool}
    {activationHeight : Option Nat} :
    (config.sequencerRelease sequencer relayer priceFeed activationHeight).imageArgs true =
      tagArgs sequencer relayer := by
  show ["--set=" ++ "images.sequencer.tag" ++ "=" ++ sequencer,
    "--set=" ++ "sequencer-relayer.images.sequencerRelayer.tag" ++ "=" ++ relayer] = _
  rw [show "--set=" ++ "images.sequencer.tag" ++ "=" = "--set=images.sequencer.tag=" by decide,
    show "--set=" ++ "sequencer-relayer.images.sequencerRelayer.tag" ++ "=" =
      "--set=sequencer-relayer.images.sequencerRelayer.tag=" by decide]
  rfl

variable {validator : ValidatorConfig}

lemma Lineup.oldArgs_subset (lineup : Lineup config) :
    lineup.oldArgs ⊆ (lineup.oldInstall validator).arguments := by
  intro argument mem
  rcases List.mem_append.1 mem with tag | disabled
  · exact Config.mem_of_imageArgs (Config.imageArgs_sequencerRelease ▸ tag)
  · refine Config.mem_of_upgradeArgs rfl ?_
    rw [List.mem_singleton.1 disabled]
    exact .tail _ (.tail _ (.tail _ (.head _)))

lemma Config.newArgs_subset {height : Nat} : config.newArgs height ⊆
    (config.deployment subcommand validator.component
      (config.newRelease height validator)).arguments := by
  intro argument mem
  rcases List.mem_append.1 mem with tag | enabled
  · exact mem_of_imageArgs (imageArgs_sequencerRelease ▸ tag)
  · refine mem_of_upgradeArgs rfl ?_
    rw [List.mem_singleton.1 enabled]
    exact .tail _ (.tail _ (.tail _ (.head _)))

end Arguments

namespace Lineup

variable {config : Config} {lineup : Lineup config} {height : Nat}
  {before : List (Exchange network)} {e : Exchange network}

lemma eq_of_releaseName (lineup : Lineup config) {validator other : ValidatorConfig}
    (mem : validator ∈ config.validators) (mem' : other ∈ config.validators)
    (same : validator.component.releaseName = other.component.releaseName) : validator = other :=
  lineup.eq_of_name mem mem' (ValidatorConfig.name_of_releaseName same)

/-- A component is installed at most once, and upgraded at most once. -/
lemma Allowed.first {subcommand : String} {component : Component}
    (which : subcommand = "install" ∨ subcommand = "upgrade")
    (allowed : lineup.Allowed height before e)
    (deploys : e.runsAny (Command.deploys subcommand component) = true) :
    ∀ d ∈ before, d.runsAny (Command.deploys subcommand component) = false := by
  cases allowed with
  | idle idle =>
    rw [idle.not_deploys which] at deploys
    cases deploys
  | @deploy subcommand' component' _ runs first _ =>
    rw [runs.runsAny, Config.deploys_deployment_iff] at deploys
    obtain ⟨eq, kubeNamespace, releaseName⟩ := deploys
    have same : Command.deploys subcommand component = Command.deploys subcommand' component' := by
      unfold Command.deploys
      rw [eq, kubeNamespace, releaseName]
    rwa [same]
  | restart runs _ _ =>
    rw [runs.runsAny, Config.deploys_restart] at deploys
    cases deploys

/-- Which deployments may be about a validator. -/
lemma Deployable.validator_cases {subcommand : String} {component : Component} {release : Release}
    {now : Nat} {validator : ValidatorConfig} (mem : validator ∈ config.validators)
    (deployable : lineup.Deployable height subcommand component release before now)
    (same : component.releaseName = validator.component.releaseName) :
    (subcommand = "install" ∧ validator ∈ lineup.initial ∧ component = validator.component ∧
        release = config.oldRelease lineup.images validator) ∨
      (subcommand = "upgrade" ∧ validator ∈ lineup.initial ∧
        (validator = lineup.withheld → lineup.Stalled height before now)) ∨
      (subcommand = "install" ∧ validator = lineup.joining ∧ lineup.Recovered height before now ∧
        component = validator.component ∧ release = config.newRelease height validator) := by
  cases deployable with
  | @initial other _ _ old =>
    obtain rfl := lineup.eq_of_releaseName (lineup.mem_validators old) mem same
    exact .inl ⟨rfl, old, rfl, rfl⟩
  | rollup => exact absurd same.symm ValidatorConfig.releaseName_ne_rollup
  | @upgrade other _ _ old running stalled =>
    obtain rfl := lineup.eq_of_releaseName (lineup.mem_validators old) mem same
    exact .inr (.inl ⟨rfl, old, stalled⟩)
  | joining recovered =>
    obtain rfl := lineup.eq_of_releaseName lineup.joining_mem mem same
    exact .inr (.inr ⟨rfl, rfl, recovered, rfl, rfl⟩)

lemma Permitted.of_idle (idle : e.Idle) : lineup.Permitted height before e where
  install helm := absurd helm (Bool.eq_false_iff.1 idle.install)
  upgrade helm := absurd helm (Bool.eq_false_iff.1 idle.upgrade)
  oldArgs _ _ installs := absurd installs (Bool.eq_false_iff.1 (idle.not_deploys (.inl rfl)))
  newArgs some := by
    rcases some with helm | installs
    · exact absurd helm (Bool.eq_false_iff.1 idle.upgrade)
    · exact absurd installs (Bool.eq_false_iff.1 (idle.not_deploys (.inl rfl)))
  withheld some := by
    rcases some with upgrades | deletes
    · exact absurd upgrades (Bool.eq_false_iff.1 (idle.not_deploys (.inr rfl)))
    · exact absurd deletes (Bool.eq_false_iff.1 (idle.deletesPod _))
  joining installs := absurd installs (Bool.eq_false_iff.1 (idle.not_deploys (.inl rfl)))

lemma Permitted.of_restart {validator : ValidatorConfig}
    (runs : e.Runs (config.restart validator.component)) (mem : validator ∈ lineup.initial)
    (stalled : validator = lineup.withheld → lineup.Stalled height before e.time) :
    lineup.Permitted height before e := by
  have helm {subcommand} : e.runsAny (Command.isHelm subcommand) = false :=
    runs.runsAny.trans Config.isHelm_restart
  have deploys {subcommand component} :
      e.runsAny (Command.deploys subcommand component) = false :=
    runs.runsAny.trans Config.deploys_restart
  refine ⟨?_, ?_, ?_, ?_, ?_, ?_⟩
  · exact fun some => absurd some (Bool.eq_false_iff.1 helm)
  · exact fun some => absurd some (Bool.eq_false_iff.1 helm)
  · exact fun _ _ some => absurd some (Bool.eq_false_iff.1 deploys)
  · rintro (some | some)
    · exact absurd some (Bool.eq_false_iff.1 helm)
    · exact absurd some (Bool.eq_false_iff.1 deploys)
  · rintro (some | deletes)
    · exact absurd some (Bool.eq_false_iff.1 deploys)
    · rw [Exchange.deletesPod, runs.runsAny, Config.deletesPod_restart_iff] at deletes
      exact stalled (lineup.eq_of_name (lineup.mem_validators mem)
        (lineup.mem_validators lineup.withheld_mem) (ValidatorConfig.name_of_kubeNamespace deletes))
  · exact fun some => absurd some (Bool.eq_false_iff.1 deploys)

lemma Permitted.of_deployment {subcommand : String} {component : Component} {release : Release}
    (runs : e.Runs (config.deployment subcommand component release))
    (deployable : lineup.Deployable height subcommand component release before e.time) :
    lineup.Permitted height before e := by
  -- A deployment is one command about one component, which settles what it can be.
  have helm {subcommand'} (some : e.runsAny (Command.isHelm subcommand') = true) :
      subcommand = subcommand' := by
    rw [runs.runsAny, Config.isHelm_deployment] at some
    exact of_decide_eq_true some
  have about {subcommand' validator} (mem : validator ∈ config.validators)
      (some : e.runsAny (Command.deploys subcommand' validator.component) = true) := by
    rw [runs.runsAny, Config.deploys_deployment_iff] at some
    exact And.intro some.1 (deployable.validator_cases mem some.2.2)
  have upgrade (some : e.runsAny (Command.isHelm "upgrade") = true) :
      (∃ validator ∈ lineup.initial, e.Runs (config.newUpgrade height validator)) ∧
        lineup.Running before e.time := by
    have eq := helm some
    cases deployable with
    | initial => exact absurd eq (by decide)
    | rollup => exact absurd eq (by decide)
    | upgrade mem running _ => exact ⟨⟨_, mem, runs⟩, running⟩
    | joining => exact absurd eq (by decide)
  have joining (some : e.installs lineup.joining.component = true) :
      e.Runs (config.newInstall height lineup.joining) ∧
        lineup.Recovered height before e.time := by
    obtain ⟨rfl, ⟨_, mem, _⟩ | ⟨eq, _⟩ | ⟨_, _, recovered, rfl, rfl⟩⟩ :=
      about lineup.joining_mem some
    · exact absurd mem lineup.joining_notMem
    · exact absurd eq (by decide)
    · exact ⟨runs, recovered⟩
  refine ⟨fun some => ?_, upgrade, fun validator old some => ?_, ?_, ?_,
    fun some => (joining some).2⟩
  · have eq := helm some
    cases deployable with
    | initial mem => exact .inl ⟨_, mem, runs⟩
    | rollup => exact .inr (.inl runs)
    | upgrade => exact absurd eq (by decide)
    | joining recovered => exact .inr (.inr ⟨runs, recovered⟩)
  · obtain ⟨rfl, ⟨_, _, rfl, rfl⟩ | ⟨eq, _⟩ | ⟨_, rfl, _⟩⟩ := about (lineup.mem_validators old) some
    · exact ⟨_, runs, lineup.oldArgs_subset⟩
    · exact absurd eq (by decide)
    · exact absurd old lineup.joining_notMem
  · rintro (some | some)
    · obtain ⟨⟨validator, _, runs⟩, _⟩ := upgrade some
      exact ⟨_, runs, Config.newArgs_subset⟩
    · exact ⟨_, (joining some).1, Config.newArgs_subset⟩
  · rintro (some | deletes)
    · obtain ⟨rfl, ⟨eq, _⟩ | ⟨_, _, stalled⟩ | ⟨eq, _⟩⟩ :=
        about (lineup.mem_validators lineup.withheld_mem) some
      · exact absurd eq (by decide)
      · exact stalled rfl
      · exact absurd eq (by decide)
    · rw [Exchange.deletesPod, runs.runsAny, Config.deletesPod_deployment] at deletes
      cases deletes

/-- Whatever is allowed is permitted. -/
theorem Allowed.permitted (allowed : lineup.Allowed height before e) :
    lineup.Permitted height before e := by
  cases allowed with
  | idle idle => exact .of_idle idle
  | deploy runs _ deployable => exact .of_deployment runs deployable
  | restart runs mem stalled => exact .of_restart runs mem stalled

end Lineup

end UpgradeDrill
