import UpgradeDrill.Config.Basic
import UpgradeDrill.Node.Sequencer
import UpgradeDrill.Routine.Pool
import UpgradeDrill.Upgrade.Deployer

/-!
# Deployments of a drill

Which releases a drill deploys, and how validators and the rollup are started. A validator has
started when its node tells the moniker that is expected of it.
-/

namespace UpgradeDrill

def ValidatorConfig.node (validator : ValidatorConfig) : Node network :=
  Sequencer.node validator.participant

def ValidatorConfig.component (validator : ValidatorConfig) : Component :=
  .ofParticipant validator.participant

namespace Config

/-- A release of the sequencer that knows the configured upgrade. -/
def sequencerRelease (config : Config) (sequencer relayer : String) (priceFeed : Bool)
    (activationHeight : Option Nat) : Release where
  tag?
    | .sequencer => some sequencer
    | .sequencerRelayer => some relayer
    | _ => none
  priceFeed
  upgrade := some ⟨config.upgradeName, activationHeight⟩

def oldRelease (config : Config) (images : PreUpgradeImages) (validator : ValidatorConfig) :
    Release :=
  config.sequencerRelease images.sequencer images.sequencerRelayer validator.priceFeed none

/-- What carries out the upgrade at a height. -/
def newRelease (config : Config) (activationHeight : Nat) (validator : ValidatorConfig) : Release :=
  config.sequencerRelease config.imageTag config.imageTag validator.priceFeed
    (some activationHeight)

def rollupRelease (config : Config) : Release where
  tag? image := config.rollup.images.lookup image

def deployer (config : Config) : Deployer network := Helm.deployer config.chartRoot

end Config

namespace Drill

/-- Charts whose dependencies are fetched before anything is deployed. -/
def charts : List String := ["sequencer", "evm-stack"]

def fetchCharts (config : Config) : Attempt network DrillError Unit :=
  charts.forM fun chart => (Helm.updateDependencies config.chartRoot chart).widen .upgrade

/-- Installs a release and waits until it runs. -/
def install (config : Config) (component : Component) (release : Release) :
    Attempt network DrillError Unit := do
  (config.deployer.install component release).widen .upgrade
  (config.deployer.waitForRollout component Helm.installRolloutTimeout).widen .upgrade

/-- Starts a validator, and gives the identity that its node reports. -/
def start (config : Config) (validator : ValidatorConfig) (release : Release) :
    Attempt network DrillError NodeInfo := do
  install config validator.component release
  (Sequencer.nodeInfo validator.participant).widen .query

/-- Starts the rollup, which has no identity to report. -/
def startRollup (config : Config) : Attempt network DrillError (Option NodeInfo) := do
  install config .rollup config.rollupRelease
  return none

/-- Starts validators alongside the rollup. Gives what is known of the identities of the validators,
in their order. -/
def startNetwork (config : Config) (images : PreUpgradeImages) (validators : List ValidatorConfig) :
    Attempt network DrillError (List (Option NodeInfo)) := do
  let starts := validators.map fun validator =>
    some <$> start config validator (config.oldRelease images validator)
  let started ← pool config.concurrency (starts ++ [startRollup config])
  return (inOrder started).take validators.length

end Drill

end UpgradeDrill
