import UpgradeDrill.Node.Participant

/-!
# Releases

What is deployed to which component, and the arguments with which `helm` deploys it.
-/

namespace UpgradeDrill

/-- Container images that can be pinned to a tag. -/
inductive Image where
  | sequencer
  | sequencerRelayer
  | conductor
  | composer
  | bridgeWithdrawer
  | geth
  deriving DecidableEq, Repr

namespace Image

def all : List Image :=
  [sequencer, sequencerRelayer, conductor, composer, bridgeWithdrawer, geth]

def name : Image → String
  | sequencer => "sequencer"
  | sequencerRelayer => "sequencer-relayer"
  | conductor => "conductor"
  | composer => "composer"
  | bridgeWithdrawer => "bridge-withdrawer"
  | geth => "geth"

def ofName? (name : String) : Option Image := all.find? (·.name = name)

/-- The chart value that holds the tag of an image. -/
def chartValue : Image → String
  | sequencer => "images.sequencer.tag"
  | sequencerRelayer => "sequencer-relayer.images.sequencerRelayer.tag"
  | conductor => "evm-rollup.images.conductor.tag"
  | composer => "composer.images.composer.devTag"
  | bridgeWithdrawer => "evm-bridge-withdrawer.images.evmBridgeWithdrawer.devTag"
  | geth => "evm-rollup.images.geth.tag"

def isSequencer : Image → Bool
  | sequencer | sequencerRelayer => true
  | _ => false

end Image

inductive Component where
  | sequencer (name kubeNamespace : String)
  | rollup
  deriving DecidableEq, Repr

namespace Component

def ofParticipant (participant : Participant) : Component :=
  sequencer participant.name participant.kubeNamespace

def name : Component → String
  | sequencer name _ => name
  | rollup => "rollup"

def kubeNamespace : Component → String
  | sequencer _ kubeNamespace => kubeNamespace
  | rollup => devNamespace

/-- The stateful set that runs a component. -/
def statefulSet : Component → String
  | sequencer _ _ => "sequencer"
  | rollup => "astria-geth"

def isSequencer : Component → Bool
  | sequencer _ _ => true
  | rollup => false

end Component

/-- An upgrade that a release is configured with. Without an activation height the upgrade is left
out of what the node schedules. -/
structure ScheduledUpgrade where
  name : String
  activationHeight : Option Nat
  deriving DecidableEq, Repr

/-- What to deploy to a component. -/
structure Release where
  /-- The tags that override those of the chart. -/
  tag? : Image → Option String := fun _ => none
  priceFeed : Bool := false
  upgrade : Option ScheduledUpgrade := none

namespace Release

def activationHeight (release : Release) : Option Nat :=
  release.upgrade.bind (·.activationHeight)

/-- The arguments that pin the images of one chart. -/
def imageArgs (release : Release) (sequencer : Bool) : List String :=
  (Image.all.filter (·.isSequencer = sequencer)).filterMap fun image =>
    (release.tag? image).map fun tag => "--set=" ++ image.chartValue ++ "=" ++ tag

/-- The arguments that configure the upgrade of a sequencer. -/
def upgradeArgs (release : Release) : List String :=
  match release.upgrade with
  | some ⟨name, height⟩ =>
    ["--set=storage.enabled=true", "--set=sequencer-relayer.storage.enabled=true",
      "--values=dev/values/validators/" ++ name ++ ".upgrade.yml",
      match height with
      | some height => "--set=upgrades." ++ name ++ s!".baseInfo.activationHeight={height}"
      | none => "--set=upgrades." ++ name ++ ".enabled=false"]
  | none =>
    if release.priceFeed then ["--values=dev/values/validators/priceFeed.genesis.yml"] else []

/-- The arguments that name the chart of a component and its settings. -/
def chartArgs (release : Release) : Component → List String
  | .sequencer name _ =>
    [name ++ "-sequencer-chart", "charts/sequencer", "--values=dev/values/validators/all.yml",
      "--values=dev/values/validators/" ++ name ++ ".yml",
      s!"--set=sequencer.priceFeed.enabled={release.priceFeed}",
      "--set=sequencer.abciUDS=false"]
  | .rollup =>
    ["astria-chain-chart", "charts/evm-stack", "--values=dev/values/rollup/dev.yaml",
      "--set=blockscout-stack.enabled=false", "--set=postgresql.enabled=false",
      "--set=evm-faucet.enabled=false"]

/-- The arguments of `helm` that deploy a release to a component. -/
def helmArgs (release : Release) (subcommand : String) (component : Component) : List String :=
  [subcommand, "-n=" ++ component.kubeNamespace] ++ release.chartArgs component ++
    release.imageArgs component.isSequencer ++
    (if subcommand = "install" then ["--create-namespace"] else []) ++
    (if component.isSequencer then release.upgradeArgs else [])

end Release

end UpgradeDrill
