import UpgradeDrill.Network.Interface
import UpgradeDrill.Duration
import UpgradeDrill.Upgrade.Error
import UpgradeDrill.Upgrade.Release

/-!
# Deployers

How releases reach components: the operations that an upgrade needs, and their form with `helm` and
`kubectl`.
-/

namespace UpgradeDrill

/-- Deploys releases over some interface. -/
structure Deployer (I : Interface) where
  /-- Deploys a release as a new deployment. -/
  install : Component → Release → Attempt I UpgradeError Unit
  /-- Replaces the running deployment. -/
  upgrade : Component → Release → Attempt I UpgradeError Unit
  /-- Restarts a component whose process has stopped. -/
  restart : Component → Attempt I UpgradeError Unit
  /-- Waits until the latest deployment is ready. -/
  waitForRollout : Component → (timeout : Nat) → Attempt I UpgradeError Unit

namespace Helm

def installRolloutTimeout : Nat := Duration.ofSecs 600

/-- The pod that is deleted to restart a component. -/
def restartedPod : String := "sequencer-0"

/-- Runs a program in the directory of the charts; it must end well. -/
def execute (root program : String) (arguments : List String) :
    Attempt network UpgradeError Unit := do
  let command : Command := ⟨program, arguments, some root⟩
  match ← Attempt.request (I := network) (.execute command) with
  | .error cause => throw (.io cause)
  | .ok output =>
    if output.status.success then return
    else throw (.commandFailed command.line output.status)

def restartArgs (component : Component) : List String :=
  ["delete", "pod", "-n=" ++ component.kubeNamespace, restartedPod]

def rolloutArgs (component : Component) (timeout : Nat) : List String :=
  ["rollout", "status", "statefulset/" ++ component.statefulSet,
    "-n=" ++ component.kubeNamespace, s!"--timeout={Duration.wholeSecs timeout}s"]

/-- The deployer whose charts are in a directory. -/
def deployer (root : String) : Deployer network where
  install component release := execute root "helm" (release.helmArgs "install" component)
  upgrade component release := execute root "helm" (release.helmArgs "upgrade" component)
  restart component := execute root "kubectl" (restartArgs component)
  waitForRollout component timeout := execute root "kubectl" (rolloutArgs component timeout)

def updateDependencies (root chart : String) : Attempt network UpgradeError Unit :=
  execute root "helm" ["dependency", "update", "charts/" ++ chart]

end Helm

end UpgradeDrill
