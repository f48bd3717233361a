import UpgradeDrill.Proofs.Drill.Kinds
import UpgradeDrill.Proofs.Drill.Launch

/-!
# Commands about one component

What is deployed to a component is a release of `helm`, the stateful set that runs it and the first
pod of that set, all in the namespace of the component. An operation of the deployer runs one
command, which names one of these. It is one of the component's own, and no other component has it,
but for a restart of the rollup: pods of sequencers are all that is ever deleted, so this names that
of the validator in the same namespace (`operations_isolated`).
-/

namespace UpgradeDrill

/-- Something that is deployed in a namespace. -/
inductive Workload where
  | release (name : String)
  | statefulSet (name : String)
  | pod (name : String)
  deriving DecidableEq, Repr

/-- A command names what it is about: a command of `helm` a release, one of `kubectl` a pod or a
stateful set, each in a namespace. -/
def Command.Names (command : Command) (kubeNamespace : String) : Workload → Prop
  | .release name =>
    command.program = "helm" ∧ ∃ subcommand rest,
      command.arguments = subcommand :: ("-n=" ++ kubeNamespace) :: name :: rest
  | .pod name =>
    command.program = "kubectl" ∧
      command.arguments = ["delete", "pod", "-n=" ++ kubeNamespace, name]
  | .statefulSet name =>
    command.program = "kubectl" ∧ ∃ timeout, command.arguments =
      ["rollout", "status", "statefulset/" ++ name, "-n=" ++ kubeNamespace, timeout]

namespace Component

/-- The first pod of the stateful set that runs a component. -/
def pod (component : Component) : String := component.statefulSet ++ "-0"

/-- What belongs to a component: its release, its stateful set and the pod of that, in its own
namespace. -/
def Owns (component : Component) (kubeNamespace : String) : Workload → Prop
  | .release name => kubeNamespace = component.kubeNamespace ∧ name = component.releaseName
  | .statefulSet name => kubeNamespace = component.kubeNamespace ∧ name = component.statefulSet
  | .pod name => kubeNamespace = component.kubeNamespace ∧ name = component.pod

def validator (name : String) : Component := ofParticipant (.validator name)

/-- The components of a network: the rollup and validators of any names. -/
inductive Deployed : Component → Prop where
  | rollup : Deployed .rollup
  | validator {name} : Deployed (.validator name)

end Component

/-- What a deployer does with a component. -/
inductive Operation where
  | install (release : Release)
  | upgrade (release : Release)
  | restart
  | waitForRollout (timeout : Nat)

namespace Operation

def perform {I : Interface} (deployer : Deployer I) (component : Component) :
    Operation → Attempt I UpgradeError Unit
  | install release => deployer.install component release
  | upgrade release => deployer.upgrade component release
  | restart => deployer.restart component
  | waitForRollout timeout => deployer.waitForRollout component timeout

/-- What the command of an operation is about. -/
def subject (component : Component) : Operation → Workload
  | install _ | upgrade _ => .release component.releaseName
  | restart => .pod Helm.restartedPod
  | waitForRollout _ => .statefulSet component.statefulSet

/-- The command that carries out an operation on the charts in a directory. -/
def command (root : String) (component : Component) : Operation → Command
  | install release => ⟨"helm", release.helmArgs "install" component, some root⟩
  | upgrade release => ⟨"helm", release.helmArgs "upgrade" component, some root⟩
  | restart => ⟨"kubectl", Helm.restartArgs component, some root⟩
  | waitForRollout timeout => ⟨"kubectl", Helm.rolloutArgs component timeout, some root⟩

end Operation

open Routine

section Components

variable {component other : Component} {name kubeNamespace : String}

namespace Component

/-- What is configured of a validator besides its name does not count. -/
lemma validator_eq (name : String) :
    validator name = ({ name, address := "" } : ValidatorConfig).component :=
  rfl

lemma eq_primaryNode_of_kubeNamespace
    (same : (validator name).kubeNamespace = Component.rollup.kubeNamespace) :
    name = primaryNode := by
  rw [validator_eq, ValidatorConfig.component_kubeNamespace] at same
  split at same
  · assumption
  · exact absurd same (ValidatorConfig.devNamespace_ne name)

/-- Only the rollup and the primary validator share a namespace. -/
lemma eq_of_kubeNamespace (deployed : component.Deployed) (deployed' : other.Deployed)
    (ne : other ≠ component) (same : component.kubeNamespace = other.kubeNamespace) :
    component = .rollup ∧ other = .validator primaryNode ∨
      component = .validator primaryNode ∧ other = .rollup := by
  cases deployed with
  | rollup =>
    cases deployed' with
    | rollup => exact absurd rfl ne
    | validator =>
      rw [eq_primaryNode_of_kubeNamespace same.symm]
      exact .inl ⟨rfl, rfl⟩
  | validator =>
    cases deployed' with
    | rollup =>
      rw [eq_primaryNode_of_kubeNamespace same]
      exact .inr ⟨rfl, rfl⟩
    | validator =>
      rw [validator_eq, validator_eq] at same
      have names := ValidatorConfig.name_of_kubeNamespace same
      exact absurd (congrArg Component.validator names.symm) ne

end Component

/-- A command names one thing only. -/
lemma Command.Names.unique {command : Command} {kubeNamespace' : String}
    {workload workload' : Workload} (names : command.Names kubeNamespace workload)
    (names' : command.Names kubeNamespace' workload') :
    kubeNamespace' = kubeNamespace ∧ workload' = workload := by
  obtain ⟨program, arguments, directory⟩ := command
  have programs : "helm" ≠ "kubectl" := by decide
  cases workload with
  | release name =>
    obtain ⟨rfl, _, _, rfl⟩ := names
    cases workload' with
    | release name' =>
      obtain ⟨_, _, _, eq⟩ := names'
      simp only [List.cons.injEq, String.append_right_inj] at eq
      obtain ⟨_, rfl, rfl, _⟩ := eq
      exact ⟨rfl, rfl⟩
    | pod => exact absurd names'.1 programs
    | statefulSet => exact absurd names'.1 programs
  | pod name =>
    obtain ⟨rfl, rfl⟩ := names
    cases workload' with
    | release => exact absurd names'.1 programs.symm
    | pod name' =>
      obtain ⟨_, eq⟩ := names'
      simp only [List.cons.injEq, String.append_right_inj] at eq
      obtain ⟨_, _, rfl, rfl, _⟩ := eq
      exact ⟨rfl, rfl⟩
    | statefulSet =>
      obtain ⟨_, _, eq⟩ := names'
      exact absurd (List.cons.inj eq).1 (by decide)
  | statefulSet name =>
    obtain ⟨rfl, _, rfl⟩ := names
    cases workload' with
    | release => exact absurd names'.1 programs.symm
    | pod => exact absurd (List.cons.inj names'.2).1 (by decide)
    | statefulSet name' =>
      obtain ⟨_, _, eq⟩ := names'
      simp only [List.cons.injEq, String.append_right_inj] at eq
      obtain ⟨_, _, rfl, rfl, _⟩ := eq
      exact ⟨rfl, rfl⟩

end Components

namespace Operation

variable {root : String} {component other : Component} {operation : Operation}

lemma names_command (root : String) (component : Component) (operation : Operation) :
    (operation.command root component).Names component.kubeNamespace
      (operation.subject component) := by
  have deploys (subcommand : String) (release : Release) :
      (⟨"helm", release.helmArgs subcommand component, some root⟩ : Command).Names
        component.kubeNamespace (.release component.releaseName) := by
    cases component with
    | sequencer => exact ⟨rfl, _, _, rfl⟩
    | rollup => exact ⟨rfl, _, _, rfl⟩
  cases operation with
  | install release => exact deploys "install" release
  | upgrade release => exact deploys "upgrade" release
  | restart => exact ⟨rfl, rfl⟩
  | waitForRollout timeout => exact ⟨rfl, _, rfl⟩

/-- An operation runs its command, and nothing else. -/
lemma makes_perform (root : String) (component : Component) (operation : Operation) :
    (operation.perform (Helm.deployer root) component).Makes
      (·.Runs (operation.command root component)) fun _ e =>
        e.Succeeds (operation.command root component) := by
  cases operation with
  | install release => exact Helm.makes_execute root "helm" _
  | upgrade release => exact Helm.makes_execute root "helm" _
  | restart => exact Helm.makes_execute root "kubectl" _
  | waitForRollout timeout => exact Helm.makes_execute root "kubectl" _

/-- A restart deletes the first pod of the set that a component runs in, if that is a sequencer. -/
lemma restartedPod_eq_iff (deployed : component.Deployed) :
    Helm.restartedPod = component.pod ↔ component ≠ .rollup := by
  cases deployed with
  | rollup => decide
  | validator => exact ⟨fun _ => nofun, fun _ => rfl⟩

/-- Only a restart of the rollup is about nothing of the component. -/
lemma owns_subject_iff (deployed : component.Deployed) :
    component.Owns component.kubeNamespace (operation.subject component) ↔
      ¬ (operation = .restart ∧ component = .rollup) := by
  cases operation with
  | install => exact ⟨fun _ => nofun, fun _ => ⟨rfl, rfl⟩⟩
  | upgrade => exact ⟨fun _ => nofun, fun _ => ⟨rfl, rfl⟩⟩
  | waitForRollout => exact ⟨fun _ => nofun, fun _ => ⟨rfl, rfl⟩⟩
  | restart =>
    show component.kubeNamespace = component.kubeNamespace ∧ _ ↔ _
    rw [and_iff_right rfl, restartedPod_eq_iff deployed, and_iff_right rfl]

/-- Only a restart of the rollup is about something of another component. -/
lemma owns_subject_of_ne_iff (deployed : component.Deployed) (deployed' : other.Deployed)
    (ne : other ≠ component) :
    other.Owns component.kubeNamespace (operation.subject component) ↔
      operation = .restart ∧ component = .rollup ∧ other = .validator primaryNode := by
  constructor
  · intro owns
    have same : component.kubeNamespace = other.kubeNamespace := by
      cases operation with
      | install => exact owns.1
      | upgrade => exact owns.1
      | restart => exact owns.1
      | waitForRollout => exact owns.1
    -- The two that share a namespace differ in their releases and their sets.
    rcases Component.eq_of_kubeNamespace deployed deployed' ne same with ⟨rfl, rfl⟩ | ⟨rfl, rfl⟩
    · cases operation with
      | install => exact absurd owns.2 (by decide)
      | upgrade => exact absurd owns.2 (by decide)
      | restart => exact ⟨rfl, rfl, rfl⟩
      | waitForRollout => exact absurd owns.2 (by decide)
    · cases operation with
      | install => exact absurd owns.2 (by decide)
      | upgrade => exact absurd owns.2 (by decide)
      | restart => exact absurd owns.2 (by decide)
      | waitForRollout => exact absurd owns.2 (by decide)
  · rintro ⟨rfl, rfl, rfl⟩
    exact ⟨rfl, rfl⟩

/-- What an operation on a component touches. -/
structure Isolated (root : String) (component : Component) (operation : Operation) : Prop where
  /-- One command is run, and nothing else is asked for. -/
  runs : ∀ ⦃now es rest finish⦄,
    Reaches (operation.perform (Helm.deployer root) component).run now es rest finish →
    es = [] ∧ (∀ outcome, rest ≠ done outcome) ∨
      ∃ e, es = [e] ∧ e.Runs (operation.command root component)
  names_iff : ∀ kubeNamespace workload,
    (operation.command root component).Names kubeNamespace workload ↔
      kubeNamespace = component.kubeNamespace ∧ workload = operation.subject component
  own_iff : component.Owns component.kubeNamespace (operation.subject component) ↔
    ¬ (operation = .restart ∧ component = .rollup)
  other_iff : ∀ other : Component, other.Deployed → other ≠ component →
    (other.Owns component.kubeNamespace (operation.subject component) ↔
      operation = .restart ∧ component = .rollup ∧ other = .validator primaryNode)

/-- An operation on a component runs one command, about the release, the stateful set or the pod of
that component and of no other. Only a restart of the rollup deletes the pod of the primary
validator, which is that of the set that is watched afterwards for validators only. -/
theorem operations_isolated (root : String) {component : Component}
    (deployed : component.Deployed) :
    (∀ operation, Isolated root component operation) ∧
      ((∃ name, restart.subject component = .pod (name ++ "-0") ∧
        ∀ timeout, (waitForRollout timeout).subject component = .statefulSet name) ↔
        component ≠ .rollup) := by
  refine ⟨fun operation => ⟨fun now es rest finish path => ?_, fun kubeNamespace workload => ?_,
    owns_subject_iff deployed, fun other => owns_subject_of_ne_iff deployed⟩, ?_⟩
  · rcases makes_perform root component operation path with none | ⟨e, eq, runs, _⟩
    · exact .inl none
    · exact .inr ⟨e, eq, runs⟩
  · constructor
    · exact (names_command root component operation).unique
    · rintro ⟨rfl, rfl⟩
      exact names_command root component operation
  · rw [← restartedPod_eq_iff deployed]
    constructor
    · rintro ⟨name, pod, watched⟩
      cases watched 0
      exact Workload.pod.inj pod
    · exact fun same => ⟨component.statefulSet, congrArg Workload.pod same, fun _ => rfl⟩

/-- The upgrade of a validator touches nothing of the rollup and of other validators. -/
theorem operations_isolated_sample :
    let component := Component.validator "node1"
    component.Deployed ∧ Isolated "." component (.upgrade {}) ∧
      component.Owns "astria-validator-node1" (.release "node1-sequencer-chart") ∧
      ¬ Component.rollup.Owns component.kubeNamespace ((upgrade {}).subject component) ∧
      ¬ (Component.validator "node0").Owns component.kubeNamespace
        ((upgrade {}).subject component) := by
  intro component
  have deployed : component.Deployed := .validator
  obtain ⟨isolated, _⟩ := operations_isolated "." deployed
  have none (other : Component) (deployed : other.Deployed) (ne : other ≠ component) :
      ¬ other.Owns component.kubeNamespace ((upgrade {}).subject component) :=
    fun owns => nomatch (((isolated _).other_iff other deployed ne).1 owns).1
  exact ⟨deployed, isolated _, ⟨by decide, by decide⟩, none _ .rollup nofun,
    none _ .validator (by decide)⟩

/-- A restart of the rollup deletes a pod of the primary validator and none of its own. -/
theorem rollup_restart_deletes_validator :
    let command : Command :=
      ⟨"kubectl", ["delete", "pod", "-n=astria-dev-cluster", "sequencer-0"], some "."⟩
    restart.perform (Helm.deployer ".") .rollup =
        Helm.execute "." command.program command.arguments ∧
      command.Names "astria-dev-cluster" (.pod "sequencer-0") ∧
      (Component.validator "node0").Owns "astria-dev-cluster" (.pod "sequencer-0") ∧
      ¬ Component.rollup.Owns "astria-dev-cluster" (.pod "sequencer-0") :=
  ⟨rfl, ⟨rfl, rfl⟩, ⟨by decide, by decide⟩, fun owns => absurd owns.2 (by decide)⟩

end Operation

end UpgradeDrill
