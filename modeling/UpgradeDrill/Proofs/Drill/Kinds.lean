import UpgradeDrill.Proofs.Drill.Commands
import UpgradeDrill.Proofs.Drill.Queries

/-!
# Kinds of commands

What installs, upgrades or restarts which component. Commands are told apart by the names and
namespaces of what they are about, which differ between validators.
-/

namespace UpgradeDrill

/-- The name under which `helm` keeps what is deployed to a component. -/
def Component.releaseName : Component → String
  | sequencer name _ => name ++ "-sequencer-chart"
  | rollup => "astria-chain-chart"

namespace Command

/-- Whether a command is one of `helm`, such as `install` or `upgrade`. -/
def isHelm (subcommand : String) (command : Command) : Bool :=
  command.program == "helm" && command.arguments.head? == some subcommand

/-- Whether a command of `helm` is about what is deployed to a component. -/
def deploys (subcommand : String) (component : Component) (command : Command) : Bool :=
  command.program == "helm" && command.arguments.take 3 ==
    [subcommand, "-n=" ++ component.kubeNamespace, component.releaseName]

/-- Whether a command deletes a pod in the namespace of a component. -/
def deletesPod (component : Component) (command : Command) : Bool :=
  command.program == "kubectl" && command.arguments.take 3 ==
    ["delete", "pod", "-n=" ++ component.kubeNamespace]

end Command

namespace Exchange

/-- Whether an exchange runs a command of a kind. -/
def runsAny (kind : Command → Bool) (e : Exchange network) : Bool :=
  match (e.request : NetworkRequest) with
  | .execute command => kind command
  | _ => false

def installs (component : Component) : Exchange network → Bool :=
  runsAny (Command.deploys "install" component)

def upgrades (component : Component) : Exchange network → Bool :=
  runsAny (Command.deploys "upgrade" component)

def deletesPod (component : Component) : Exchange network → Bool :=
  runsAny (Command.deletesPod component)

/-- Nothing is installed, upgraded or deleted. -/
structure Idle (e : Exchange network) : Prop where
  install : e.runsAny (Command.isHelm "install") = false
  upgrade : e.runsAny (Command.isHelm "upgrade") = false
  deletesPod : ∀ component, e.deletesPod component = false

/-- An exchange runs a command with arguments among which are the given ones. -/
def Carries (arguments : List String) (e : Exchange network) : Prop :=
  ∃ command, e.Runs command ∧ arguments ⊆ command.arguments

variable {kind : Command → Bool} {command : Command} {e : Exchange network}

lemma Runs.runsAny (runs : e.Runs command) : e.runsAny kind = kind command := by
  unfold Exchange.runsAny
  rw [runs]

lemma runsAny_mono {kind' : Command → Bool}
    (wider : ∀ command, kind command = true → kind' command = true)
    (some : e.runsAny kind = true) : e.runsAny kind' = true := by
  unfold Exchange.runsAny at some ⊢
  split at some
  · exact wider _ some
  · cases some

/-- What is quiet runs no program that deploys. -/
lemma runsAny_of_quiet (quiet : NetworkRequest.Quiet e.request)
    (programs : ∀ command, kind command = true →
      command.program = "helm" ∨ command.program = "kubectl") : e.runsAny kind = false := by
  refine Bool.eq_false_iff.2 fun some => ?_
  unfold Exchange.runsAny at some
  split at some
  · rename_i command eq
    have quiet : NetworkRequest.Quiet (.execute command) := eq ▸ quiet
    rcases programs command some with helm | kubectl
    · exact quiet.1 helm
    · exact quiet.2 kubectl
  · cases some

end Exchange

section Identify

variable {config : Config} {component other : Component} {release : Release} {command : Command}
  {subcommand subcommand' : String} {timeout : Nat}

lemma Command.deploys_iff : command.deploys subcommand component = true ↔
    command.program = "helm" ∧ command.arguments.take 3 =
      [subcommand, "-n=" ++ component.kubeNamespace, component.releaseName] := by
  rw [deploys, Bool.and_eq_true, beq_iff_eq, beq_iff_eq]

lemma Command.deletesPod_iff : command.deletesPod component = true ↔
    command.program = "kubectl" ∧ command.arguments.take 3 =
      ["delete", "pod", "-n=" ++ component.kubeNamespace] := by
  rw [deletesPod, Bool.and_eq_true, beq_iff_eq, beq_iff_eq]

lemma Command.program_of_isHelm (helm : command.isHelm subcommand = true) :
    command.program = "helm" :=
  beq_iff_eq.1 (Bool.and_eq_true_iff.1 helm).1

lemma Command.isHelm_of_deploys (deploys : command.deploys subcommand component = true) :
    command.isHelm subcommand = true := by
  obtain ⟨program, arguments⟩ := deploys_iff.1 deploys
  have head : (command.arguments.take 3).head? = some subcommand := by rw [arguments]; rfl
  rw [List.head?_take, if_neg (by decide)] at head
  rw [isHelm, program, head, beq_self_eq_true, beq_self_eq_true]
  rfl

/-- The arguments of a deployment begin with what it is about. -/
lemma Release.take_helmArgs : (release.helmArgs subcommand component).take 3 =
    [subcommand, "-n=" ++ component.kubeNamespace, component.releaseName] := by
  cases component with
  | sequencer => rfl
  | rollup => rfl

lemma Config.isHelm_deployment : (config.deployment subcommand component release).isHelm
    subcommand' = decide (subcommand = subcommand') := by
  show (true && some subcommand == some subcommand') = _
  rw [Bool.true_and, Option.some_beq_some]
  rfl

/-- A deployment is about one component only. -/
lemma Config.deploys_deployment_iff :
    (config.deployment subcommand component release).deploys subcommand' other = true ↔
      subcommand = subcommand' ∧ component.kubeNamespace = other.kubeNamespace ∧
        component.releaseName = other.releaseName := by
  rw [Command.deploys_iff]
  show _ ∧ (release.helmArgs subcommand component).take 3 = _ ↔ _
  rw [Release.take_helmArgs, List.cons.injEq, List.cons.injEq, List.cons.injEq,
    String.append_right_inj]
  exact ⟨fun ⟨_, first, second, third, _⟩ => ⟨first, second, third⟩,
    fun ⟨first, second, third⟩ => ⟨rfl, first, second, third, rfl⟩⟩

lemma Config.deploys_deployment_of_ne (ne : subcommand ≠ subcommand') :
    (config.deployment subcommand component release).deploys subcommand' other = false :=
  Bool.eq_false_iff.2 fun deploys => ne (deploys_deployment_iff.1 deploys).1

lemma Config.deletesPod_deployment :
    (config.deployment subcommand component release).deletesPod other = false := rfl

lemma Config.deletesPod_restart_iff : (config.restart component).deletesPod other = true ↔
    component.kubeNamespace = other.kubeNamespace := by
  rw [Command.deletesPod_iff]
  show _ ∧ ["delete", "pod", "-n=" ++ component.kubeNamespace] = _ ↔ _
  rw [List.cons.injEq, List.cons.injEq, List.cons.injEq, String.append_right_inj]
  exact ⟨fun ⟨_, _, _, same, _⟩ => same, fun same => ⟨rfl, rfl, rfl, same, rfl⟩⟩

lemma Config.deploys_restart : (config.restart component).deploys subcommand other = false := rfl

lemma Config.isHelm_restart : (config.restart component).isHelm subcommand = false := rfl

end Identify

namespace Exchange

variable {config : Config} {component : Component} {e : Exchange network}

lemma isHelm_of_runsAny {subcommand : String}
    (deploys : e.runsAny (Command.deploys subcommand component) = true) :
    e.runsAny (Command.isHelm subcommand) = true :=
  runsAny_mono (fun _ => Command.isHelm_of_deploys) deploys

lemma not_deploys_of_not_isHelm {subcommand : String}
    (none : e.runsAny (Command.isHelm subcommand) = false) :
    e.runsAny (Command.deploys subcommand component) = false :=
  Bool.eq_false_iff.2 fun deploys => Bool.eq_false_iff.1 none (isHelm_of_runsAny deploys)

lemma idle_of_quiet (quiet : NetworkRequest.Quiet e.request) : e.Idle where
  install := runsAny_of_quiet quiet fun _ helm => .inl (Command.program_of_isHelm helm)
  upgrade := runsAny_of_quiet quiet fun _ helm => .inl (Command.program_of_isHelm helm)
  deletesPod _ := runsAny_of_quiet quiet fun _ deletes =>
    .inr (Command.deletesPod_iff.1 deletes).1

lemma idle_of_fetch {chart : String} (runs : e.Runs (config.fetch chart)) : e.Idle where
  install := runs.runsAny
  upgrade := runs.runsAny
  deletesPod _ := runs.runsAny

lemma idle_of_rollout {timeout : Nat} (runs : e.Runs (config.rollout component timeout)) :
    e.Idle where
  install := runs.runsAny
  upgrade := runs.runsAny
  deletesPod other := by
    refine runs.runsAny.trans (Bool.eq_false_iff.2 fun deletes => ?_)
    obtain ⟨_, eq⟩ := Command.deletesPod_iff.1 deletes
    have head : "rollout" = "delete" := (List.cons.inj eq).1
    exact absurd head (by decide)

/-- What is idle deploys nothing to any component. -/
lemma Idle.not_deploys (idle : e.Idle) {subcommand : String}
    (which : subcommand = "install" ∨ subcommand = "upgrade") :
    e.runsAny (Command.deploys subcommand component) = false := by
  rcases which with rfl | rfl
  · exact not_deploys_of_not_isHelm idle.install
  · exact not_deploys_of_not_isHelm idle.upgrade

end Exchange

namespace ValidatorConfig

variable {validator other : ValidatorConfig}

lemma component_releaseName :
    validator.component.releaseName = validator.name ++ "-sequencer-chart" := by
  show validator.participant.name ++ "-sequencer-chart" = _
  rw [participant_name]

lemma component_kubeNamespace : validator.component.kubeNamespace =
    if validator.name = primaryNode then devNamespace
    else "astria-validator-" ++ validator.name := by
  show (Participant.validator validator.name).kubeNamespace = _
  unfold Participant.validator
  split
  · rfl
  · rfl

/-- What is deployed to a validator has a name of its own. -/
lemma name_of_releaseName
    (same : validator.component.releaseName = other.component.releaseName) :
    validator.name = other.name := by
  rw [component_releaseName, component_releaseName, String.append_left_inj] at same
  exact same

lemma releaseName_ne_rollup : validator.component.releaseName ≠ Component.rollup.releaseName := by
  intro same
  have suffix : "-sequencer-chart".toList <:+ "astria-chain-chart".toList := by
    refine ⟨validator.name.toList, ?_⟩
    rw [← String.toList_append, ← component_releaseName, same]
    rfl
  exact absurd suffix (by decide)

lemma devNamespace_ne (name : String) : "astria-validator-" ++ name ≠ devNamespace := by
  intro same
  have start : "astria-validator-".toList <+: devNamespace.toList := by
    refine ⟨name.toList, ?_⟩
    rw [← String.toList_append, same]
  exact absurd start (by decide)

/-- A validator has a namespace of its own. -/
lemma name_of_kubeNamespace
    (same : validator.component.kubeNamespace = other.component.kubeNamespace) :
    validator.name = other.name := by
  rw [component_kubeNamespace, component_kubeNamespace] at same
  -- The namespace of the primary node does not have the form of the others.
  split at same
  · rename_i primary
    split at same
    · rename_i primary'
      rw [primary, primary']
    · exact absurd same.symm (devNamespace_ne _)
  · split at same
    · exact absurd same (devNamespace_ne _)
    · exact String.append_right_inj _ |>.1 same

end ValidatorConfig

end UpgradeDrill
