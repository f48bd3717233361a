import UpgradeDrill.Drill.Deployment
import UpgradeDrill.Proofs.Node.Reports
import UpgradeDrill.Proofs.Routine.History
import UpgradeDrill.Upgrade.Lifecycle

/-!
# Commands of a deployment

Which commands the deployer runs, one in each of its operations, and in which order staging a node
runs them: its height is captured first, then the upgrade is deployed, and only a node that could
not tell its height is restarted.
-/

namespace UpgradeDrill

open Attempt Query Routine

namespace Exchange

variable (command : Command) (e : Exchange network)

/-- The command is run. -/
def Runs : Prop := e.request = .execute command

/-- The command is run and ends well. -/
def Succeeds : Prop :=
  ∃ time output took, e = ⟨time, .execute command, .ok output, took⟩ ∧ output.status.success = true

lemma Succeeds.runs {command : Command} {e : Exchange network} (succeeds : e.Succeeds command) :
    e.Runs command := by
  obtain ⟨_, _, _, rfl, _⟩ := succeeds
  rfl

end Exchange

namespace Config

variable (config : Config)

/-- Fetches what a chart depends on. -/
def fetch (chart : String) : Command :=
  ⟨"helm", ["dependency", "update", "charts/" ++ chart], some config.chartRoot⟩

/-- Deploys a release, by `install` or `upgrade`. -/
def deployment (subcommand : String) (component : Component) (release : Release) : Command :=
  ⟨"helm", release.helmArgs subcommand component, some config.chartRoot⟩

/-- Restarts a component. -/
def restart (component : Component) : Command :=
  ⟨"kubectl", Helm.restartArgs component, some config.chartRoot⟩

/-- Waits for a component to be ready. -/
def rollout (component : Component) (timeout : Nat) : Command :=
  ⟨"kubectl", Helm.rolloutArgs component timeout, some config.chartRoot⟩

end Config

namespace Helm

/-- What the end of a command means. -/
def ofReply (command : Command) : Except SystemError CommandOutput → Except UpgradeError Unit
  | .error cause => .error (.io cause)
  | .ok output =>
    if output.status.success then .ok () else .error (.commandFailed command.line output.status)

lemma execute_eq (root program : String) (arguments : List String) :
    execute root program arguments = (do
      let reply ← Attempt.request (I := network) (.execute ⟨program, arguments, some root⟩)
      Attempt.ofExcept (ofReply ⟨program, arguments, some root⟩ reply)) := by
  refine bind_congr fun reply => ?_
  unfold ofReply
  cases reply with
  | error cause => rfl
  | ok output =>
    dsimp only
    split
    · rfl
    · rfl

/-- Running a command makes one exchange. -/
lemma makes_execute (root program : String) (arguments : List String) :
    (execute root program arguments).Makes (·.Runs ⟨program, arguments, some root⟩)
      fun _ e => e.Succeeds ⟨program, arguments, some root⟩ := by
  intro now es rest finish path
  rw [execute_eq] at path
  rcases reaches_understand path with ⟨rfl, under⟩ | ⟨reply, took, rfl, ended⟩
  · exact .inl ⟨rfl, under⟩
  · refine .inr ⟨_, rfl, rfl, rfl, fun _ eq => ?_⟩
    obtain ⟨eq, rfl⟩ := ended _ eq
    refine ⟨?_, rfl⟩
    cases reply with
    | error cause => cases eq
    | ok output =>
      unfold ofReply at eq
      dsimp only at eq
      split at eq
      · rename_i success
        exact ⟨now, output, took, rfl, success⟩
      · cases eq

end Helm

/-- Asking for a height once makes one exchange, which tells the height if the outcome does. -/
lemma Sequencer.makes_tryLastBlockHeight {ε : Type} (participant : Participant) :
    (Attempt.outcome (node participant).tryLastBlockHeight : Attempt network ε _).Makes
      participant.AskedForHeight
      fun outcome e => ∀ height, participant.ReportsHeight height e ↔ outcome = .ok height := by
  intro now es rest finish path
  obtain ⟨left, path, ended⟩ := reaches_map_cases path
  rw [tryLastBlockHeight_eq] at path
  rcases reaches_understand path with ⟨rfl, under⟩ | ⟨reply, took, rfl, told⟩
  · refine .inl ⟨rfl, fun outcome eq => ?_⟩
    obtain ⟨result, rfl, _⟩ := ended _ eq
    exact under result rfl
  · refine .inr ⟨_, rfl, rfl, rfl, fun outcome eq => ?_⟩
    obtain ⟨result, rfl, same⟩ := ended _ eq
    obtain ⟨rfl, rfl⟩ := told _ rfl
    cases same
    exact ⟨fun height => reportsHeight_iff, rfl⟩

section Stage

variable {config : Config} {component : Component} {participant : Participant} {release : Release}
  {height : Nat} {rule : Rule network} {P : State network}

/-- The states of a node that is being staged: its height has been asked for, and then the release
was deployed. -/
def Captured (participant : Participant) (P : State network) : State network :=
  fun history now => ∃ earlier c, history = earlier ++ [c] ∧ P earlier c.time ∧
    participant.AskedForHeight c ∧ c.arrival = now

def Upgraded (config : Config) (component : Component) (release : Release)
    (participant : Participant) (P : State network) : State network :=
  fun history now => ∃ captured u, history = captured ++ [u] ∧
    Captured participant P captured u.time ∧
    u.Succeeds (config.deployment "upgrade" component release) ∧ u.arrival = now

/-- Staging a node asks for its height, then deploys the release, and may restart the node then. -/
lemma Lifecycle.ensures_stage (scheduled : release.activationHeight = some height)
    (capture : ∀ history e, P history e.time → participant.AskedForHeight e → rule history e)
    (upgrade : ∀ history e, Captured participant P history e.time →
      e.Runs (config.deployment "upgrade" component release) → rule history e)
    (restart : ∀ history e, Upgraded config component release participant P history e.time →
      e.Runs (config.restart component) → rule history e) :
    Ensures rule P (stage (Sequencer.node participant) config.deployer component release)
      fun staged history now => staged.activationHeight = height ∧
        ∃ upgraded time restarts, history = upgraded ++ restarts ∧ time ≤ now ∧
          Upgraded config component release participant P upgraded time ∧
          ∀ e ∈ restarts, e.Runs (config.restart component) := by
  unfold stage
  rw [scheduled]
  refine (Ensures.of_makes (Sequencer.makes_tryLastBlockHeight participant) capture).bind
    fun captured => ?_
  have deploy := Ensures.of_makes (Helm.makes_execute config.chartRoot "helm"
    (release.helmArgs "upgrade" component)) upgrade
  refine (deploy.mono ?_ fun _ _ _ => id).bind fun _ => ?_
  · rintro history now ⟨earlier, c, rfl, pre, asked, _, arrival⟩
    exact ⟨earlier, c, rfl, pre, asked, arrival⟩
  cases captured with
  | ok latest =>
    refine Ensures.pure ?_
    rintro history now ⟨captured, u, rfl, before, _, succeeds, arrival⟩
    exact ⟨rfl, captured ++ [u], now, [], (List.append_nil _).symm, Nat.le_refl _,
      ⟨captured, u, rfl, before, succeeds, arrival⟩, nofun⟩
  | error error =>
    have again := Ensures.of_makes (Helm.makes_execute config.chartRoot "kubectl"
      (Helm.restartArgs component)) restart
    refine (again.mono ?_ fun _ _ _ => id).bind fun _ => Ensures.pure ?_
    · rintro history now ⟨captured, u, rfl, before, _, succeeds, arrival⟩
      exact ⟨captured, u, rfl, before, succeeds, arrival⟩
    · rintro history now ⟨upgraded, d, rfl, before, runs, _, arrival⟩
      refine ⟨rfl, upgraded, d.time, [d], rfl, ?_, before, ?_⟩
      · rw [← arrival]
        exact d.time_le_arrival
      · intro e mem
        rw [List.mem_singleton.1 mem]
        exact runs

end Stage

end UpgradeDrill
