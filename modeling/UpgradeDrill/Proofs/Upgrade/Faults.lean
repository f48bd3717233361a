import Mathlib.Data.List.Duplicate
import UpgradeDrill.Proofs.Routine.Pool
import UpgradeDrill.Proofs.Upgrade.Registry
import UpgradeDrill.Upgrade.Aspen
import UpgradeDrill.Upgrade.Cohort
import UpgradeDrill.Upgrade.Lifecycle

/-!
# Faulty upgrades

Two errors of an upgrade are in the upgrade itself: it has a name for which there are no checks, or
one of its changes is claimed twice. All that is done with the nodes of an upgrade is innocent: it
fails only with technical errors, or with what nodes report. A group is refused exactly if it
repeats a change (`Registry.repeated_of_ofGroups` and `Registry.of_ofGroups_single`).
-/

namespace UpgradeDrill

open Attempt

/-- The error is in an upgrade, whatever its nodes report. -/
def UpgradeError.BlamesUpgrade : UpgradeError → Prop
  | unknownUpgrade _ | ambiguousChange .. => True
  | _ => False

/-- A query or a command has failed, or a height cannot be told. -/
def UpgradeError.Technical : UpgradeError → Prop
  | query _ | heightOverflow .. | missingActivationHeight | commandFailed .. | io _ => True
  | _ => False

lemma UpgradeError.Technical.innocent {error : UpgradeError} (technical : error.Technical) :
    ¬ error.BlamesUpgrade := by
  cases error with
  | unknownUpgrade | ambiguousChange => exact technical.elim
  | _ => exact id

variable {I : Interface} {α : Type}

/-- An attempt that never blames the upgrade. -/
def Attempt.Innocent (attempt : Attempt I UpgradeError α) : Prop :=
  attempt.Fails fun error => ¬ error.BlamesUpgrade

/-- An attempt that has technical errors only. -/
def Attempt.Technical (attempt : Attempt I UpgradeError α) : Prop :=
  attempt.Fails UpgradeError.Technical

namespace Attempt

lemma Technical.innocent {attempt : Attempt I UpgradeError α} (technical : attempt.Technical) :
    attempt.Innocent :=
  technical.mono fun _ technical => technical.innocent

lemma technical_query (attempt : Attempt I QueryError α) :
    (attempt.widen UpgradeError.query).Technical :=
  fails_widen fun _ => trivial

lemma innocent_query (attempt : Attempt I QueryError α) :
    (attempt.widen UpgradeError.query).Innocent :=
  (technical_query attempt).innocent

end Attempt

namespace Registry

/-- A change that is claimed a second time has been claimed before. -/
lemma claimed_of_secondClaim? {owners claims : List (String × String)}
    {change owner claimant : String}
    (found : secondClaim? owners claims = some (change, owner, claimant)) :
    ∃ before after, claims = before ++ (change, claimant) :: after ∧
      (change, owner) ∈ before ++ owners := by
  induction claims generalizing owners with
  | nil => cases found
  | cons claim rest ih =>
    obtain ⟨name, other⟩ := claim
    rw [secondClaim?] at found
    split at found
    · rename_i claimed
      cases found
      exact ⟨[], rest, rfl, mem_of_lookup claimed⟩
    · obtain ⟨before, after, rfl, mem⟩ := ih found
      exact ⟨(name, other) :: before, after, rfl, List.perm_middle.mem_iff.1 mem⟩

/-- A group is refused for a change that it claims twice. -/
lemma repeated_of_ofGroups {group : UpgradeGroup} {error : UpgradeError}
    (refused : ofGroups [group] = .error error) :
    ∃ change, List.Duplicate change group.changes ∧
      error = .ambiguousChange change group.name group.name := by
  unfold ofGroups at refused
  split at refused
  · rename_i change first second found
    cases refused
    obtain ⟨before, after, eq, mem⟩ := claimed_of_secondClaim? found
    rw [claims, List.flatMap_singleton] at eq
    obtain ⟨early, late, split, rfl, others⟩ := List.map_eq_append_iff.1 eq
    obtain ⟨_, rest, rfl, same, rfl⟩ := List.map_eq_cons_iff.1 others
    cases same
    rw [List.append_nil] at mem
    obtain ⟨_, earlier, same⟩ := List.mem_map.1 mem
    cases same
    refine ⟨change, List.duplicate_iff_sublist.2 ?_, rfl⟩
    rw [split]
    exact (List.singleton_sublist.2 earlier).append (List.singleton_sublist.2 List.mem_cons_self)
  · cases refused

lemma innocent_checkChange {registry : Registry} {info : ChangeInfo} {error : UpgradeError}
    (refused : registry.checkChange info = .error error) : ¬ error.BlamesUpgrade := by
  unfold checkChange at refused
  split at refused
  · cases refused
    exact id
  · split at refused
    · cases refused
    · cases refused
      exact id

lemma innocent_checkChanges (registry : Registry) (infos : List ChangeInfo)
    (version : Option Nat) :
    (Attempt.ofExcept (registry.checkChanges infos version) :
      Attempt I UpgradeError Unit).Innocent := by
  refine fails_ofExcept fun error refused => ?_
  unfold checkChanges at refused
  split at refused
  · cases refused
    exact id
  · cases known : infos.forM registry.checkChange with
    | error first =>
      rw [known] at refused
      cases refused
      obtain ⟨info, _, refused⟩ := Except.of_forM_error known
      exact innocent_checkChange refused
    | ok =>
      rw [known] at refused
      cases version with
      | none => cases refused
      | some expected =>
        dsimp only [bind, Except.bind] at refused
        split at refused
        · cases refused
        · cases refused
          exact id

end Registry

/-- A deployer that has technical errors only. -/
structure Deployer.Technical (deployer : Deployer I) : Prop where
  install : ∀ component release, (deployer.install component release).Technical
  upgrade : ∀ component release, (deployer.upgrade component release).Technical
  restart : ∀ component, (deployer.restart component).Technical
  waitForRollout : ∀ component timeout, (deployer.waitForRollout component timeout).Technical

namespace Helm

lemma technical_execute (root program : String) (arguments : List String) :
    (execute root program arguments).Technical := by
  refine fails_request.bind fun reply => ?_
  cases reply with
  | error cause => exact fails_throw trivial
  | ok output =>
    dsimp only
    split
    · exact fails_pure
    · exact fails_throw trivial

lemma technical_deployer (root : String) : (deployer root).Technical where
  install _ _ := technical_execute ..
  upgrade _ _ := technical_execute ..
  restart _ := technical_execute ..
  waitForRollout _ _ := technical_execute ..

end Helm

namespace Lifecycle

variable (node reference : Node I)

lemma technical_heightAfter (height blocks : Nat) :
    (Attempt.ofExcept (heightAfter height blocks) : Attempt I UpgradeError Nat).Technical := by
  refine fails_ofExcept fun error refused => ?_
  unfold heightAfter at refused
  split at refused
  · cases refused
  · cases refused
    trivial

lemma innocent_checkScheduled (registry : Registry) : (checkScheduled node registry).Innocent := by
  refine (innocent_query _).bind fun info => ?_
  split
  · exact registry.innocent_checkChanges _ _
  · exact fails_throw id

lemma innocent_awaitRestart (staged : Staged) (registry : Registry) :
    (awaitRestart node staged registry).Innocent := by
  unfold awaitRestart
  split
  · refine (technical_heightAfter _ _).innocent.bind fun target => ?_
    refine (innocent_query _).bind fun _ => (innocent_query _).bind fun latest => ?_
    dsimp only
    split
    · exact (innocent_checkScheduled node registry).bind fun _ => fails_pure
    · exact fails_pure
  · exact fails_pure

lemma innocent_detectStall (activationHeight : Nat) :
    (detectStall node activationHeight).Innocent := by
  refine fails_outcome.bind fun outcome => ?_
  cases outcome with
  | ok height =>
    dsimp only
    split
    · exact fails_throw id
    · exact fails_pure
  | error error => exact fails_pure

section Deployed

variable {deployer : Deployer I} (technical : deployer.Technical)
include technical

lemma technical_stage (component : Component) (release : Release) :
    (stage node deployer component release).Technical := by
  unfold stage
  split
  · exact fails_throw trivial
  · refine fails_outcome.bind fun captured => (technical.upgrade _ _).bind fun _ => ?_
    cases captured with
    | ok height => exact fails_pure
    | error error => exact (technical.restart _).bind fun _ => fails_pure

lemma innocent_awaitActivation (component : Component) (staged : Staged) (registry : Registry) :
    (awaitActivation node deployer component staged registry).Innocent :=
  (technical.waitForRollout _ _).innocent.bind fun _ =>
    (innocent_awaitRestart node staged registry).bind fun _ =>
      (innocent_query _).bind fun _ => fails_pure

lemma innocent_resumeAfterStall (component : Component) (release : Release) (stalled : Stalled)
    (registry : Registry) :
    (resumeAfterStall node deployer component release stalled reference registry).Innocent := by
  refine (technical_stage node technical component release).innocent.bind fun staged => ?_
  split
  · refine (innocent_awaitActivation node technical component staged registry).bind fun _ => ?_
    exact (innocent_query _).bind fun target => (innocent_query _).bind fun _ => fails_pure
  · exact fails_throw id

end Deployed

end Lifecycle

section Cohort

variable [DecidableEq α] (cohort : List (Node I))

lemma CohortState.innocent_agreed (inspect : α → String) (what : String) (state : CohortState α) :
    (Attempt.ofExcept (state.agreed inspect what) : Attempt I UpgradeError α).Innocent := by
  refine fails_ofExcept fun error refused => ?_
  unfold agreed at refused
  split at refused
  · cases refused
  · cases refused
    exact id

lemma Cohort.innocent_observe (ask : Node I → Attempt I QueryError α) :
    (observe cohort ask).Innocent := by
  refine (innocent_query _).bind fun values => ?_
  split
  · exact fails_pure
  · exact fails_throw id

lemma Cohort.innocent_ensureConsistent (inspect : α → String) (what : String)
    (ask : Node I → Attempt I QueryError α) :
    (ensureConsistent inspect what cohort ask).Innocent :=
  (innocent_observe cohort ask).bind fun state => state.innocent_agreed inspect what

end Cohort

namespace Aspen

variable (node : Node I) (cohort : List (Node I))

lemma innocent_checkEnableHeight (expected : Nat) : (checkEnableHeight node expected).Innocent := by
  refine (innocent_query _).bind fun actual => ?_
  split
  · exact fails_pure
  · exact fails_throw id

lemma innocent_checkCommitInfo (height : Nat) (expected : Bool) :
    (checkCommitInfo node height expected).Innocent := by
  refine (innocent_query _).bind fun block => ?_
  dsimp only
  split
  · exact fails_pure
  · exact fails_throw id

lemma innocent_assertBefore : (assertBefore cohort).Innocent := by
  refine (fails_joinAll fun attempt mem => ?_).bind fun _ => fails_pure
  obtain ⟨node, _, rfl⟩ := List.mem_map.1 mem
  exact (innocent_checkEnableHeight node 0).bind fun _ =>
    (innocent_query _).bind fun _ => innocent_checkCommitInfo node _ _

lemma innocent_assertAfter (activationHeight : Nat) :
    (assertAfter cohort activationHeight).Innocent := by
  refine (Lifecycle.technical_heightAfter _ _).innocent.bind fun enableHeight => ?_
  refine (fails_joinAll fun attempt mem => ?_).bind fun _ => fails_pure
  obtain ⟨node, _, rfl⟩ := List.mem_map.1 mem
  refine (innocent_checkEnableHeight node enableHeight).bind fun _ => ?_
  exact (innocent_checkCommitInfo node _ _).bind fun _ =>
    (innocent_query _).bind fun _ => innocent_checkCommitInfo node _ _

end Aspen

end UpgradeDrill
