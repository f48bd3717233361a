import UpgradeDrill.Proofs.Upgrade.Asks
import UpgradeDrill.Proofs.Upgrade.Cohort
import UpgradeDrill.Proofs.Upgrade.Faults

/-!
# The check of a staged node

A staged node is checked once, when it has restarted, and only if it is not close to activation
then. So there are three ways past the check (`Lifecycle.Clears`), and a node that is awaited fails
with an error of the check only if it was asked for its upgrades and told what is refused
(`Lifecycle.refused_of_awaitActivation`).
-/

namespace UpgradeDrill

open Attempt

variable {I : Interface}

/-- The error is one with which the check of a staged node refuses what the node reports. -/
def UpgradeError.FromCheck : UpgradeError → Prop
  | unexpectedAppliedChanges .. | noChangeInfos | unknownChange _ | activationHeightMismatch .. =>
    True
  | _ => False

lemma UpgradeError.Technical.not_fromCheck {error : UpgradeError} (technical : error.Technical) :
    ¬ error.FromCheck := by
  cases error with
  | unexpectedAppliedChanges | noChangeInfos | unknownChange | activationHeightMismatch =>
    exact technical.elim
  | _ => exact id

/-- Nothing is applied yet, and what is scheduled is known. -/
def Registry.checkInfo (registry : Registry) (node : String) (info : UpgradesInfo) :
    Except UpgradeError Unit :=
  if info.applied.isEmpty then registry.checkChanges info.scheduled none
  else .error (.unexpectedAppliedChanges node info.applied.length)

namespace Lifecycle

variable (node : Node I)

lemma checkScheduled_eq (registry : Registry) : checkScheduled node registry = (do
    let info ← node.upgradesInfo.widen .query
    Attempt.ofExcept (registry.checkInfo node.name info)) := by
  refine bind_congr fun info => ?_
  unfold Registry.checkInfo
  split
  · rfl
  · rfl

lemma technical_standing (captured : Nat) : (standing node captured).Technical :=
  (technical_heightAfter _ _).bind fun _ => (technical_query _).bind fun _ => technical_query _

/-- How a staged node gets past its check, from a time and through exchanges. -/
inductive Clears (staged : Staged) (registry : Registry) (now : Nat) :
    List (Exchange I) → (finish : Nat) → Prop where
  /-- The node had stopped when it was staged. -/
  | stopped :
    staged.capturedHeight = none →
    Clears staged registry now [] now
  /-- The node stands too close to activation. -/
  | close {captured latest es finish} :
    staged.capturedHeight = some captured →
    (standing node captured).Yields now es (.ok latest) finish →
    staged.activationHeight - preCheckMargin ≤ latest →
    Clears staged registry now es finish
  | checked {captured latest info es es' time finish} :
    staged.capturedHeight = some captured →
    (standing node captured).Yields now es (.ok latest) time →
    latest < staged.activationHeight - preCheckMargin →
    node.upgradesInfo.Yields time es' (.ok info) finish →
    registry.checkInfo node.name info = .ok () →
    Clears staged registry now (es ++ es') finish

section Check

variable {node} {deployer : Deployer I} {component : Component} {staged : Staged}
  {registry : Registry} {now finish : Nat} {es : List (Exchange I)}

/-- A node is staged for the height at which its release activates. -/
lemma activationHeight_of_stage {release : Release}
    (path : (stage node deployer component release).Yields now es (.ok staged) finish) :
    release.activationHeight = some staged.activationHeight := by
  unfold stage at path
  split at path
  · obtain ⟨_, eq, _⟩ := yields_throw_iff.1 path
    cases eq
  · rename_i known
    obtain ⟨_, _, captured, _, _, _, path⟩ := path.bind_ok
    obtain ⟨_, _, _, _, _, _, path⟩ := path.bind_ok
    cases captured with
    | ok height =>
      obtain ⟨_, eq, _⟩ := yields_pure_iff.1 path
      cases eq
      exact known
    | error error =>
      obtain ⟨_, _, _, _, _, _, path⟩ := path.bind_ok
      obtain ⟨_, eq, _⟩ := yields_pure_iff.1 path
      cases eq
      exact known

lemma clears_of_awaitRestart {restarted : Phase × Nat}
    (path : (awaitRestart node staged registry).Yields now es (.ok restarted) finish) :
    Clears node staged registry now es finish := by
  rw [awaitRestart_eq] at path
  split at path
  · rename_i captured eq
    obtain ⟨_, _, latest, _, rfl, stands, path⟩ := path.bind_ok
    dsimp only at path
    split at path
    · rename_i short
      obtain ⟨_, _, _, _, rfl, check, path⟩ := path.bind_ok
      obtain ⟨rfl, _, rfl⟩ := yields_pure_iff.1 path
      rw [checkScheduled_eq] at check
      obtain ⟨_, _, info, _, rfl, told, decided⟩ := check.bind_ok
      obtain ⟨rfl, accepted, rfl⟩ := yields_ofExcept_iff.1 decided
      rw [List.append_nil, List.append_nil]
      exact .checked eq stands short (yields_widen_ok.1 told) accepted.symm
    · rename_i close
      obtain ⟨rfl, _, rfl⟩ := yields_pure_iff.1 path
      rw [List.append_nil]
      exact .close eq stands (Nat.le_of_not_lt close)
  · rename_i eq
    obtain ⟨rfl, _, rfl⟩ := yields_pure_iff.1 path
    exact .stopped eq

/-- A node that activates has gone past its check, between two waits. -/
lemma clears_of_awaitActivation {activated : Activated}
    (path : (awaitActivation node deployer component staged registry).Yields now es (.ok activated)
      finish) :
    ∃ rollout restart wait ready up timeout poll, es = rollout ++ restart ++ wait ∧
      (deployer.waitForRollout component rolloutTimeout).Yields now rollout (.ok ()) ready ∧
      Clears node staged registry ready restart up ∧
      (node.waitUntilHeight staged.activationHeight timeout).Yields up wait (.ok poll) finish := by
  obtain ⟨rollout, _, _, ready, rfl, rolled, path⟩ := path.bind_ok
  obtain ⟨restart, _, ⟨source, timeout⟩, up, rfl, restarts, path⟩ := path.bind_ok
  obtain ⟨wait, _, poll, _, rfl, waited, path⟩ := path.bind_ok
  obtain ⟨rfl, _, rfl⟩ := yields_pure_iff.1 path
  refine ⟨rollout, restart, wait, ready, up, timeout, poll, ?_, rolled,
    clears_of_awaitRestart restarts, yields_widen_ok.1 waited⟩
  rw [List.append_nil, List.append_assoc]

variable {error : UpgradeError} (check : error.FromCheck)
include check

lemma refused_of_awaitRestart
    (path : (awaitRestart node staged registry).Yields now es (.error error) finish) :
    ∃ info, node.upgradesInfo.Gave es info ∧ registry.checkInfo node.name info = .error error := by
  rw [awaitRestart_eq] at path
  split at path
  · rcases path.bind_cases with ⟨_, eq, failed⟩ | ⟨first, _, latest, _, rfl, _, path⟩
    · cases eq
      exact absurd check (technical_standing node _ failed).not_fromCheck
    dsimp only at path
    split at path
    · rcases path.bind_cases with ⟨_, eq, failed⟩ | ⟨_, _, _, _, _, _, path⟩
      · cases eq
        rw [checkScheduled_eq] at failed
        rcases failed.bind_cases with ⟨_, eq, failed⟩ | ⟨own, _, info, _, rfl, told, decided⟩
        · cases eq
          exact absurd check (technical_query _ failed).not_fromCheck
        · obtain ⟨rfl, refused, _⟩ := yields_ofExcept_iff.1 decided
          refine ⟨info, ⟨_, own, _, fun e mem => ?_, yields_widen_ok.1 told⟩, refused.symm⟩
          rw [List.append_nil]
          exact List.mem_append_right _ mem
      · obtain ⟨_, eq, _⟩ := yields_pure_iff.1 path
        cases eq
    · obtain ⟨_, eq, _⟩ := yields_pure_iff.1 path
      cases eq
  · obtain ⟨_, eq, _⟩ := yields_pure_iff.1 path
    cases eq

/-- A node that is awaited fails with an error of the check only for what it reports. -/
theorem refused_of_awaitActivation (technical : deployer.Technical)
    (path : (awaitActivation node deployer component staged registry).Yields now es (.error error)
      finish) :
    ∃ info, node.upgradesInfo.Gave es info ∧ registry.checkInfo node.name info = .error error := by
  rcases path.bind_cases with ⟨_, eq, failed⟩ | ⟨_, _, _, _, rfl, _, path⟩
  · cases eq
    exact absurd check (technical.waitForRollout _ _ failed).not_fromCheck
  rcases path.bind_cases with ⟨_, eq, failed⟩ | ⟨_, _, _, _, _, _, path⟩
  · cases eq
    obtain ⟨info, ⟨start, own, time, subset, told⟩, refused⟩ := refused_of_awaitRestart check failed
    exact ⟨info, ⟨start, own, time, List.subset_append_of_subset_right _ subset, told⟩, refused⟩
  · rcases path.bind_cases with ⟨_, eq, failed⟩ | ⟨_, _, _, _, _, _, path⟩
    · cases eq
      exact absurd check (technical_query _ failed).not_fromCheck
    · obtain ⟨_, eq, _⟩ := yields_pure_iff.1 path
      cases eq

end Check

end Lifecycle

end UpgradeDrill
