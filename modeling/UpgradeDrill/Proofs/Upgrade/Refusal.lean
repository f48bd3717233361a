import UpgradeDrill.Proofs.Upgrade.Capture

/-!
# Resuming with another activation height

A stalled node is resumed with a release that has to be scheduled for the height at which the node
stalled. A release for another height is refused, but only after the node has been staged with it: a
release that is not scheduled at all is refused before anything happens, and any other one has been
deployed by then (`refused_resume`, `refused_after_upgrade`).
-/

namespace UpgradeDrill

namespace Lifecycle

open Attempt

/-- Nothing is ordered of the deployer. -/
def Undisturbed (es : List (Exchange demands)) : Prop := ∀ e ∈ es, ∀ told, e.request ≠ .order told

section Demanding

variable {name other : String} {component : Component} {release : Release} {stalled : Stalled}
  {registry : Registry} {now finish : Nat} {es : List (Exchange demands)}

/-- A node that is staged leaves its deployer alone exactly if its release is not scheduled. -/
lemma Captures.undisturbed_iff {outcome : Except UpgradeError Staged}
    (captures : Captures component release now es outcome) :
    Undisturbed es ↔ release.activationHeight = none := by
  constructor
  · intro undisturbed
    by_contra scheduled
    obtain ⟨_, _, _, _, restarts, rfl, _⟩ := captures.scheduled scheduled
    exact undisturbed _ (.tail _ List.mem_cons_self) _ rfl
  · intro unscheduled
    rw [(captures.unscheduled unscheduled).1]
    exact List.forall_mem_nil _

/-- A node whose release is for another height is staged, and that is all. -/
lemma stages_of_resumeAfterStall {outcome : Except UpgradeError Activated}
    (differs : release.activationHeight ≠ some stalled.activationHeight)
    (path : (resumeAfterStall (Role.upgraded.demanding name) Order.demanding component release
      stalled (Role.reference.demanding other) registry).Yields now es outcome finish) :
    ∃ staging, Stages component release now es staging ∧
      outcome = staging.bind fun staged => .error (.activationHeightMismatch component.name
        stalled.activationHeight staged.activationHeight) := by
  rcases path.bind_cases with ⟨error, rfl, failed⟩ | ⟨_, _, staged, _, rfl, stages, path⟩
  · exact ⟨_, stages_of_stage failed, rfl⟩
  · dsimp only at path
    split at path
    · rename_i same
      exact absurd (same ▸ activationHeight_of_stage stages) differs
    · obtain ⟨rfl, rfl, rfl⟩ := yields_throw_iff.1 path
      rw [List.append_nil]
      exact ⟨_, stages_of_stage stages, rfl⟩

end Demanding

/-- A resume with a release for another height than that of the stall fails, whatever the node, the
reference and the deployer answer. All that it demands is what staging the node demands, so it
leaves the deployer alone exactly if the release is not scheduled for any height. Otherwise it asks
the node for its height, upgrades it, and restarts it as staging does. -/
theorem refused_resume {I : Interface} {σ : Type} (parties : Parties I) (world : World I σ)
    (component : Component) (release : Release) (stalled : Stalled) (registry : Registry)
    (differs : release.activationHeight ≠ some stalled.activationHeight) {now finish : Nat}
    {state last : σ} {outcome : Except UpgradeError Activated}
    (ends : (resumeAfterStall parties.node parties.deployer component release stalled
      parties.reference registry).Ends world now state outcome finish last) :
    let trace := (Step.resuming component release stalled registry).trace parties world now state
    (∃ error, outcome = .error error) ∧
      (Undisturbed trace ↔ release.activationHeight = none) ∧
      ∃ staging, Captures component release now trace staging ∧
        outcome = staging.bind fun staged => .error (.activationHeightMismatch component.name
          stalled.activationHeight staged.activationHeight) := by
  intro trace
  have path := (Step.resuming component release stalled registry).yields_trace ends
  obtain ⟨staging, stages, rfl⟩ := stages_of_resumeAfterStall differs path
  refine ⟨?_, stages.captures.undisturbed_iff, staging, stages.captures, rfl⟩
  cases staging with
  | ok staged => exact ⟨_, rfl⟩
  | error error => exact ⟨error, rfl⟩

/-- A node that stalled at height 61 and cannot tell its height is given a release for height 60,
and the refusal comes at four seconds. -/
theorem refused_resume_sample :
    let resuming := Step.resuming Sample.upgraded Sample.scheduling ⟨61, none⟩ Sample.upgrades
    let trace := resuming.trace Sample.parties (Sample.climbing (Duration.ofSecs 3)) 0 ()
    let outcome : Except UpgradeError Activated :=
      .error (.activationHeightMismatch "node2" 61 60)
    Sample.scheduling.activationHeight ≠ some 61 ∧
      (resumeAfterStall Sample.parties.node Sample.parties.deployer Sample.upgraded
        Sample.scheduling ⟨61, none⟩ Sample.parties.reference Sample.upgrades).Ends
        (Sample.climbing (Duration.ofSecs 3)) 0 () outcome (Duration.ofSecs 4) () ∧
      (Undisturbed trace ↔ Sample.scheduling.activationHeight = none) ∧
      ∃ staging, Captures Sample.upgraded Sample.scheduling 0 trace staging ∧
        outcome = staging.bind fun staged =>
          .error (.activationHeightMismatch "node2" 61 staged.activationHeight) := by
  intro resuming trace outcome
  have differs : Sample.scheduling.activationHeight ≠ some 61 := by decide
  have ends : (resumeAfterStall Sample.parties.node Sample.parties.deployer Sample.upgraded
      Sample.scheduling ⟨61, none⟩ Sample.parties.reference Sample.upgrades).Ends
      (Sample.climbing (Duration.ofSecs 3)) 0 () outcome (Duration.ofSecs 4) () := rfl
  exact ⟨differs, ends, (refused_resume _ _ _ _ _ _ differs ends).2⟩

/-- That node has been upgraded with the release and restarted by then. -/
theorem refused_after_upgrade :
    let resuming := Step.resuming Sample.upgraded Sample.scheduling ⟨61, none⟩ Sample.upgrades
    let trace := resuming.trace Sample.parties (Sample.climbing (Duration.ofSecs 3)) 0 ()
    Sample.scheduling.activationHeight ≠ some 61 ∧
      trace.map (·.request) =
        [.query .upgraded .tryLastBlockHeight,
          .order (.upgrade Sample.upgraded Sample.scheduling),
          .order (.restart Sample.upgraded)] ∧
      ¬ Undisturbed trace := by
  intro resuming trace
  have told : trace.map (·.request) =
      [.query .upgraded .tryLastBlockHeight, .order (.upgrade Sample.upgraded Sample.scheduling),
        .order (.restart Sample.upgraded)] := rfl
  refine ⟨by decide, told, fun undisturbed => ?_⟩
  have mem : Demand.order (.restart Sample.upgraded) ∈ trace.map (·.request) := by
    rw [told]
    exact .tail _ (.tail _ List.mem_cons_self)
  obtain ⟨e, listed, eq⟩ := List.mem_map.1 mem
  exact undisturbed e listed _ eq

end Lifecycle

end UpgradeDrill
