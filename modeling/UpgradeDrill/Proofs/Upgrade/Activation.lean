import UpgradeDrill.Proofs.Upgrade.Checks
import UpgradeDrill.Proofs.Upgrade.Demands

/-!
# What shows that a node has activated

A node counts as upgraded only if it has told a height that is no less than the activation height.
`Activates` lists the replies that lead there, in their order and with the times by which they are
asked for, and `activation_shown` says that there is no other way.
-/

namespace UpgradeDrill

namespace Lifecycle

open Attempt

/-- A node that stands short of activation tells upgrades none of which is applied, and of which
those that are scheduled are known. One that is close to activation is not asked. -/
def Passes (registry : Registry) (activation latest now : Nat) (es : List (Exchange demands))
    (finish : Nat) : Prop :=
  if latest < activation - 2 then
    ∃ info took, es = [⟨now, .query .upgraded .upgradesInfo, .ok info, took⟩] ∧
      info.applied = [] ∧ info.scheduled ≠ [] ∧ registry.checkChanges info.scheduled none = .ok () ∧
      finish = now + took
  else es = [] ∧ finish = now

/-- How a staged node gets to a height from a time on, through replies to demands. -/
inductive Activates (component : Component) (staged : Staged) (registry : Registry) (now : Nat) :
    List (Exchange demands) → Activated → (finish : Nat) → Prop where
  /-- A node that had stopped is given time for as many blocks as there are before activation. -/
  | stopped {rollout wait height finish} :
    staged.capturedHeight = none →
    Shows staged.activationHeight (Duration.ofSecs 10 * min staged.activationHeight maxUInt32)
      (now + rollout) wait height finish →
    Activates component staged registry now
      (⟨now, .order (.waitForRollout component (Duration.ofSecs 60)), .ok (), rollout⟩ :: wait)
      ⟨.stalled, height⟩ finish
  /-- A node that was running goes on past its captured height, and is given time for the blocks
  that are left when it tells its latest height. -/
  | running {captured rollout restart reached up latest took check begin wait height finish} :
    staged.capturedHeight = some captured →
    Shows (captured + 2) (Duration.ofSecs 60) (now + rollout) restart reached up →
    Passes registry staged.activationHeight latest (up + took) check begin →
    Shows staged.activationHeight
      (max (Duration.ofSecs 10 * min (staged.activationHeight - latest) maxUInt32)
        (Duration.ofSecs 30)) begin wait height finish →
    Activates component staged registry now
      (⟨now, .order (.waitForRollout component (Duration.ofSecs 60)), .ok (), rollout⟩ ::
        (restart ++ ⟨up, .query .upgraded .lastBlockHeight, .ok latest, took⟩ :: (check ++ wait)))
      ⟨.converged, height⟩ finish

section Demanding

variable {name : String} {component : Component} {staged : Staged} {registry : Registry}
  {now finish : Nat} {es : List (Exchange demands)}

/-- A check that succeeds was passed. -/
lemma passes_of_checkScheduled {latest : Nat} (short : latest < staged.activationHeight - 2)
    (path : (checkScheduled (Role.upgraded.demanding name) registry).Yields now es (.ok ())
      finish) : Passes registry staged.activationHeight latest now es finish := by
  rw [checkScheduled_eq] at path
  obtain ⟨_, _, info, _, rfl, told, decided⟩ := path.bind_ok
  obtain ⟨took, rfl, rfl⟩ :=
    (yields_demand_iff (.query .upgraded .upgradesInfo)).1 (yields_widen_ok.1 told)
  obtain ⟨rfl, accepted, rfl⟩ := yields_ofExcept_iff.1 decided
  unfold Registry.checkInfo at accepted
  split at accepted
  · rename_i none
    refine (if_pos short).mpr
      ⟨info, took, rfl, List.isEmpty_iff.1 none, ?_, accepted.symm, rfl⟩
    intro nothing
    rw [nothing] at accepted
    cases accepted
  · cases accepted

/-- A node that has restarted has got past its captured height, and then told where it stands. -/
lemma shows_of_standing {captured latest : Nat}
    (path : (standing (Role.upgraded.demanding name) captured).Yields now es (.ok latest) finish) :
    ∃ restart reached up took, es = restart ++
        [⟨up, .query .upgraded .lastBlockHeight, .ok latest, took⟩] ∧
      Shows (captured + 2) (Duration.ofSecs 60) now restart reached up ∧ finish = up + took := by
  obtain ⟨_, _, target, _, rfl, decided, path⟩ := path.bind_ok
  obtain ⟨rfl, -, rfl⟩ := yields_ofExcept_iff.1 decided
  obtain ⟨rfl, -⟩ := returns_heightAfter decided
  obtain ⟨restart, _, poll, up, rfl, waited, told⟩ := path.bind_ok
  obtain ⟨took, rfl, rfl⟩ :=
    (yields_demand_iff (.query .upgraded .lastBlockHeight)).1 (yields_widen_ok.1 told)
  exact ⟨restart, poll.value, up, took, rfl, shows_of_waitUntilHeight (yields_widen_ok.1 waited),
    rfl⟩

/-- A running node that is awaited restarts, and passes its check. -/
lemma passes_of_awaitRestart {captured : Nat} {restarted : Phase × Nat}
    (known : staged.capturedHeight = some captured)
    (path : (awaitRestart (Role.upgraded.demanding name) staged registry).Yields now es
      (.ok restarted) finish) :
    ∃ restart reached up latest took check,
      es = restart ++ ⟨up, .query .upgraded .lastBlockHeight, .ok latest, took⟩ :: check ∧
        Shows (captured + 2) (Duration.ofSecs 60) now restart reached up ∧
        Passes registry staged.activationHeight latest (up + took) check finish ∧
        restarted = (.converged, blockWait (staged.activationHeight - latest)) := by
  rw [awaitRestart_eq, known] at path
  obtain ⟨_, _, latest, _, rfl, stands, path⟩ := path.bind_ok
  obtain ⟨restart, reached, up, took, rfl, again, rfl⟩ := shows_of_standing stands
  dsimp only at path
  split at path
  · rename_i short
    obtain ⟨check, _, _, _, rfl, checked, path⟩ := path.bind_ok
    obtain ⟨rfl, eq, rfl⟩ := yields_pure_iff.1 path
    cases eq
    refine ⟨restart, reached, up, latest, took, check, ?_, again,
      passes_of_checkScheduled short checked, rfl⟩
    rw [List.append_nil, List.append_assoc, List.singleton_append]
  · rename_i close
    obtain ⟨rfl, eq, rfl⟩ := yields_pure_iff.1 path
    cases eq
    exact ⟨restart, reached, up, latest, took, [], List.append_nil _, again,
      (if_neg close).mpr ⟨rfl, rfl⟩, rfl⟩

/-- A node of the demanding parties activates in no other way. -/
theorem activates_of_awaitActivation {activated : Activated}
    (path : (awaitActivation (Role.upgraded.demanding name) Order.demanding component staged
      registry).Yields now es (.ok activated) finish) :
    Activates component staged registry now es activated finish := by
  obtain ⟨_, _, _, _, rfl, rolled, path⟩ := path.bind_ok
  obtain ⟨rollout, rfl, rfl⟩ :=
    (yields_demand_iff (.order (.waitForRollout component rolloutTimeout))).1 rolled
  obtain ⟨_, _, restarted, begin, rfl, restarts, path⟩ := path.bind_ok
  obtain ⟨wait, _, poll, _, rfl, waited, path⟩ := path.bind_ok
  obtain ⟨rfl, eq, rfl⟩ := yields_pure_iff.1 path
  cases eq
  have shown := shows_of_waitUntilHeight (yields_widen_ok.1 waited)
  rw [List.append_nil, List.singleton_append]
  cases known : staged.capturedHeight with
  | some captured =>
    obtain ⟨restart, reached, up, latest, took, check, rfl, again, passed, rfl⟩ :=
      passes_of_awaitRestart known restarts
    rw [List.append_assoc, List.cons_append]
    exact .running known again passed shown
  | none =>
    rw [awaitRestart_eq, known] at restarts
    obtain ⟨rfl, eq, rfl⟩ := yields_pure_iff.1 restarts
    cases eq
    exact .stopped known shown

end Demanding

/-- A staged node counts as upgraded only by the replies that show it, whatever the node and the
deployer answer and when: the rollout, the restart past the captured height, the check of upgrades
that are not close, and in the end a height that is no less than the activation height. -/
theorem activation_shown {I : Interface} {σ : Type} (parties : Parties I) (world : World I σ)
    (component : Component) (staged : Staged) (registry : Registry) {now finish : Nat}
    {state last : σ} {activated : Activated}
    (ends : (awaitActivation parties.node parties.deployer component staged registry).Ends world now
      state (.ok activated) finish last) :
    Activates component staged registry now
      ((Step.awaiting component staged registry).trace parties world now state) activated finish :=
  activates_of_awaitActivation ((Step.awaiting component staged registry).yields_trace ends)

/-- A node captured at height 50 is back after two seconds, told its scheduled change then, and is
at height 60 after ten seconds. -/
theorem activation_shown_sample :
    (awaitActivation Sample.parties.node Sample.parties.deployer Sample.upgraded ⟨some 50, 60⟩
        Sample.upgrades).Ends (Sample.climbing 0) 0 () (.ok ⟨.converged, 60⟩) (Duration.ofSecs 10)
        () ∧
      Activates Sample.upgraded ⟨some 50, 60⟩ Sample.upgrades 0
        ((Step.awaiting Sample.upgraded ⟨some 50, 60⟩ Sample.upgrades).trace Sample.parties
          (Sample.climbing 0) 0 ())
        ⟨.converged, 60⟩ (Duration.ofSecs 10) := by
  have ends : (awaitActivation Sample.parties.node Sample.parties.deployer Sample.upgraded
      ⟨some 50, 60⟩ Sample.upgrades).Ends (Sample.climbing 0) 0 () (.ok ⟨.converged, 60⟩)
      (Duration.ofSecs 10) () :=
    ends_of_stateless (by decide +kernel) (by decide +kernel)
  exact ⟨ends, activation_shown _ _ _ _ _ ends⟩

end Lifecycle

end UpgradeDrill
