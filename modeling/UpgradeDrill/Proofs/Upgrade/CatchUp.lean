import Mathlib.Data.List.Chain
import UpgradeDrill.Proofs.Upgrade.Capture

/-!
# How far a resumed node gets

A node that is resumed after a stall activates first and then catches up with the height that a
reference tells once it has activated. That height may be below the activation height, and so may
the height by which the node has caught up. But a node whose heights never decrease is above both in
the end (`resumed_height`).
-/

namespace UpgradeDrill

namespace Lifecycle

open Attempt

/-- The height that the upgraded node has told in reply to a single query. -/
def height? : Exchange demands → Option Nat
  | ⟨_, .query .upgraded .tryLastBlockHeight, .ok height, _⟩ => some height
  | _ => none

/-- The heights that the upgraded node tells one after the other. -/
def heights (es : List (Exchange demands)) : List Nat := es.filterMap height?

/-- The reference node is asked something. -/
def OfReference (demand : Demand) : Prop := ∃ query, demand = .query .reference query

/-- The reference is asked only once, for its height. By then the last height that the upgraded node
has told is no less than the activation height. -/
def TellsTarget (activation : Nat) (es : List (Exchange demands)) (target : Nat) : Prop :=
  ∃ before time took after,
    es = before ++ ⟨time, .query .reference .lastBlockHeight, .ok target, took⟩ :: after ∧
      (∃ reached, (heights before).getLast? = some reached ∧ activation ≤ reached) ∧
      ∀ e ∈ before ++ after, ¬ OfReference e.request

lemma heights_append (es es' : List (Exchange demands)) :
    heights (es ++ es') = heights es ++ heights es' :=
  List.filterMap_append

lemma getLast?_heights_append {es' : List (Exchange demands)} {height : Nat}
    (es : List (Exchange demands)) (last : (heights es').getLast? = some height) :
    (heights (es ++ es')).getLast? = some height := by
  rw [heights_append, List.getLast?_append, last]
  rfl

section Demanding

variable {name other : String} {component : Component} {release : Release} {stalled : Stalled}
  {registry : Registry} {now finish : Nat} {es : List (Exchange demands)}

/-- A height that is shown is the last one told. -/
lemma Shows.getLast? {awaited within height : Nat}
    (shows : Shows awaited within now es height finish) :
    (heights es).getLast? = some height := by
  obtain ⟨before, time, took, rfl, _⟩ := shows
  exact getLast?_heights_append before rfl

lemma Shows.le {awaited within height : Nat} (shows : Shows awaited within now es height finish) :
    awaited ≤ height := by
  obtain ⟨_, _, _, _, _, le, _⟩ := shows
  exact le

/-- Activation is shown by the last height told. -/
lemma Activates.getLast? {staged : Staged} {activated : Activated}
    (activates : Activates component staged registry now es activated finish) :
    (heights es).getLast? = some activated.height ∧ staged.activationHeight ≤ activated.height := by
  cases activates with
  | stopped _ shows => exact ⟨getLast?_heights_append [_] shows.getLast?, shows.le⟩
  | @running _ _ restart _ _ _ _ check _ _ _ _ _ _ _ shows =>
    have told := getLast?_heights_append check shows.getLast?
    exact ⟨getLast?_heights_append [_] (getLast?_heights_append restart
      (getLast?_heights_append [_] told)), shows.le⟩

/-- The reference has no part in staging a node. -/
lemma Stages.not_ofReference {outcome : Except UpgradeError Staged}
    (stages : Stages component release now es outcome) : ∀ e ∈ es, ¬ OfReference e.request := by
  cases stages <;> simp [OfReference]

/-- The reference has no part in awaiting a node. -/
lemma not_ofReference_of_awaitActivation {staged : Staged} {outcome : Except UpgradeError Activated}
    (path : (awaitActivation (Role.upgraded.demanding name) Order.demanding component staged
      registry).Yields now es outcome finish) : ∀ e ∈ es, ¬ OfReference e.request := by
  obtain ⟨_, _, rest, rfl, asked, _⟩ := awaits_of_awaitActivation path
  rintro e mem ⟨_, eq⟩
  rcases List.mem_cons.1 mem with rfl | mem
  · cases eq
  · obtain ⟨_, eq'⟩ := asked e mem
    cases eq.symm.trans eq'

/-- A resumed node shows activation before the reference tells its height, and then gets there. -/
lemma tellsTarget_of_resumeAfterStall {activated : Activated}
    (path : (resumeAfterStall (Role.upgraded.demanding name) Order.demanding component release
      stalled (Role.reference.demanding other) registry).Yields now es (.ok activated) finish) :
    activated.source = .stalled ∧ release.activationHeight = some stalled.activationHeight ∧
      (heights es).getLast? = some activated.height ∧
      ∃ target, TellsTarget stalled.activationHeight es target ∧ target ≤ activated.height := by
  obtain ⟨staging, _, staged, _, rfl, stages, path⟩ := path.bind_ok
  have scheduled := activationHeight_of_stage stages
  dsimp only at path
  split at path
  case isFalse =>
    -- A node staged for another height is not awaited.
    obtain ⟨_, eq, _⟩ := yields_throw_iff.1 path
    cases eq
  rename_i same
  obtain ⟨awaiting, _, reached, _, rfl, awaits, path⟩ := path.bind_ok
  obtain ⟨_, _, target, _, rfl, told, path⟩ := path.bind_ok
  obtain ⟨took, rfl, rfl⟩ :=
    (yields_demand_iff (.query .reference .lastBlockHeight)).1 (yields_widen_ok.1 told)
  obtain ⟨wait, _, poll, _, rfl, waited, path⟩ := path.bind_ok
  obtain ⟨rfl, eq, rfl⟩ := yields_pure_iff.1 path
  cases eq
  have shows := shows_of_waitUntilHeight (yields_widen_ok.1 waited)
  obtain ⟨last, le⟩ := (activates_of_awaitActivation awaits).getLast?
  rw [List.append_nil, List.singleton_append, ← List.append_assoc]
  refine ⟨rfl, same ▸ scheduled, ?_, target, ?_, shows.le⟩
  · exact getLast?_heights_append _ (getLast?_heights_append [_] shows.getLast?)
  · refine ⟨_, _, _, _, rfl, ⟨_, getLast?_heights_append staging last, same ▸ le⟩, ?_⟩
    intro e mem
    rcases List.mem_append.1 mem with mem | mem
    · rcases List.mem_append.1 mem with mem | mem
      · exact (stages_of_stage stages).not_ofReference e mem
      · exact not_ofReference_of_awaitActivation awaits e mem
    · rintro ⟨_, eq⟩
      cases eq.symm.trans (shows.request mem)

end Demanding

/-- Among heights that never decrease, the last one is the greatest. -/
lemma le_getLast?_of_isChain {told : List Nat} {height last : Nat} (climbing : told.IsChain (· ≤ ·))
    (mem : height ∈ told) (eq : told.getLast? = some last) : height ≤ last := by
  obtain ⟨before, rfl⟩ := List.getLast?_eq_some_iff.1 eq
  have ordered := List.pairwise_append.1 (List.isChain_iff_pairwise.1 climbing)
  rcases List.mem_append.1 mem with mem | mem
  · exact ordered.2.2 height mem last List.mem_cons_self
  · exact (List.mem_singleton.1 mem).le

/-- A node whose heights never decrease is resumed with one that is no less than the activation
height of the stall, for which its release has to be scheduled. Nor is it less than the height that
the reference tells after the node has reached activation, which may itself be any. Only the replies
to single queries have to be ordered. -/
theorem resumed_height {I : Interface} {σ : Type} (parties : Parties I) (world : World I σ)
    (component : Component) (release : Release) (stalled : Stalled) (registry : Registry)
    {now finish : Nat} {state last : σ} {activated : Activated}
    (ends : (resumeAfterStall parties.node parties.deployer component release stalled
      parties.reference registry).Ends world now state (.ok activated) finish last) :
    let trace := (Step.resuming component release stalled registry).trace parties world now state
    (heights trace).IsChain (· ≤ ·) →
      activated.source = .stalled ∧
        release.activationHeight = some stalled.activationHeight ∧
        stalled.activationHeight ≤ activated.height ∧
        ∃ target, TellsTarget stalled.activationHeight trace target ∧
          target ≤ activated.height := by
  intro trace climbing
  have path := (Step.resuming component release stalled registry).yields_trace ends
  obtain ⟨source, scheduled, told, target, tells, caught⟩ := tellsTarget_of_resumeAfterStall path
  refine ⟨source, scheduled, ?_, target, tells, caught⟩
  -- The target may be below activation, so the bound has to come from the wait before it was told.
  obtain ⟨before, _, _, after, eq, ⟨reached, shown, le⟩, _⟩ := tells
  have mem : reached ∈ heights trace := by
    rw [show trace = _ from eq, heights_append]
    exact List.mem_append_left _ (List.mem_of_getLast? shown)
  exact le.trans (le_getLast?_of_isChain climbing mem told)

/-- A node that cannot tell its height before it is restarted is resumed at height 65, where the
reference is when the node has reached activation. -/
theorem resumed_height_sample :
    let resuming := Step.resuming Sample.upgraded Sample.scheduling ⟨60, none⟩ Sample.upgrades
    let trace := resuming.trace Sample.parties (Sample.climbing (Duration.ofSecs 3)) 0 ()
    (resumeAfterStall Sample.parties.node Sample.parties.deployer Sample.upgraded Sample.scheduling
        ⟨60, none⟩ Sample.parties.reference Sample.upgrades).Ends
        (Sample.climbing (Duration.ofSecs 3)) 0 () (.ok ⟨.stalled, 65⟩) (Duration.ofSecs 15) () ∧
      (heights trace).IsChain (· ≤ ·) ∧
      Sample.scheduling.activationHeight = some 60 ∧
      ∃ target, TellsTarget 60 trace target ∧ target ≤ 65 := by
  intro resuming trace
  have ends : (resumeAfterStall Sample.parties.node Sample.parties.deployer Sample.upgraded
      Sample.scheduling ⟨60, none⟩ Sample.parties.reference Sample.upgrades).Ends
      (Sample.climbing (Duration.ofSecs 3)) 0 () (.ok ⟨.stalled, 65⟩) (Duration.ofSecs 15) () :=
    ends_of_stateless (by decide +kernel) (by decide +kernel)
  have climbing : (heights trace).IsChain (· ≤ ·) := by decide +kernel
  obtain ⟨_, scheduled, _, tells⟩ := resumed_height _ _ _ _ _ _ ends climbing
  exact ⟨ends, climbing, scheduled, tells⟩

end Lifecycle

end UpgradeDrill
