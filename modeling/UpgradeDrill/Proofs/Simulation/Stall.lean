import Mathlib.Algebra.Group.Nat.Defs
import UpgradeDrill.Proofs.Simulation.Rollout

/-!
# Stalled nodes on a simulated network

A node that has stopped short of an activation height is found stalled. It is deployed to while it
is stopped, restarted after that, and followed to the activation height and then to the height of a
reference node.
-/

namespace UpgradeDrill

open Attempt SimulatedNetwork

namespace Lifecycle

section Stall

variable {net : SimulatedNetwork} {node : SimulatedNode} {calls : List DeployerCall}
  {place now crash activation : Nat} {component : Component} {release : Release}
  {registry : Registry}

/-- A stopped node tells no height, and is restarted after the deployment. -/
lemma stage_ends_of_crashed (now : Nat) (calls : List DeployerCall)
    (driven : net.placeOf? component.name = some place)
    (named : node.name = component.name) (crashed : node.status = .crashed crash)
    (scheduled : release.activationHeight = some activation)
    (lasts : now + net.downtime < Backoff.clockLimit) :
    (stage (SimulatedNetwork.node place node.name) deployer component release).Ends world now
      (net.put place node calls) (.ok ⟨none, activation⟩) now
      (net.put place (node.restarted crash (now + net.downtime))
        (.restart component.name :: .upgrade component.name release :: calls)) := by
  have told := tryLastBlockHeight_ends node.name calls (lt_of_placeOf? driven)
    (SimulatedNode.overflows_of_crashed crashed now)
  rw [SimulatedNode.reachableHeight_of_crashed crashed,
    SimulatedNode.settle_of_crashed crashed] at told
  rw [stage, scheduled]
  refine told.outcome.bind ((upgrade_ends_of_crashed driven named crashed).bind ?_)
  exact (restart_ends_of_crashed { node with crashAt := none } driven named crashed lasts).bind
    (ends_pure _)

/-- A node staged while it was stopped is followed from its restart to the activation height. -/
lemma awaitActivation_ends_of_stopped {downtime : Nat} (registry : Registry)
    (node : SimulatedNode) (calls : List DeployerCall)
    (driven : net.placeOf? component.name = some place) (named : node.name = component.name)
    (resumes : node.Resumes crash (now + downtime) now) (le : crash ≤ activation)
    (pos : 1 ≤ activation) (bounded : activation ≤ maxUInt32)
    (budget : Duration.ceilSecs downtime + (activation - crash) ≤ 10 * activation)
    (lasts : now + Duration.ofSecs (2 ^ 37) < Backoff.clockLimit) :
    (awaitActivation (SimulatedNetwork.node place node.name) deployer component ⟨none, activation⟩
      registry).Ends world now (net.put place node calls) (.ok ⟨.stalled, activation⟩)
      (now + (Duration.ceilSecs downtime + (activation - crash)) * Query.pollInterval)
      (net.put place
        (node.settle
          (now + (Duration.ceilSecs downtime + (activation - crash)) * Query.pollInterval))
        (.waitForRollout component.name rolloutTimeout :: calls)) := by
  have scaled : scaledWait activation = activation * 10 * Query.pollInterval := by
    rw [scaledWait_eq, Nat.min_eq_left bounded]
  have small : maxUInt32 ≤ maxUInt64 := by decide
  have reached := waitUntilHeight_follows node.name
    (.waitForRollout component.name rolloutTimeout :: calls) activation (scaledWait activation) 0
    (Duration.ceilSecs downtime + (activation - crash)) (activation - crash)
    (lt_of_placeOf? driven) resumes (by simp) (Nat.zero_add _)
    (Nat.le_of_eq (Nat.add_sub_cancel' le).symm) (.inr (Nat.add_sub_cancel' le).symm) (by omega) ?_
    (Nat.lt_of_le_of_lt (Nat.add_le_add_left (Nat.le_max_left ..) now)
      (add_blockWait_lt activation lasts (Nat.le_add_right ..))) ?_
  · rw [Nat.add_sub_cancel' le] at reached
    exact .bind (waitForRollout_ends driven named)
      (.bind (ends_pure _) (.bind (reached.widen _) (ends_pure _)))
  · rw [scaled]
    have less : Query.pollInterval < 10 * Query.pollInterval := by decide
    exact Nat.lt_of_lt_of_le less (Nat.mul_le_mul_right _ (by omega))
  · rw [scaled]
    exact Nat.mul_le_mul_right _ (by omega)

/-- A node at the activation height is followed from there to the height of the reference node. -/
lemma catchUp_ends {reference : SimulatedNode} {other height downtime start : Nat}
    (node : SimulatedNode) (name : String) (calls : List DeployerCall)
    (lt : place < net.nodes.length) (referred : net.nodes[other]? = some reference)
    (other_ne : other ≠ place) (resumes : node.Resumes crash (now + downtime) start)
    (begins : start =
      now + (Duration.ceilSecs downtime + (activation - crash)) * Query.pollInterval)
    (le : crash ≤ activation) (told : reference.reachableHeight start = .ok height)
    (fits : max activation height ≤ maxUInt64) (near : height - activation ≤ 2 ^ 32)
    (lasts : now + Duration.ofSecs (2 ^ 37) < Backoff.clockLimit)
    (soon : start ≤ now + Duration.ofSecs (2 ^ 36)) :
    Ends world
      (do
        let target ←
          (SimulatedNetwork.node other reference.name).lastBlockHeight.widen UpgradeError.query
        let timeout := blockWait (target - activation)
        let poll ← ((SimulatedNetwork.node place name).waitUntilHeight target timeout).widen .query
        return (⟨.stalled, poll.value⟩ : Activated))
      start (net.put place node calls) (.ok ⟨.stalled, max activation height⟩)
      (now + (Duration.ceilSecs downtime + (activation - crash) + (height - activation)) *
        Query.pollInterval)
      ((net.look start other).put place
        (node.settle (now + (Duration.ceilSecs downtime + (activation - crash) +
          (height - activation)) * Query.pollInterval)) calls) := by
  have asked := tryLastBlockHeight_look reference.name start
    ((getElem?_put_of_ne node calls other_ne).trans referred)
  rw [told, look_put_of_ne other_ne] at asked
  have lt' : place < (net.look start other).nodes.length := by
    rw [look, List.length_modify]
    exact lt
  have caught := waitUntilHeight_follows name calls height (blockWait (height - activation))
    (Duration.ceilSecs downtime + (activation - crash)) (height - activation)
    (max activation height - crash) lt' resumes begins (by omega) (by omega) (by omega) (by omega)
    (pollInterval_lt_blockWait _) (add_blockWait_lt _ lasts soon) (le_blockWait near)
  rw [show crash + (max activation height - crash) = max activation height by omega,
    show Duration.ceilSecs downtime + (max activation height - crash) =
      Duration.ceilSecs downtime + (activation - crash) + (height - activation) by omega] at caught
  exact (asked.widen _).bind ((caught.widen _).bind (ends_pure _))

/-- A stopped node is resumed: it gets to the activation height, and then to the height that the
reference node has by then. -/
lemma resumeAfterStall_ends {reference : SimulatedNode} {other height : Nat} (node : SimulatedNode)
    (present : net.nodes[place]? = some node) (driven : net.placeOf? component.name = some place)
    (crashed : node.status = .crashed crash) (le : crash ≤ activation) (pos : 1 ≤ activation)
    (bounded : activation ≤ maxUInt32) (scheduled : release.activationHeight = some activation)
    (budget : Duration.ceilSecs net.downtime + (activation - crash) ≤ 10 * activation)
    (referred : net.nodes[other]? = some reference) (other_ne : other ≠ place)
    (told : reference.reachableHeight
      (now + (Duration.ceilSecs net.downtime + (activation - crash)) * Query.pollInterval) =
        .ok height)
    (fits : height ≤ maxUInt64) (near : height - activation ≤ 2 ^ 32)
    (lasts : now + Duration.ofSecs (2 ^ 37) < Backoff.clockLimit) :
    ∃ after : SimulatedNetwork,
      (resumeAfterStall (SimulatedNetwork.node place node.name) deployer component release
          ⟨activation, none⟩ (SimulatedNetwork.node other reference.name) registry).Ends world now
          net (.ok ⟨.stalled, max activation height⟩)
          (now + (Duration.ceilSecs net.downtime + (activation - crash) + (height - activation)) *
            Query.pollInterval) after ∧
        after.calls =
          [.waitForRollout component.name rolloutTimeout, .restart component.name,
            .upgrade component.name release] ++ net.calls ∧
        (after.nodes[place]?).map (·.upgradesQueries) = some node.upgradesQueries ∧
        after.overflowed = net.overflowed := by
  obtain ⟨_, present', named⟩ := getElem?_of_placeOf? driven
  cases present.symm.trans present'
  have lt := lt_of_placeOf? driven
  have small : maxUInt32 ≤ maxUInt64 := by decide
  -- The node is back, and at the activation height, long before the end of the clock.
  have back : net.downtime ≤
      (Duration.ceilSecs net.downtime + (activation - crash)) * Query.pollInterval := by
    simp only [Duration.ceilSecs, Query.pollInterval, Duration.ofSecs]
    omega
  have soon : (Duration.ceilSecs net.downtime + (activation - crash)) * Query.pollInterval ≤
      Duration.ofSecs (2 ^ 36) := by
    rw [ofSecs_eq]
    have most : maxUInt32 = 2 ^ 32 - 1 := rfl
    exact Nat.mul_le_mul_right _ (by omega)
  have most : Duration.ofSecs (2 ^ 36) ≤ Duration.ofSecs (2 ^ 37) := by decide
  have staged := stage_ends_of_crashed now net.calls driven named crashed scheduled (by omega)
  rw [put_self present] at staged
  have resumes := node.resumes_restarted crash (now + net.downtime) now
  have activated := awaitActivation_ends_of_stopped registry
    (node.restarted crash (now + net.downtime))
    (.restart component.name :: .upgrade component.name release :: net.calls) driven named resumes
    le pos bounded budget lasts
  have later := resumes.settle (Nat.le_add_right now
    ((Duration.ceilSecs net.downtime + (activation - crash)) * Query.pollInterval))
  have caught := catchUp_ends _ node.name
    (.waitForRollout component.name rolloutTimeout :: .restart component.name ::
      .upgrade component.name release :: net.calls) lt referred other_ne later rfl le told
    (by omega) near lasts (Nat.add_le_add_left soon now)
  have whole : (resumeAfterStall (SimulatedNetwork.node place node.name) deployer component release
      ⟨activation, none⟩ (SimulatedNetwork.node other reference.name) registry).Ends world now net
      _ _ _ := staged.bind (by
    dsimp only
    rw [if_pos rfl]
    exact activated.bind caught)
  refine ⟨_, whole, rfl, ?_, ?_⟩
  · rw [getElem?_put (by rwa [look, List.length_modify])]
    rfl
  · change (net.overflowed || (net.nodes[other]?).any (·.overflows (now +
      (Duration.ceilSecs net.downtime + (activation - crash)) * Query.pollInterval))) =
      net.overflowed
    rw [referred, Option.any_some, SimulatedNode.overflows_of_reachableHeight told fits,
      Bool.or_false]

end Stall

namespace Sample

/-- A node that is set to stop at height 55. -/
def stopping : SimulatedNode := { SimulatedNode.start "node2" 50 with crashAt := some 55 }

def second : Component := .sequencer "node2" "ns"

/-- A running node and one that stops; restarts take two and a half seconds. -/
def pair : SimulatedNetwork :=
  { nodes := [SimulatedNode.start "node1" 50, stopping], downtime := Duration.ofMillis 2500 }

end Sample

/-- A node that has stopped at a height short of activation is found stalled. Once resumed, it gets
to the activation height and then to the height that a reference node reports at that time, by one
deployment, one restart and one rollout, and is never asked for its upgrades. The clock has to go on
for four thousand years after that. -/
theorem stalled_rollout {net : SimulatedNetwork} {node reference : SimulatedNode}
    {place other now crash activation : Nat} {component : Component} {release : Release}
    (registry : Registry) (present : net.nodes[place]? = some node)
    (driven : net.placeOf? component.name = some place)
    (stopped : (node.settle now).status = .crashed crash) (le : crash ≤ activation)
    (pos : 1 ≤ activation) (bounded : activation ≤ maxUInt32)
    (scheduled : release.activationHeight = some activation)
    (budget : Duration.ceilSecs net.downtime + (activation - crash) ≤ 10 * activation)
    (referred : net.nodes[other]? = some reference) :
    (detectStall (SimulatedNetwork.node place node.name) activation).Ends world now net
        (.ok ⟨activation, none⟩) now (net.look now place) ∧
      ∀ later ≥ now, later + Duration.ofSecs (2 ^ 37) < Backoff.clockLimit → ∀ height,
        reference.reachableHeight (later + Duration.ofSecs
          (Duration.ceilSecs net.downtime + (activation - crash))) = .ok height →
        height ≤ maxUInt64 → height - activation ≤ 2 ^ 32 →
        ∃ after : SimulatedNetwork,
          (resumeAfterStall (SimulatedNetwork.node place node.name) deployer component release
            ⟨activation, none⟩ (SimulatedNetwork.node other reference.name) registry).Ends world
            later (net.look now place) (.ok ⟨.stalled, max activation height⟩)
            (later + Duration.ofSecs (Duration.ceilSecs net.downtime + (activation - crash) +
              (height - activation))) after ∧
          after.calls =
            [.waitForRollout component.name rolloutTimeout, .restart component.name,
              .upgrade component.name release] ++ net.calls ∧
          (after.nodes[place]?).map (·.upgradesQueries) = some node.upgradesQueries ∧
          after.overflowed = (net.look now place).overflowed := by
  obtain ⟨_, present', named⟩ := getElem?_of_placeOf? driven
  cases present.symm.trans present'
  have gone (time : Nat) (since : now ≤ time) :
      node.reachableHeight time = .error (.status 503) := by
    rw [← SimulatedNode.reachableHeight_settle _ since]
    exact SimulatedNode.reachableHeight_of_crashed stopped time
  have looked := tryLastBlockHeight_look node.name now present
  rw [gone now (Nat.le_refl now)] at looked
  refine ⟨looked.outcome.bind (ends_pure _), fun later since lasts height told fits near => ?_⟩
  -- The reference node answers, and the node that has stopped never does.
  have other_ne : other ≠ place := by
    rintro rfl
    cases present.symm.trans referred
    rw [gone _ (Nat.le_trans since (Nat.le_add_right ..))] at told
    cases told
  rw [ofSecs_eq] at told ⊢
  have driven' := (placeOf?_look net now place component.name).trans driven
  exact resumeAfterStall_ends (node.settle now) (getElem?_look present) driven' stopped le pos
    bounded scheduled budget ((getElem?_look_of_ne other_ne).trans referred) other_ne told fits near
    lasts

/-- A node that stopped at height 55 is found stalled at 100 seconds and resumed at 110. It is back
at 112.5 seconds and at the activation height at 258, and the reference node is 108 blocks ahead. -/
theorem stalled_rollout_sample :
    (Sample.stopping.settle (Duration.ofSecs 100)).status = .crashed 55 ∧
      (detectStall (SimulatedNetwork.node 1 "node2") 200).Ends world (Duration.ofSecs 100)
        Sample.pair (.ok ⟨200, none⟩) (Duration.ofSecs 100)
        (Sample.pair.look (Duration.ofSecs 100) 1) ∧
      ∃ after,
        (resumeAfterStall (SimulatedNetwork.node 1 "node2") deployer Sample.second Sample.release
          ⟨200, none⟩ (SimulatedNetwork.node 0 "node1") Sample.registry).Ends world
          (Duration.ofSecs 110) (Sample.pair.look (Duration.ofSecs 100) 1) (.ok ⟨.stalled, 308⟩)
          (Duration.ofSecs 366) after ∧
        after.calls = [.waitForRollout "node2" rolloutTimeout, .restart "node2",
          .upgrade "node2" Sample.release] ∧
        (after.nodes[1]?).map (·.upgradesQueries) = some 0 := by
  obtain ⟨found, resumed⟩ := @stalled_rollout Sample.pair Sample.stopping
    (SimulatedNode.start "node1" 50) 1 0 (Duration.ofSecs 100) 55 200 Sample.second Sample.release
    Sample.registry rfl rfl rfl (by decide) (by decide) (by decide) rfl (by decide) rfl
  obtain ⟨after, ends, calls, queries, _⟩ :=
    resumed (Duration.ofSecs 110) (by decide) (by decide) 308 rfl (by decide) (by decide)
  exact ⟨rfl, found, after, ends, calls, queries⟩

end Lifecycle

end UpgradeDrill
