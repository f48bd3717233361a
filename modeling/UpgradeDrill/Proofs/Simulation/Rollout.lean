import Mathlib.Algebra.Group.Nat.Defs
import UpgradeDrill.Proofs.Simulation.Network
import UpgradeDrill.Proofs.Upgrade.Asks

/-!
# Rollouts on a simulated network

A running node is staged, restarts, and is followed to its activation height. All that is waited for
is the restart and the blocks that are missing, one a second.
-/

namespace UpgradeDrill

open Attempt SimulatedNetwork

namespace Lifecycle

section Rollout

variable {net : SimulatedNetwork} {node : SimulatedNode} {calls : List DeployerCall}
  {place now height back activation : Nat} {component : Component} {release : Release}
  {registry : Registry}

/-- Some seconds on the clock are as many pauses of a poll. -/
lemma ofSecs_eq (count : Nat) : Duration.ofSecs count = count * Query.pollInterval := by
  simp only [Query.pollInterval, Duration.ofSecs, Nat.one_mul]

/-- A running node tells its height, and is then taken down by the deployment. -/
lemma stage_ends_of_running (calls : List DeployerCall)
    (driven : net.placeOf? component.name = some place)
    (named : node.name = component.name) (running : node.reachableHeight now = .ok height)
    (fits : height ≤ maxUInt64) (scheduled : release.activationHeight = some activation) :
    (stage (SimulatedNetwork.node place node.name) deployer component release).Ends world now
      (net.put place node calls) (.ok ⟨some height, activation⟩) now
      ((net.outlasting now net.downtime).put place (node.restarted height (now + net.downtime))
        (.upgrade component.name release :: calls)) := by
  have lt := lt_of_placeOf? driven
  have told := tryLastBlockHeight_ends node.name calls lt
    (SimulatedNode.overflows_of_reachableHeight running fits)
  rw [running] at told
  have settled : (node.settle now).reachableHeight now = .ok height := by
    rw [SimulatedNode.reachableHeight_settle _ (Nat.le_refl _), running]
  rw [stage, scheduled]
  exact told.outcome.bind
    ((upgrade_ends_of_running (node.settle now) driven named settled fits).bind
      (ends_pure _))

/-- The check of the scheduled changes is passed by a node that has applied nothing and knows what
it has scheduled. -/
lemma checkScheduled_ends (calls : List DeployerCall) (lt : place < net.nodes.length)
    (running : node.reachableHeight now = .ok height) (fits : height ≤ maxUInt64)
    (unapplied : node.upgrades.applied = [])
    (known : registry.checkChanges node.upgrades.scheduled none = .ok ()) :
    (checkScheduled (SimulatedNetwork.node place node.name) registry).Ends world now
      (net.put place node calls) (.ok ()) now
      (net.put place { node.settle now with upgradesQueries := node.upgradesQueries + 1 }
        calls) := by
  refine .bind ((upgradesInfo_ends lt running fits).widen _) ?_
  rw [unapplied, known]
  exact ends_ofExcept _

/-- The time for some blocks is ten pauses for each block, up to a bound. -/
lemma scaledWait_eq (blocks : Nat) :
    scaledWait blocks = min blocks maxUInt32 * 10 * Query.pollInterval := by
  simp only [scaledWait, timePerBlock, Query.pollInterval, Duration.ofSecs]
  omega

/-- The time for some blocks lasts until they are there, one a second. -/
lemma le_blockWait {blocks : Nat} (le : blocks ≤ 2 ^ 32) :
    blocks * Query.pollInterval ≤ blockWait blocks := by
  have enough : blocks ≤ min blocks maxUInt32 * 10 := by
    have : maxUInt32 = 2 ^ 32 - 1 := rfl
    omega
  calc blocks * Query.pollInterval
      ≤ min blocks maxUInt32 * 10 * Query.pollInterval := Nat.mul_le_mul_right _ enough
    _ = scaledWait blocks := (scaledWait_eq blocks).symm
    _ ≤ blockWait blocks := Nat.le_max_left ..

/-- No wait for blocks is over at the end of a clock that goes on for long enough. -/
lemma add_blockWait_lt {start : Nat} (blocks : Nat)
    (lasts : now + Duration.ofSecs (2 ^ 37) < Backoff.clockLimit)
    (soon : start ≤ now + Duration.ofSecs (2 ^ 36)) :
    start + blockWait blocks < Backoff.clockLimit := by
  have scaled : scaledWait blocks ≤ Duration.ofSecs (2 ^ 36) := by
    have : maxUInt32 = 2 ^ 32 - 1 := rfl
    simp only [scaledWait, timePerBlock, Duration.ofSecs]
    omega
  have least : minBlockWait ≤ Duration.ofSecs (2 ^ 36) := by decide
  have bound : blockWait blocks ≤ Duration.ofSecs (2 ^ 36) := Nat.max_le.2 ⟨scaled, least⟩
  simp only [Duration.ofSecs] at *
  omega

/-- Some seconds after the first whole one at which it is back, a restarted node has gained as many
blocks. -/
lemma height_of_ceilSecs (height now downtime blocks : Nat) :
    now + downtime ≤ now + (Duration.ceilSecs downtime + blocks) * Query.pollInterval ∧
      height + (now + (Duration.ceilSecs downtime + blocks) * Query.pollInterval -
        (now + downtime)) / NodeStatus.blockTime = height + blocks := by
  simp only [Query.pollInterval, NodeStatus.blockTime, Duration.ofSecs, Duration.ceilSecs]
  omega

lemma reachableHeight_of_ceilSecs {downtime blocks start : Nat}
    (resumes : node.Resumes height (now + downtime) start)
    (le : start ≤ now + (Duration.ceilSecs downtime + blocks) * Query.pollInterval) :
    node.reachableHeight (now + (Duration.ceilSecs downtime + blocks) * Query.pollInterval) =
      .ok (height + blocks) := by
  obtain ⟨past, gained⟩ := height_of_ceilSecs height now downtime blocks
  rw [resumes.reachableHeight le, if_pos past, gained]

/-- A restarted node that is waited for from some seconds after the restart on is followed to a
number of blocks past the height it stood at. -/
lemma waitUntilHeight_follows {downtime start : Nat} (name : String) (calls : List DeployerCall)
    (target timeout waited count blocks : Nat) (lt : place < net.nodes.length)
    (resumes : node.Resumes height (now + downtime) start)
    (begins : start = now + waited * Query.pollInterval)
    (sum : waited + count = Duration.ceilSecs downtime + blocks) (le : target ≤ height + blocks)
    (least : count = 0 ∨ target = height + blocks) (fits : height + blocks ≤ maxUInt64)
    (starts : Query.pollInterval < timeout) (lasts : start + timeout < Backoff.clockLimit)
    (room : count * Query.pollInterval ≤ timeout) :
    ((SimulatedNetwork.node place name).waitUntilHeight target timeout).Ends world start
      (net.put place node calls)
      (.ok ⟨height + blocks, count + 1, count * Query.pollInterval,
        timeout - count * Query.pollInterval⟩)
      (now + (Duration.ceilSecs downtime + blocks) * Query.pollInterval)
      (net.put place
        (node.settle (now + (Duration.ceilSecs downtime + blocks) * Query.pollInterval))
        calls) := by
  -- The poll counts pauses from its own start, the height seconds from the restart.
  have finish : start + count * Query.pollInterval =
      now + (Duration.ceilSecs downtime + blocks) * Query.pollInterval := by
    rw [begins, Nat.add_assoc, ← Nat.add_mul, sum]
  obtain ⟨_, gained⟩ := height_of_ceilSecs height now downtime blocks
  rw [← finish] at gained ⊢
  rw [← gained] at fits ⊢
  refine waitUntilHeight_reaches lt resumes (fun earlier less => ?_) ?_ fits starts lasts room
  · simp only [Query.pollInterval, Duration.ofSecs, Duration.ceilSecs] at *
    omega
  · rw [finish]
    simp only [Query.pollInterval, Duration.ofSecs, Duration.ceilSecs] at *
    omega

/-- The height to which a restarted node has to get. -/
lemma target_ends (net : SimulatedNetwork) (now : Nat) (fits : height + 2 ≤ maxUInt64) :
    (Attempt.ofExcept (heightAfter height restartMargin) : Attempt simulation _ _).Ends world now
      net (.ok (height + 2)) now net := by
  rw [show heightAfter height restartMargin = .ok (height + 2) from if_pos fits]
  exact ends_ofExcept _

/-- A short restart leaves time for two blocks. -/
lemma le_restartTimeout {downtime : Nat} (short : downtime ≤ Duration.ofSecs 58) :
    (Duration.ceilSecs downtime + 2) * Query.pollInterval ≤ restartTimeout := by
  simp only [restartTimeout, Query.pollInterval, Duration.ceilSecs, Duration.ofSecs] at *
  omega

/-- A node that restarts within the budget is followed to two blocks past its captured height, and
then asked for its upgrades if activation is not too close. -/
lemma awaitRestart_ends {downtime : Nat} (activation : Nat) (calls : List DeployerCall)
    (lt : place < net.nodes.length)
    (resumes : node.Resumes height (now + downtime) now) (fits : height + 2 ≤ maxUInt64)
    (lasts : now + restartTimeout < Backoff.clockLimit)
    (short : downtime ≤ Duration.ofSecs 58) (unapplied : node.upgrades.applied = [])
    (known : registry.checkChanges node.upgrades.scheduled none = .ok ()) :
    ∃ after : SimulatedNode,
      after.Resumes height (now + downtime)
          (now + (Duration.ceilSecs downtime + 2) * Query.pollInterval) ∧
        after.upgradesQueries =
          node.upgradesQueries + (if height + 4 < activation then 1 else 0) ∧
        (awaitRestart (SimulatedNetwork.node place node.name) ⟨some height, activation⟩
          registry).Ends world now (net.put place node calls)
          (.ok (.converged, blockWait (activation - (height + 2))))
          (now + (Duration.ceilSecs downtime + 2) * Query.pollInterval)
          (net.put place after calls) := by
  have le : now ≤ now + (Duration.ceilSecs downtime + 2) * Query.pollInterval :=
    Nat.le_add_right ..
  have waited := waitUntilHeight_follows node.name calls (height + 2) restartTimeout 0
    (Duration.ceilSecs downtime + 2) 2 lt resumes (by simp) (Nat.zero_add _) (Nat.le_refl _)
    (.inr rfl) fits (by decide) lasts (le_restartTimeout short)
  -- The node is looked at once more at the end of the wait.
  generalize eq : now + (Duration.ceilSecs downtime + 2) * Query.pollInterval = restarted at *
  have reached : (node.settle restarted).reachableHeight restarted = .ok (height + 2) := by
    rw [SimulatedNode.reachableHeight_settle _ (Nat.le_refl _), ← eq]
    exact reachableHeight_of_ceilSecs resumes (eq ▸ le)
  have later := resumes.settle le
  have told := tryLastBlockHeight_ends node.name calls lt
    (SimulatedNode.overflows_of_reachableHeight reached fits)
  rw [SimulatedNode.settle_settle _ (Nat.le_refl _), reached] at told
  have target := target_ends (net.put place node calls) now fits
  -- Both margins add up: two blocks for the restart, two for the check.
  by_cases margin : height + 4 < activation
  · refine ⟨{ node.settle restarted with upgradesQueries := node.upgradesQueries + 1 },
      ⟨later.stays, later.status⟩, by rw [if_pos margin], ?_⟩
    have checked := checkScheduled_ends calls lt reached fits unapplied known
    rw [SimulatedNode.settle_settle _ (Nat.le_refl _)] at checked
    have far : height + 2 < activation - preCheckMargin := by
      rw [preCheckMargin]
      omega
    rw [awaitRestart]
    refine .bind target ((waited.widen _).bind ((told.widen _).bind ?_))
    rw [if_pos far]
    exact checked.bind (ends_pure _)
  · refine ⟨node.settle restarted, later, by rw [if_neg margin]; rfl, ?_⟩
    have close : ¬ height + 2 < activation - preCheckMargin := by
      rw [preCheckMargin]
      omega
    rw [awaitRestart]
    refine .bind target ((waited.widen _).bind ((told.widen _).bind ?_))
    rw [if_neg close]
    exact (ends_pure _).bind (ends_pure _)

/-- A node that restarts within the budget is followed to its activation height. -/
lemma awaitActivation_ends_of_short {downtime : Nat} (node : SimulatedNode)
    (driven : net.placeOf? component.name = some place) (named : node.name = component.name)
    (resumes : node.Resumes height (now + downtime) now) (fits : height + 2 ≤ maxUInt64)
    (bounded : activation ≤ maxUInt64) (near : activation - height ≤ 2 ^ 32)
    (lasts : now + Duration.ofSecs (2 ^ 37) < Backoff.clockLimit)
    (short : downtime ≤ Duration.ofSecs 58) (unapplied : node.upgrades.applied = [])
    (known : registry.checkChanges node.upgrades.scheduled none = .ok ()) :
    ∃ (after : SimulatedNode) (calls' : List DeployerCall),
      after.upgradesQueries = node.upgradesQueries + (if height + 4 < activation then 1 else 0) ∧
        (awaitActivation (SimulatedNetwork.node place node.name) deployer component
          ⟨some height, activation⟩ registry).Ends world now (net.put place node calls)
          (.ok ⟨.converged, max activation (height + 2)⟩)
          (now + (Duration.ceilSecs downtime + 2 + (activation - (height + 2))) *
            Query.pollInterval)
          (net.put place after calls') := by
  have lt := lt_of_placeOf? driven
  have least : restartTimeout ≤ Duration.ofSecs (2 ^ 36) := by decide
  have most : Duration.ofSecs (2 ^ 36) ≤ Duration.ofSecs (2 ^ 37) := by decide
  have soon := le_restartTimeout short
  obtain ⟨after, resumes', queries, restarted⟩ := awaitRestart_ends activation
    (.waitForRollout component.name rolloutTimeout :: calls) lt resumes fits (by omega) short
    unapplied known
  -- A node that is past its activation height already is not waited for any more.
  have blocks : height + max 2 (activation - height) = max activation (height + 2) := by omega
  have reached := waitUntilHeight_follows node.name
    (.waitForRollout component.name rolloutTimeout :: calls) activation
    (blockWait (activation - (height + 2))) (Duration.ceilSecs downtime + 2)
    (activation - (height + 2)) (max 2 (activation - height)) lt resumes' rfl (by omega) (by omega)
    (by omega) (by omega) (pollInterval_lt_blockWait _) (add_blockWait_lt _ lasts (by omega))
    (le_blockWait (by omega))
  rw [blocks, show Duration.ceilSecs downtime + max 2 (activation - height) =
    Duration.ceilSecs downtime + 2 + (activation - (height + 2)) by omega] at reached
  exact ⟨after.settle _, _, queries, .bind (waitForRollout_ends driven named)
    (.bind restarted (.bind (reached.widen _) (ends_pure _)))⟩

/-- A node that does not restart within the budget is given up. -/
lemma awaitActivation_ends_of_long {downtime : Nat} (node : SimulatedNode)
    (driven : net.placeOf? component.name = some place) (named : node.name = component.name)
    (resumes : node.Resumes height (now + downtime) now) (fits : height + 2 ≤ maxUInt64)
    (lasts : now + restartTimeout < Backoff.clockLimit) (long : Duration.ofSecs 58 < downtime) :
    ∃ (last : String) (after : SimulatedNode) (calls' : List DeployerCall),
      (awaitActivation (SimulatedNetwork.node place node.name) deployer component
        ⟨some height, activation⟩ registry).Ends world now (net.put place node calls)
        (.error (.query (.unsatisfied node.name s!"reach block {height + 2}" restartTimeout last)))
        (now + 60 * Query.pollInterval) (net.put place after calls') := by
  have lt := lt_of_placeOf? driven
  have target := target_ends
    (net.put place node (.waitForRollout component.name rolloutTimeout :: calls)) now fits
  -- The last look is 60 seconds after the restart, before the second block.
  have early : now + 60 * Query.pollInterval <
      now + downtime + (height + 2 - height) * Query.pollInterval := by
    simp only [Query.pollInterval, Duration.ofSecs] at *
    omega
  have low : height + (now + 60 * Query.pollInterval - (now + downtime)) / NodeStatus.blockTime ≤
      maxUInt64 := by
    simp only [Query.pollInterval, NodeStatus.blockTime, Duration.ofSecs] at *
    omega
  have room : 60 * Query.pollInterval ≤ restartTimeout := by decide
  obtain ⟨last, failed⟩ := waitUntilHeight_fails node.name
    (.waitForRollout component.name rolloutTimeout :: calls) lt resumes early low (by decide)
    lasts room (by decide)
  exact ⟨last, _, _, .bind (waitForRollout_ends driven named)
    (.bind_error (.bind target (.bind_error (failed.widen _) _)) _)⟩

end Rollout

namespace Sample

/-- A node at height 50 with one change scheduled. -/
def steady : SimulatedNode :=
  { SimulatedNode.start "node1" 50 with upgrades.scheduled := [⟨200, "price_feed_change", 2, ""⟩] }

def component : Component := .sequencer "node1" "ns"

/-- A release that activates an upgrade at height 200. -/
def release : Release := { upgrade := some ⟨"aspen", some 200⟩ }

def registry : Registry := ⟨[⟨"aspen", ["price_feed_change"], 200⟩]⟩

/-- The node alone, with a time that its restarts take. -/
def alone (downtime : Nat) : SimulatedNetwork := { nodes := [steady], downtime }

lemma known : registry.checkChanges steady.upgrades.scheduled none = .ok () := by rfl

end Sample

/-- A running node is rolled out to in the time that its restart and the missing blocks take; one
that does not restart in time is given up after a minute. The clock has to go on for four thousand
years after the deployment, and if the node is to be down for longer than there is a clock, nothing
counts any more once it has been restarted. -/
theorem converging_rollout {net : SimulatedNetwork} {node : SimulatedNode}
    {place now height activation : Nat} {component : Component} {release : Release}
    (registry : Registry) (present : net.nodes[place]? = some node)
    (driven : net.placeOf? component.name = some place)
    (running : node.reachableHeight now = .ok height)
    (scheduled : release.activationHeight = some activation) (fits : height + 2 ≤ maxUInt64)
    (bounded : activation ≤ maxUInt64) (near : activation - height ≤ 2 ^ 32)
    (unapplied : node.upgrades.applied = [])
    (known : registry.checkChanges node.upgrades.scheduled none = .ok ())
    (lasts : now + Duration.ofSecs (2 ^ 37) < Backoff.clockLimit) :
    ∃ staged : SimulatedNetwork,
      (stage (SimulatedNetwork.node place node.name) deployer component release).Ends world now net
          (.ok ⟨some height, activation⟩) now staged ∧
        staged.overflowed =
          (net.overflowed || decide (Backoff.clockLimit ≤ now + net.downtime)) ∧
        (net.downtime ≤ Duration.ofSecs 58 →
          ∃ after : SimulatedNetwork,
            (awaitActivation (SimulatedNetwork.node place node.name) deployer component
              ⟨some height, activation⟩ registry).Ends world now staged
              (.ok ⟨.converged, max activation (height + 2)⟩)
              (now + Duration.ofSecs
                (Duration.ceilSecs net.downtime + 2 + (activation - (height + 2)))) after ∧
            (after.nodes[place]?).map (·.upgradesQueries) =
              some (node.upgradesQueries + if height + 4 < activation then 1 else 0) ∧
            after.overflowed = net.overflowed) ∧
        (Duration.ofSecs 58 < net.downtime →
          ∃ (last : String) (after : SimulatedNetwork),
            (awaitActivation (SimulatedNetwork.node place node.name) deployer component
              ⟨some height, activation⟩ registry).Ends world now staged
              (.error (.query (.unsatisfied node.name s!"reach block {height + 2}" restartTimeout
                last)))
              (now + Duration.ofSecs 60) after ∧
            after.overflowed = staged.overflowed) := by
  obtain ⟨first, present', named⟩ := getElem?_of_placeOf? driven
  cases present.symm.trans present'
  have staged := stage_ends_of_running net.calls driven named running (by omega)
    scheduled
  rw [put_self present] at staged
  have resumes := node.resumes_restarted height (now + net.downtime) now
  have least : restartTimeout ≤ Duration.ofSecs (2 ^ 37) := by decide
  refine ⟨_, staged, rfl, fun short => ?_, fun long => ?_⟩
  · have most : Duration.ofSecs 58 ≤ Duration.ofSecs (2 ^ 37) := by decide
    rw [outlasting_of_lt (by omega)]
    obtain ⟨after, calls, queries, ends⟩ := awaitActivation_ends_of_short
      (node.restarted height (now + net.downtime)) driven named resumes fits bounded near lasts
      short unapplied known
    refine ⟨net.put place after calls, ?_, ?_, rfl⟩
    · rw [ofSecs_eq]
      exact ends
    · rw [getElem?_put (lt_of_placeOf? driven), Option.map_some, queries]
      rfl
  · have driven' : (net.outlasting now net.downtime).placeOf? component.name = some place := driven
    obtain ⟨last, after, calls, ends⟩ := awaitActivation_ends_of_long
      (node.restarted height (now + net.downtime)) driven' named resumes fits (by omega) long
    refine ⟨last, (net.outlasting now net.downtime).put place after calls, ?_, rfl⟩
    rw [ofSecs_eq]
    exact ends

/-- A restart that takes a little over 57 seconds leaves just enough time, one that takes a little
over 58 does not, and one that takes as long as there is a clock stops everything. -/
theorem converging_rollout_sample :
    Sample.steady.reachableHeight 0 = .ok 50 ∧
      Sample.registry.checkChanges Sample.steady.upgrades.scheduled none = .ok () ∧
      (∃ staged after,
        (awaitActivation (SimulatedNetwork.node 0 "node1") deployer Sample.component ⟨some 50, 200⟩
          Sample.registry).Ends world 0 staged (.ok ⟨.converged, 200⟩) (Duration.ofSecs 208) after ∧
        (stage (SimulatedNetwork.node 0 "node1") deployer Sample.component Sample.release).Ends
          world 0 (Sample.alone (Duration.ofMillis 57001)) (.ok ⟨some 50, 200⟩) 0 staged) ∧
      (∃ staged last after,
        (awaitActivation (SimulatedNetwork.node 0 "node1") deployer Sample.component ⟨some 50, 200⟩
          Sample.registry).Ends world 0 staged
          (.error (.query (.unsatisfied "node1" "reach block 52" restartTimeout last)))
          (Duration.ofSecs 60) after ∧
        (stage (SimulatedNetwork.node 0 "node1") deployer Sample.component Sample.release).Ends
          world 0 (Sample.alone (Duration.ofMillis 58001)) (.ok ⟨some 50, 200⟩) 0 staged) ∧
      ∃ staged,
        (stage (SimulatedNetwork.node 0 "node1") deployer Sample.component Sample.release).Ends
          world 0 (Sample.alone Backoff.clockLimit) (.ok ⟨some 50, 200⟩) 0 staged ∧
        staged.overflowed = true := by
  have rollout (downtime : Nat) := @converging_rollout (Sample.alone downtime) Sample.steady 0 0 50
    200 Sample.component Sample.release Sample.registry rfl rfl rfl rfl (by decide) (by decide)
    (by decide) rfl Sample.known (by decide)
  refine ⟨rfl, Sample.known, ?_, ?_, ?_⟩
  · obtain ⟨staged, stages, _, short, _⟩ := rollout (Duration.ofMillis 57001)
    obtain ⟨after, ends, _⟩ := short (by decide)
    exact ⟨staged, after, ends, stages⟩
  · obtain ⟨staged, stages, _, _, long⟩ := rollout (Duration.ofMillis 58001)
    obtain ⟨last, after, ends, _⟩ := long (by decide)
    exact ⟨staged, last, after, ends, stages⟩
  · obtain ⟨staged, stages, overflowed, _⟩ := rollout Backoff.clockLimit
    exact ⟨staged, stages, overflowed.trans (by decide)⟩

end Lifecycle

end UpgradeDrill
