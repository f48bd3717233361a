import Mathlib.Tactic.Lemma
import UpgradeDrill.Simulation.Node

/-!
# Simulated nodes over time

What a node tells at a time does not depend on when it was looked at before. A node that is down
tells nothing until it is back, and from then on a height that grows by one each second (`Resumes`).
-/

namespace UpgradeDrill

/-- The seconds that a duration fills, a last one in part. -/
def Duration.ceilSecs (span : Nat) : Nat := (span + 999999999) / 1000000000

namespace NodeStatus

variable {now later : Nat}

lemma resumed_resumed (status : NodeStatus) (le : now ≤ later) :
    (status.resumed now).resumed later = status.resumed later := by
  cases status with
  | running => rfl
  | crashed => rfl
  | down height back =>
    by_cases due : back ≤ now
    · simp only [resumed, if_pos due, if_pos (Nat.le_trans due le)]
    · simp only [resumed, if_neg due]

lemma resumed_of_running {status : NodeStatus}
    (running : (status.resumed now).isRunning = true) (le : now ≤ later) :
    status.resumed later = status.resumed now := by
  rw [← resumed_resumed status le]
  cases eq : status.resumed now with
  | running => rfl
  | down | crashed => rw [eq] at running; cases running

/-- The height of a node does not go down. -/
lemma height_mono (status : NodeStatus) (le : now ≤ later) :
    status.height now ≤ status.height later := by
  cases status with
  | running base since => exact Nat.add_le_add_left (Nat.div_le_div_right (by omega)) base
  | down => exact Nat.le_refl _
  | crashed => exact Nat.le_refl _

/-- A node that is back stands no lower than it did. -/
lemma height_le_resumed (status : NodeStatus) (now : Nat) :
    status.height now ≤ (status.resumed now).height now := by
  cases status with
  | running | crashed => exact Nat.le_refl _
  | down height back =>
    by_cases due : back ≤ now
    · rw [resumed, if_pos due]
      exact Nat.le_add_right height _
    · exact Nat.le_of_eq (by rw [resumed, if_neg due])

/-- A node that has stopped would also have stopped later. -/
lemma stopped_stopped (limit : Option Nat) (status : NodeStatus) (le : now ≤ later) :
    ((status.stopped limit now).resumed later).stopped limit later =
      (status.resumed later).stopped limit later := by
  cases limit with
  | none => rfl
  | some limit =>
    by_cases due : status.isRunning ∧ limit ≤ status.height now
    · rw [show status.stopped (some limit) now = crashed limit from if_pos due]
      cases status with
      | running base since =>
        have past := Nat.le_trans due.2 (height_mono (running base since) le)
        exact (if_pos ⟨rfl, past⟩).symm
      | down => exact nomatch due.1
      | crashed => exact nomatch due.1
    · rw [show status.stopped (some limit) now = status from if_neg due]

/-- A node stops where it is, or at a height. -/
lemma stopped_cases (limit : Option Nat) (now : Nat) (status : NodeStatus) :
    status.stopped limit now = status ∨ ∃ height, status.stopped limit now = .crashed height := by
  unfold stopped
  split
  · split
    · exact .inr ⟨_, rfl⟩
    · exact .inl rfl
  · exact .inl rfl

end NodeStatus

namespace SimulatedNode

variable {node : SimulatedNode} {now later height back limit : Nat}

/-- A node that stands at a height until it is back and gains a block each second from then on, as
far as can be told at a time and later. -/
structure Resumes (node : SimulatedNode) (height back now : Nat) : Prop where
  stays : node.crashAt = none
  status : node.status = .down height back ∨ node.status = .running height back ∧ back ≤ now

lemma settle_of_stays (stays : node.crashAt = none) (now : Nat) :
    node.settle now = { node with status := node.status.resumed now } := by
  rw [settle, stays]
  rfl

/-- What is due later does not depend on what was settled before. -/
lemma settle_settle (node : SimulatedNode) (le : now ≤ later) :
    (node.settle now).settle later = node.settle later := by
  simp only [settle, NodeStatus.stopped_stopped _ _ le, NodeStatus.resumed_resumed _ le]

lemma reachableHeight_settle (node : SimulatedNode) (le : now ≤ later) :
    (node.settle now).reachableHeight later = node.reachableHeight later := by
  rw [reachableHeight, settle_settle node le, reachableHeight]

lemma settle_of_crashed (crashed : node.status = .crashed height) (now : Nat) :
    node.settle now = node := by
  obtain ⟨name, status, crashAt⟩ := node
  cases crashed
  cases crashAt <;> rfl

lemma reachableHeight_of_crashed (crashed : node.status = .crashed height) (now : Nat) :
    node.reachableHeight now = .error (.status 503) := by
  rw [reachableHeight, settle_of_crashed crashed, crashed]
  rfl

lemma overflows_of_crashed (crashed : node.status = .crashed height) (now : Nat) :
    node.overflows now = false := by
  rw [overflows, crashed]
  rfl

/-- A node that answers is running, and at the height that it tells. -/
lemma running_of_reachableHeight (running : node.reachableHeight now = .ok height) :
    (node.settle now).status.isRunning = true ∧ (node.settle now).status.height now = height ∧
      (node.settle now).status = node.status.resumed now := by
  rw [reachableHeight] at running
  split at running
  · rename_i answers
    cases running
    refine ⟨answers, rfl, ?_⟩
    rcases (node.status.resumed now).stopped_cases node.crashAt now with eq | ⟨limit, eq⟩
    · exact eq
    · rw [settle, eq] at answers
      cases answers
  · cases running

/-- A node that answers with a height has met no larger one. -/
lemma overflows_of_reachableHeight (running : node.reachableHeight now = .ok height)
    (fits : height ≤ maxUInt64) : node.overflows now = false := by
  obtain ⟨_, told, resumed⟩ := running_of_reachableHeight running
  rw [overflows, ← resumed, told, decide_eq_false (Nat.not_lt.2 fits), Bool.and_false]

/-- A node has reached its crash height, which has not been seen yet. -/
def Due (node : SimulatedNode) (now limit : Nat) : Prop :=
  node.crashAt = some limit ∧ (node.status.resumed now).isRunning = true ∧
    limit ≤ (node.status.resumed now).height now

instance (node : SimulatedNode) (now limit : Nat) : Decidable (node.Due now limit) :=
  inferInstanceAs (Decidable (_ ∧ _ ∧ _))

lemma Due.mono (due : node.Due now limit) (le : now ≤ later) : node.Due later limit := by
  obtain ⟨limited, running, reached⟩ := due
  have same := NodeStatus.resumed_of_running running le
  exact ⟨limited, same ▸ running,
    same ▸ Nat.le_trans reached (NodeStatus.height_mono _ le)⟩

/-- A crash height that was reached is no larger than the height. -/
lemma Due.le (due : node.Due now limit) (fits : node.overflows now = false) :
    limit ≤ maxUInt64 := by
  rw [overflows, due.2.1, Bool.true_and, decide_eq_false_iff_not, Nat.not_lt] at fits
  exact Nat.le_trans due.2.2 fits

lemma Due.settle (due : node.Due now limit) : (node.settle now).status = .crashed limit := by
  obtain ⟨limited, running, reached⟩ := due
  rw [SimulatedNode.settle, limited]
  exact if_pos ⟨running, reached⟩

/-- A look at a node finds out that it has stopped, or nothing new. -/
lemma settle_cases (node : SimulatedNode) (now : Nat) :
    (node.settle now).status = node.status.resumed now ∨
      ∃ limit, node.Due now limit ∧ (node.settle now).status = .crashed limit := by
  cases limited : node.crashAt with
  | none => exact .inl (by rw [settle_of_stays limited])
  | some limit =>
    by_cases due : node.Due now limit
    · exact .inr ⟨limit, due, due.settle⟩
    · refine .inl ?_
      rw [settle, limited]
      exact if_neg fun reached => due ⟨limited, reached⟩

/-- The node taken down at a height until it is back. -/
def restarted (node : SimulatedNode) (height back : Nat) : SimulatedNode :=
  { node with crashAt := none, status := .down height back }

lemma resumes_restarted (node : SimulatedNode) (height back now : Nat) :
    (node.restarted height back).Resumes height back now :=
  ⟨rfl, .inl rfl⟩

/-- A restart leaves nothing of what the node was but the height it stands at. -/
lemma apply_restart (node : SimulatedNode) (now downtime : Nat) :
    node.apply now (.restart downtime) =
      node.restarted ((node.settle now).status.height now) (now + downtime) :=
  rfl

namespace Resumes

/-- What is due is settled: the node is back or is not. -/
lemma resumed (resumes : node.Resumes height back now) (le : now ≤ later) :
    node.status.resumed later =
      if back ≤ later then .running height back else .down height back := by
  rcases resumes.status with down | ⟨running, past⟩
  · rw [down]
    rfl
  · rw [running, if_pos (Nat.le_trans past le)]
    rfl

/-- A node answers once it is back, at one block more for each second since. -/
lemma reachableHeight (resumes : node.Resumes height back now) (le : now ≤ later) :
    node.reachableHeight later =
      if back ≤ later then .ok (height + (later - back) / NodeStatus.blockTime)
      else .error (.status 503) := by
  rw [SimulatedNode.reachableHeight, settle_of_stays resumes.stays, resumes.resumed le]
  by_cases due : back ≤ later
  · rw [if_pos due, if_pos due]
    rfl
  · rw [if_neg due, if_neg due]
    rfl

lemma overflows (resumes : node.Resumes height back now) (le : now ≤ later)
    (fits : height + (later - back) / NodeStatus.blockTime ≤ maxUInt64) :
    node.overflows later = false := by
  rw [SimulatedNode.overflows, resumes.resumed le]
  by_cases due : back ≤ later
  · rw [if_pos due]
    exact decide_eq_false (Nat.not_lt.2 fits)
  · rw [if_neg due]
    rfl

lemma settle (resumes : node.Resumes height back now) (le : now ≤ later) :
    (node.settle later).Resumes height back later := by
  rw [settle_of_stays resumes.stays]
  refine ⟨resumes.stays, ?_⟩
  rw [resumes.resumed le]
  by_cases due : back ≤ later
  · exact .inr ⟨if_pos due, due⟩
  · exact .inl (if_neg due)

end Resumes

end SimulatedNode

end UpgradeDrill
