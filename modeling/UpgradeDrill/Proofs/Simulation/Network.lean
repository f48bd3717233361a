import Mathlib.Data.List.Basic
import UpgradeDrill.Proofs.Query.Poll
import UpgradeDrill.Proofs.Simulation.Node
import UpgradeDrill.Simulation.Network

/-!
# Runs against simulated networks

How queries of one node and requests to the deployer end, and in which network. All networks on the
way are the first one with another node in one place and more requests recorded (`put`).
-/

namespace UpgradeDrill

open Attempt

namespace SimulatedNetwork

variable {net : SimulatedNetwork} {node : SimulatedNode} {calls : List DeployerCall}
  {place other now later height back : Nat} {name : String}

/-- The network with a node in a place and some requests to the deployer recorded. -/
def put (net : SimulatedNetwork) (place : Nat) (node : SimulatedNode)
    (calls : List DeployerCall) : SimulatedNetwork :=
  { net with nodes := net.nodes.set place node, calls }

lemma put_self (present : net.nodes[place]? = some node) :
    net.put place node net.calls = net := by
  obtain ⟨lt, rfl⟩ := List.getElem?_eq_some_iff.1 present
  rw [put, List.set_getElem_self]

lemma getElem?_put (lt : place < net.nodes.length) :
    (net.put place node calls).nodes[place]? = some node :=
  List.getElem?_set_self lt

lemma getElem?_put_of_ne (node : SimulatedNode) (calls : List DeployerCall) (ne : other ≠ place) :
    (net.put place node calls).nodes[other]? = net.nodes[other]? :=
  List.getElem?_set_ne ne.symm

/-- What is done to the node in a place. -/
lemma modify_put (lt : place < net.nodes.length) (f : SimulatedNode → SimulatedNode) :
    { net.put place node calls with
      nodes := (net.put place node calls).nodes.modify place f } =
      net.put place (f node) calls := by
  rw [List.modify_eq_set_getElem?, getElem?_put lt]
  simp only [put, Option.map_eq_map, Option.map_some, Option.getD_some, List.set_set]

lemma look_put (lt : place < net.nodes.length) (fits : node.overflows now = false) :
    (net.put place node calls).look now place = net.put place (node.settle now) calls := by
  rw [look, getElem?_put lt, Option.any_some, fits, Bool.or_false]
  exact modify_put lt (·.settle now)

lemma getElem?_look (present : net.nodes[place]? = some node) :
    (net.look now place).nodes[place]? = some (node.settle now) := by
  rw [look, List.getElem?_modify_eq, present]
  rfl

lemma getElem?_look_of_ne (ne : other ≠ place) :
    (net.look now place).nodes[other]? = net.nodes[other]? :=
  List.getElem?_modify_ne _ _ ne.symm

lemma ask_eq {α : Type} (present : net.nodes[place]? = some node)
    (reply : SimulatedNode → Nat → Except QueryError α) :
    net.ask now place reply =
      ((node.reachableHeight now).bind (reply (node.settle now)), net.look now place) := by
  rw [ask]
  simp only [getElem?_look present, SimulatedNode.reachableHeight_settle _ (Nat.le_refl _)]

lemma look_put_of_ne (ne : other ≠ place) :
    (net.put place node calls).look now other = (net.look now other).put place node calls := by
  simp only [look, put, List.getElem?_set_ne ne.symm]
  congr 1
  refine List.ext_getElem? fun i => ?_
  simp only [List.getElem?_modify, List.getElem?_set, List.length_modify]
  grind

/-- The place of a component depends on the names of the nodes only. -/
lemma placeOf?_eq_names (net : SimulatedNetwork) (name : String) :
    net.placeOf? name =
      (((net.nodes.map (·.name)).zipIdx.filter (·.1 = name)).map (·.2)).getLast? := by
  rw [placeOf?, List.zipIdx_map, List.filter_map, List.map_map, List.getLast?_map]
  rfl

/-- The network when a node has been taken down for a while. -/
def outlasting (net : SimulatedNetwork) (now downtime : Nat) : SimulatedNetwork :=
  { net with overflowed := net.overflowed || (NodeChange.restart downtime).outlasts now }

/-- Nothing is wrong with a restart that is over while there is a clock. -/
lemma outlasting_of_lt {downtime : Nat} (lasts : now + downtime < Backoff.clockLimit) :
    net.outlasting now downtime = net := by
  have fits : (NodeChange.restart downtime).outlasts now = false :=
    decide_eq_false (Nat.not_le.2 lasts)
  rw [outlasting, fits, Bool.or_false]

/-- Looking at a node gives no component another place. -/
lemma placeOf?_look (net : SimulatedNetwork) (now place : Nat) (name : String) :
    (net.look now place).placeOf? name = net.placeOf? name := by
  rw [placeOf?_eq_names, placeOf?_eq_names]
  have names : (net.look now place).nodes.map (·.name) = net.nodes.map (·.name) := by
    refine List.ext_getElem? fun i => ?_
    rw [List.getElem?_map, List.getElem?_map, look, List.getElem?_modify, Option.map_eq_map,
      Option.map_map]
    refine congrArg (Option.map · _) (funext fun node => ?_)
    by_cases here : place = i
    · simp only [Function.comp, if_pos here]
      rfl
    · simp only [Function.comp, if_neg here]
  rw [names]

/-- A component stands for a node with its name. -/
lemma getElem?_of_placeOf? (driven : net.placeOf? name = some place) :
    ∃ node, net.nodes[place]? = some node ∧ node.name = name := by
  obtain ⟨⟨node, place'⟩, last, rfl⟩ := Option.map_eq_some_iff.1 driven
  obtain ⟨mem, named⟩ := List.mem_filter.1 (List.mem_of_getLast? last)
  exact ⟨node, List.mk_mem_zipIdx_iff_getElem?.1 mem, of_decide_eq_true named⟩

lemma lt_of_placeOf? (driven : net.placeOf? name = some place) : place < net.nodes.length := by
  obtain ⟨_, present, _⟩ := getElem?_of_placeOf? driven
  exact (List.getElem?_eq_some_iff.1 present).1

/-- A component still stands for a place in which another node of its name is put. -/
lemma placeOf?_put (driven : net.placeOf? name = some place) (named : node.name = name) :
    (net.put place node calls).placeOf? name = some place := by
  obtain ⟨first, present, rfl⟩ := getElem?_of_placeOf? driven
  obtain ⟨lt, rfl⟩ := List.getElem?_eq_some_iff.1 present
  have names : (net.put place node calls).nodes.map (·.name) = net.nodes.map (·.name) := by
    rw [put, List.map_set, named]
    exact List.map_set.symm.trans (congrArg _ (List.set_getElem_self lt))
  rw [placeOf?_eq_names, names, ← placeOf?_eq_names, driven]

/-- A request takes no time. -/
lemma request_ends {ε : Type} {request : SimulationRequest} {reply : simulation.Reply request}
    {net' : SimulatedNetwork} (answered : net.answer now request = (reply, net')) :
    (Attempt.request (I := simulation) request : Attempt simulation ε _).Ends world now net
      (.ok reply) now net' := by
  have answer : world.answer net now request = (reply, 0, net') := by
    simp only [world, answered]
  exact ends_request answer

/-- A query of the height ends with the height that the node tells then. -/
lemma tryLastBlockHeight_look (name : String) (now : Nat)
    (present : net.nodes[place]? = some node) :
    (SimulatedNetwork.node place name).tryLastBlockHeight.Ends world now net
      (node.reachableHeight now) now (net.look now place) := by
  refine .bind (request_ends ((ask_eq present _).trans ?_)) (ends_ofExcept _)
  cases node.reachableHeight now with
  | ok height => rfl
  | error error => rfl

lemma tryLastBlockHeight_ends (name : String) (calls : List DeployerCall)
    (lt : place < net.nodes.length) (fits : node.overflows now = false) :
    (SimulatedNetwork.node place name).tryLastBlockHeight.Ends world now (net.put place node calls)
      (node.reachableHeight now) now (net.put place (node.settle now) calls) := by
  rw [← look_put lt fits]
  exact tryLastBlockHeight_look name now (getElem?_put lt)

/-- A query of the upgrades ends with what the node reports, which is counted. -/
lemma upgradesInfo_ends (lt : place < net.nodes.length)
    (running : node.reachableHeight now = .ok height) (fits : height ≤ maxUInt64) :
    (SimulatedNetwork.node place name).upgradesInfo.Ends world now (net.put place node calls)
      (.ok node.upgrades) now
      (net.put place { node.settle now with upgradesQueries := node.upgradesQueries + 1 }
        calls) := by
  have overflows := SimulatedNode.overflows_of_reachableHeight running fits
  obtain ⟨runs, _⟩ := SimulatedNode.running_of_reachableHeight running
  have answered : (net.put place node calls).answer now (.upgradesInfo place) =
      (.ok node.upgrades, net.put place
        { node.settle now with upgradesQueries := node.upgradesQueries + 1 } calls) := by
    simp only [answer, ask_eq (getElem?_put lt), running, look_put lt overflows]
    rw [modify_put lt, if_pos runs]
    rfl
  exact .bind (request_ends answered) (ends_ofExcept _)

section Deploy

variable {component : Component} {release : Release} {timeout : Nat}

/-- What a request to the deployer leaves. -/
lemma deployment_ends (call : DeployerCall) (driven : net.placeOf? call.name = some place)
    (named : node.name = call.name) {after : SimulatedNetwork}
    (done : (net.put place node (call :: calls)).deployTo now place call = after) :
    (deployment call).Ends world now (net.put place node calls) (.ok ()) now after := by
  have still : (net.put place node (call :: calls)).placeOf? call.name = some place :=
    placeOf?_put driven named
  have deployed : (net.put place node calls).deploy now call =
      (net.put place node (call :: calls)).deployTo now place call := by
    rw [deploy]
    split
    · rename_i place' found
      cases still.symm.trans found
      rfl
    · rename_i none
      cases still.symm.trans none
  rw [← done, ← deployed]
  exact request_ends rfl

lemma waitForRollout_ends (driven : net.placeOf? component.name = some place)
    (named : node.name = component.name) :
    (deployer.waitForRollout component timeout).Ends world now (net.put place node calls) (.ok ())
      now (net.put place node (.waitForRollout component.name timeout :: calls)) :=
  deployment_ends (.waitForRollout ..) driven named rfl

/-- A node is restarted at the height it stands at. -/
lemma apply_restart_put (lt : place < net.nodes.length) (fits : node.overflows now = false)
    (downtime : Nat) :
    (net.put place node calls).apply now place (.restart downtime) =
      (net.outlasting now downtime).put place
        (node.restarted ((node.settle now).status.height now) (now + downtime)) calls := by
  have settled := node.settle_settle (Nat.le_refl now)
  simp only [apply, NodeChange.looks, if_true, look_put lt fits]
  rw [getElem?_put lt, Option.isSome_some, Bool.true_and]
  simp only [put, List.modify_eq_set_getElem?, List.getElem?_set_self lt, Option.map_eq_map,
    Option.map_some, Option.getD_some, List.set_set, SimulatedNode.apply_restart, settled]
  rfl

/-- Nothing is met when a binary is replaced. -/
lemma apply_replaceBinary (net : SimulatedNetwork) (now place : Nat) :
    net.apply now place .replaceBinary =
      { net with nodes := net.nodes.modify place (·.apply now .replaceBinary) } := by
  have fits : NodeChange.replaceBinary.outlasts now = false := rfl
  simp only [apply, NodeChange.looks, Bool.false_eq_true, if_false, fits, Bool.and_false,
    Bool.or_false]

/-- A running node is restarted by an upgrade. -/
lemma upgrade_ends_of_running (node : SimulatedNode)
    (driven : net.placeOf? component.name = some place)
    (named : node.name = component.name) (running : node.reachableHeight now = .ok height)
    (fits : height ≤ maxUInt64) :
    (deployer.upgrade component release).Ends world now (net.put place node calls) (.ok ()) now
      ((net.outlasting now net.downtime).put place (node.restarted height (now + net.downtime))
        (.upgrade component.name release :: calls)) := by
  have lt := lt_of_placeOf? driven
  have overflows := SimulatedNode.overflows_of_reachableHeight running fits
  obtain ⟨runs, told, _⟩ := SimulatedNode.running_of_reachableHeight running
  have settled : (node.settle now).reachableHeight now = .ok height := by
    rw [SimulatedNode.reachableHeight_settle _ (Nat.le_refl _), running]
  refine deployment_ends (.upgrade ..) driven named ?_
  rw [deployTo]
  simp only [look_put lt overflows, getElem?_put lt, Option.any_some, runs, if_true]
  rw [apply_restart_put lt (SimulatedNode.overflows_of_reachableHeight settled fits),
    SimulatedNode.settle_settle _ (Nat.le_refl _), told]
  rfl

/-- A stopped node is not touched by an upgrade, but no longer stops at a height. -/
lemma upgrade_ends_of_crashed (driven : net.placeOf? component.name = some place)
    (named : node.name = component.name) (crashed : node.status = .crashed height) :
    (deployer.upgrade component release).Ends world now (net.put place node calls) (.ok ()) now
      (net.put place { node with crashAt := none } (.upgrade component.name release :: calls)) := by
  have lt := lt_of_placeOf? driven
  have overflows := SimulatedNode.overflows_of_crashed crashed now
  refine deployment_ends (.upgrade ..) driven named ?_
  have stopped : (node.settle now).status.isRunning = false := by
    rw [SimulatedNode.settle_of_crashed crashed, crashed]
    rfl
  rw [deployTo]
  simp only [look_put lt overflows, getElem?_put lt, Option.any_some, stopped, Bool.false_eq_true,
    if_false]
  rw [SimulatedNode.settle_of_crashed crashed, apply_replaceBinary]
  exact modify_put lt (·.apply now .replaceBinary)

lemma restart_ends_of_crashed (node : SimulatedNode)
    (driven : net.placeOf? component.name = some place)
    (named : node.name = component.name) (crashed : node.status = .crashed height)
    (lasts : now + net.downtime < Backoff.clockLimit) :
    (deployer.restart component).Ends world now (net.put place node calls) (.ok ()) now
      (net.put place (node.restarted height (now + net.downtime))
        (.restart component.name :: calls)) := by
  have lt := lt_of_placeOf? driven
  refine deployment_ends (.restart _) driven named ?_
  rw [deployTo, apply_restart_put lt (SimulatedNode.overflows_of_crashed crashed now),
    SimulatedNode.settle_of_crashed crashed, crashed]
  exact congrArg (SimulatedNetwork.put · place _ _) (outlasting_of_lt lasts)

end Deploy

section Wait

variable (node : SimulatedNode) (now : Nat)

/-- A node after a number of looks, one each second from a time on. -/
def watched : Nat → SimulatedNode
  | 0 => node
  | count + 1 => node.settle (now + count * Query.pollInterval)

variable {node now}

/-- A poll of the height sees what a node tells, second by second. -/
lemma looks_resumes (lt : place < net.nodes.length) (resumes : node.Resumes height back now)
    {count : Nat}
    (fits : height + (now + count * Query.pollInterval - back) / NodeStatus.blockTime ≤ maxUInt64) :
    Query.Looks world (SimulatedNetwork.node place name).tryLastBlockHeight
      (fun count => net.put place (watched node now count) calls)
      (fun count => node.reachableHeight (now + count * Query.pollInterval)) now
      Query.pollInterval count := by
  have le : now ≤ now + count * Query.pollInterval := Nat.le_add_right ..
  cases count with
  | zero => exact tryLastBlockHeight_ends _ _ lt (resumes.overflows le fits)
  | succ count =>
    -- What the node tells does not depend on the looks before.
    have step : now + count * Query.pollInterval ≤ now + (count + 1) * Query.pollInterval :=
      Nat.add_le_add_left (Nat.mul_le_mul_right _ (Nat.le_succ count)) now
    have earlier := resumes.settle (Nat.le_add_right now (count * Query.pollInterval))
    have ends := tryLastBlockHeight_ends name calls lt
      (earlier.overflows step fits)
    rw [SimulatedNode.reachableHeight_settle _ step,
      SimulatedNode.settle_settle _ step] at ends
    exact ends

variable {count target timeout : Nat}

/-- All looks of a poll at a node, if the last one meets no height that is too large. -/
lemma looks_of_le (lt : place < net.nodes.length) (resumes : node.Resumes height back now)
    (fits : height + (now + count * Query.pollInterval - back) / NodeStatus.blockTime ≤ maxUInt64)
    (earlier : Nat) (le : earlier ≤ count) :
    Query.Looks world (SimulatedNetwork.node place name).tryLastBlockHeight
      (fun count => net.put place (watched node now count) calls)
      (fun count => node.reachableHeight (now + count * Query.pollInterval)) now
      Query.pollInterval earlier := by
  refine looks_resumes lt resumes (Nat.le_trans (Nat.add_le_add_left ?_ height) fits)
  have passed := Nat.mul_le_mul_right Query.pollInterval le
  exact Nat.div_le_div_right (by omega)

/-- What is seen before a node has got to a height is not awaited. -/
lemma missed_of_early (resumes : node.Resumes height back now)
    (early : now + count * Query.pollInterval < back + (target - height) * Query.pollInterval) :
    Query.Missed (target ≤ ·) (node.reachableHeight (now + count * Query.pollInterval)) := by
  rw [resumes.reachableHeight (Nat.le_add_right ..)]
  unfold Query.Missed
  split
  · have short : ¬ target ≤
        height + (now + count * Query.pollInterval - back) / NodeStatus.blockTime := by
      simp only [Query.pollInterval, NodeStatus.blockTime, Duration.ofSecs] at *
      omega
    simp only [Except.toOption, Option.filter_some, decide_eq_false short, Bool.false_eq_true,
      if_false]
  · rfl

/-- A node is waited for until it is at a height, if the time for this lasts. -/
lemma waitUntilHeight_reaches (lt : place < net.nodes.length)
    (resumes : node.Resumes height back now)
    (early : ∀ earlier < count,
      now + earlier * Query.pollInterval < back + (target - height) * Query.pollInterval)
    (due : back + (target - height) * Query.pollInterval ≤ now + count * Query.pollInterval)
    (fits : height + (now + count * Query.pollInterval - back) / NodeStatus.blockTime ≤ maxUInt64)
    (starts : Query.pollInterval < timeout) (lasts : now + timeout < Backoff.clockLimit)
    (room : count * Query.pollInterval ≤ timeout) :
    ((SimulatedNetwork.node place name).waitUntilHeight target timeout).Ends world now
      (net.put place node calls)
      (.ok ⟨height + (now + count * Query.pollInterval - back) / NodeStatus.blockTime, count + 1,
        count * Query.pollInterval, timeout - count * Query.pollInterval⟩)
      (now + count * Query.pollInterval)
      (net.put place (node.settle (now + count * Query.pollInterval)) calls) := by
  have past : back ≤ now + count * Query.pollInterval := Nat.le_trans (Nat.le_add_right ..) due
  refine Query.pollUntil_satisfied (looks_of_le lt resumes fits)
    (fun earlier less => missed_of_early resumes (early earlier less)) ?_ ?_ starts lasts room
  · rw [resumes.reachableHeight (Nat.le_add_right ..), if_pos past]
  · refine decide_eq_true ?_
    simp only [Query.pollInterval, NodeStatus.blockTime, Duration.ofSecs] at *
    omega

/-- A node that does not get to a height in time is given up. -/
lemma waitUntilHeight_fails (name : String) (calls : List DeployerCall)
    (lt : place < net.nodes.length)
    (resumes : node.Resumes height back now)
    (early : now + count * Query.pollInterval < back + (target - height) * Query.pollInterval)
    (fits : height + (now + count * Query.pollInterval - back) / NodeStatus.blockTime ≤ maxUInt64)
    (starts : Query.pollInterval < timeout) (lasts : now + timeout < Backoff.clockLimit)
    (room : count * Query.pollInterval ≤ timeout)
    (full : timeout < (count + 1) * Query.pollInterval) :
    ∃ last, ((SimulatedNetwork.node place name).waitUntilHeight target timeout).Ends world now
      (net.put place node calls)
      (.error (.unsatisfied name s!"reach block {target}" timeout last))
      (now + count * Query.pollInterval)
      (net.put place (node.settle (now + count * Query.pollInterval)) calls) := by
  refine ⟨_, Query.pollUntil_unsatisfied (looks_of_le lt resumes fits) (fun earlier le => ?_) starts
    lasts room full⟩
  have passed := Nat.mul_le_mul_right Query.pollInterval le
  exact missed_of_early resumes (by omega)

end Wait

end SimulatedNetwork

end UpgradeDrill
