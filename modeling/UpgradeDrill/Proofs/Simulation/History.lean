import UpgradeDrill.Proofs.Simulation.Network

/-!
# Histories of simulated networks

What happens at a simulated network: time passes, nodes are looked at and requests are answered.
Whatever happens does one thing to each node (`Touch`), and nothing else happens to the nodes
(`Moment.nodes_after`). A height that is too large is met where a node is looked at, and a time that
no clock reads where one is taken down for too long (`Moment.overflowed_after`). So what one touch
and the passing of time keep, a history keeps (`Moment.Along.keeps`).
-/

namespace UpgradeDrill

/-- What can be done to a node. -/
inductive Touch where
  | leave
  | look
  /-- Looks at the node, and counts this if it runs. -/
  | count
  | change (change : NodeChange)
  /-- Takes the node down for a while if it runs, and replaces its binary if not. -/
  | upgrade (downtime : Nat)

/-- Whether the node is looked at. -/
def Touch.looks : Touch → Bool
  | .leave => false
  | .look | .count | .upgrade _ => true
  | .change kind => kind.looks

/-- Whether the node is taken down, running or not. -/
def Touch.restarts : Touch → Bool
  | .change (.restart _) => true
  | _ => false

/-- How long the node is taken down for. -/
def Touch.downtime? (running : Bool) : Touch → Option Nat
  | .change (.restart downtime) => some downtime
  | .upgrade downtime => if running then some downtime else none
  | _ => none

/-- What a request to the deployer does to the node that the component stands for. -/
def DeployerCall.touch (downtime : Nat) : DeployerCall → Touch
  | install .. | restart _ => .change (.restart downtime)
  | upgrade .. => .upgrade downtime
  | waitForRollout .. => .leave

namespace SimulatedNode

def counted (node : SimulatedNode) : SimulatedNode :=
  if node.status.isRunning then { node with upgradesQueries := node.upgradesQueries + 1 } else node

/-- The node after something was done to it. -/
def undergo (node : SimulatedNode) (now : Nat) : Touch → SimulatedNode
  | .leave => node
  | .look => node.settle now
  | .count => (node.settle now).counted
  | .change change => node.apply now change
  | .upgrade downtime =>
    if (node.settle now).status.isRunning then node.apply now (.restart downtime)
    else (node.settle now).apply now .replaceBinary

/-- Whether a node is taken down until a time that no clock reads. -/
def outlasts (node : SimulatedNode) (now : Nat) (touch : Touch) : Bool :=
  (touch.downtime? (node.settle now).status.isRunning).any (Backoff.clockLimit ≤ now + ·)

/-- Whether a height is met that 64 bits cannot hold, or a time that no clock reads. -/
def exceeds (node : SimulatedNode) (now : Nat) (touch : Touch) : Bool :=
  touch.looks && node.overflows now || node.outlasts now touch

variable {node : SimulatedNode} {now : Nat} {touch : Touch}

lemma exceeds_look (node : SimulatedNode) (now : Nat) :
    node.exceeds now .look = node.overflows now :=
  Bool.or_false _

lemma exceeds_count (node : SimulatedNode) (now : Nat) :
    node.exceeds now .count = node.overflows now :=
  Bool.or_false _

lemma outlasts_change (node : SimulatedNode) (now : Nat) (change : NodeChange) :
    node.outlasts now (.change change) = change.outlasts now := by
  cases change <;> rfl

/-- Whoever does not look at a node meets nothing. -/
lemma exceeds_of_unseen (unseen : touch.looks = false) : node.exceeds now touch = false := by
  cases touch with
  | leave => rfl
  | look | count | upgrade => cases unseen
  | change kind => cases kind <;> first | rfl | cases unseen

lemma exceeds_of_overflows (looks : touch.looks = true) (overflows : node.overflows now = true) :
    node.exceeds now touch = true := by
  rw [exceeds, looks, overflows]
  rfl

lemma outlasts_settle (node : SimulatedNode) (now : Nat) (touch : Touch) :
    (node.settle now).outlasts now touch = node.outlasts now touch := by
  rw [outlasts, settle_settle node (Nat.le_refl now), outlasts]

lemma apply_settle {change : NodeChange} (looks : change.looks = true) :
    (node.settle now).apply now change = node.apply now change := by
  cases change with
  | crash | restart => simp only [apply, settle_settle node (Nat.le_refl now)]
  | _ => cases looks

/-- Whoever looks at a node first sees what was due, settled before or not. -/
lemma undergo_settle (looks : touch.looks = true) :
    (node.settle now).undergo now touch = node.undergo now touch := by
  have again := settle_settle node (Nat.le_refl now)
  cases touch with
  | leave => cases looks
  | look => exact again
  | count => simp only [undergo, again]
  | change change => exact apply_settle looks
  | upgrade downtime =>
    have restarted : (NodeChange.restart downtime).looks = true := rfl
    simp only [undergo, again, apply_settle restarted]

lemma name_undergo (node : SimulatedNode) (now : Nat) (touch : Touch) :
    (node.undergo now touch).name = node.name := by
  cases touch with
  | leave | look => rfl
  | count =>
    simp only [undergo, counted]
    split <;> rfl
  | change change => cases change <;> rfl
  | upgrade downtime =>
    simp only [undergo]
    split <;> rfl

/-- A node that has stopped stays where it is until it is restarted. -/
lemma undergo_of_crashed {height : Nat} (crashed : node.status = .crashed height)
    (stays : touch.restarts = false) : (node.undergo now touch).status = .crashed height := by
  have settled := settle_of_crashed crashed now
  cases touch with
  | leave => exact crashed
  | look => rw [undergo, settled, crashed]
  | count => simp [undergo, counted, settled, crashed, NodeStatus.isRunning]
  | change kind =>
    cases kind with
    | restart => cases stays
    | crash => simp [undergo, apply, settled, crashed, NodeStatus.height]
    | _ => exact crashed
  | upgrade => simp [undergo, apply, settled, crashed, NodeStatus.isRunning]

lemma overflows_settle (met : (node.settle now).overflows now = true) :
    node.overflows now = true := by
  rcases (node.status.resumed now).stopped_cases node.crashAt now with same | ⟨limit, stopped⟩
  · simpa only [overflows, settle, same, NodeStatus.resumed_resumed _ (Nat.le_refl now)] using met
  · rw [overflows_of_crashed stopped] at met
    cases met

/-- After a look all that can be met is the end of the clock. -/
lemma overflows_or_exceeds (node : SimulatedNode) (now : Nat) (touch : Touch) :
    (node.overflows now || (node.settle now).exceeds now touch) =
      (node.overflows now || node.outlasts now touch) := by
  have once := @overflows_settle node now
  rw [exceeds, outlasts_settle]
  cases settled : (node.settle now).overflows now with
  | false => rw [Bool.and_false, Bool.false_or]
  | true =>
    rw [once settled]
    rfl

end SimulatedNode

namespace SimulatedNetwork

variable {net : SimulatedNetwork} {now place : Nat}

/-- The place of the node that a request is about. -/
def place? (net : SimulatedNetwork) : SimulationRequest → Option Nat
  | .height place | .appVersion place | .genesisAppVersion place
  | .voteExtensionsEnableHeight place | .block place _ | .upgradesInfo place | .change place _ =>
    some place
  | .deploy call => net.placeOf? call.name

/-- What a request does to the node that it is about. -/
def touch (net : SimulatedNetwork) : SimulationRequest → Touch
  | .height _ | .appVersion _ | .genesisAppVersion _ | .voteExtensionsEnableHeight _
  | .block _ _ => .look
  | .upgradesInfo _ => .count
  | .change _ change => .change change
  | .deploy call => call.touch net.downtime

/-- The network after something was done to the node in a place. -/
def undergo (net : SimulatedNetwork) (now place : Nat) (touch : Touch) : SimulatedNetwork :=
  { net with
    nodes := net.nodes.modify place (·.undergo now touch)
    overflowed := net.overflowed || (net.nodes[place]?).any (·.exceeds now touch) }

lemma undergo_leave (net : SimulatedNetwork) (now place : Nat) :
    net.undergo now place .leave = net := by
  have left : net.nodes.modify place (·.undergo now .leave) = net.nodes := List.modify_id place _
  have unmet : (net.nodes[place]?).any (·.exceeds now .leave) = false := by
    cases net.nodes[place]? <;> rfl
  simp only [undergo, left, unmet, Bool.or_false]

lemma look_eq_undergo (net : SimulatedNetwork) (now place : Nat) :
    net.look now place = net.undergo now place .look := by
  simp only [look, undergo, SimulatedNode.exceeds_look]
  rfl

lemma ask_net {α : Type} (reply : SimulatedNode → Nat → Except QueryError α) :
    (net.ask now place reply).2 = net.look now place := by
  rw [ask]
  cases (net.look now place).nodes[place]? <;> rfl

/-- A look settles what is due at the node in a place, if there is one. -/
lemma nodes_look (net : SimulatedNetwork) (now place : Nat) :
    (net.look now place).nodes[place]? = (net.nodes[place]?).map (·.settle now) :=
  List.getElem?_modify_eq ..

/-- What is done to a place depends on the node that is there only. -/
lemma modify_congr {f g : SimulatedNode → SimulatedNode}
    (same : ∀ node, net.nodes[place]? = some node → f node = g node) :
    net.nodes.modify place f = net.nodes.modify place g := by
  simp only [List.modify_eq_set_getElem?]
  cases present : net.nodes[place]? with
  | none => rfl
  | some node => simp only [Option.map_eq_map, Option.map_some, same node present]

lemma modify_look {touch : Touch} (looks : touch.looks = true) :
    (net.look now place).nodes.modify place (·.undergo now touch) =
      net.nodes.modify place (·.undergo now touch) := by
  rw [look, List.modify_modify_eq]
  exact congrArg (net.nodes.modify place) (funext fun _ => SimulatedNode.undergo_settle looks)

/-- A second look at a node meets nothing new but the end of the clock. -/
lemma overflowed_look_undergo (net : SimulatedNetwork) (now place : Nat) (touch : Touch) :
    ((net.look now place).undergo now place touch).overflowed =
      ((net.look now place).overflowed || (net.nodes[place]?).any (·.outlasts now touch)) := by
  rw [undergo]
  cases present : net.nodes[place]? with
  | none => simp [look, present]
  | some node =>
    have met := node.overflows_or_exceeds now touch
    rw [getElem?_look present]
    simp only [look, present, Option.any_some, Bool.or_assoc, met]

/-- Whoever looks at a node can as well do so once more before. -/
lemma look_undergo {touch : Touch} (looks : touch.looks = true) :
    (net.look now place).undergo now place touch = net.undergo now place touch := by
  have overflowed : ((net.look now place).undergo now place touch).overflowed =
      (net.undergo now place touch).overflowed := by
    rw [overflowed_look_undergo, undergo]
    cases present : net.nodes[place]? with
    | none => simp [look, present]
    | some node => simp [look, present, SimulatedNode.exceeds, looks, Bool.or_assoc]
  have nodes := @modify_look net now place touch looks
  simp only [undergo] at overflowed ⊢
  rw [overflowed, nodes]
  rfl

lemma settle_of_look {node : SimulatedNode}
    (present : (net.look now place).nodes[place]? = some node) : node.settle now = node := by
  rw [nodes_look] at present
  obtain ⟨node, -, rfl⟩ := Option.map_eq_some_iff.1 present
  exact SimulatedNode.settle_settle node (Nat.le_refl now)

/-- After a look it does not matter whether there is another one. -/
lemma undergo_congr {touch touch' : Touch}
    (same : ∀ node, (net.look now place).nodes[place]? = some node → node.settle now = node →
      node.undergo now touch = node.undergo now touch' ∧
        node.outlasts now touch = node.outlasts now touch') :
    (net.look now place).undergo now place touch =
      (net.look now place).undergo now place touch' := by
  have overflowed : ((net.look now place).undergo now place touch).overflowed =
      ((net.look now place).undergo now place touch').overflowed := by
    rw [overflowed_look_undergo, overflowed_look_undergo]
    cases present : net.nodes[place]? with
    | none => rfl
    | some node =>
      have looked := @getElem?_look _ _ _ now present
      have out := (same _ looked (settle_of_look looked)).2
      rw [SimulatedNode.outlasts_settle, SimulatedNode.outlasts_settle] at out
      rw [Option.any_some, Option.any_some, out]
  have nodes := modify_congr fun node present => (same node present (settle_of_look present)).1
  simp only [undergo] at overflowed ⊢
  rw [overflowed, nodes]

lemma apply_eq_undergo (net : SimulatedNetwork) (now place : Nat) (change : NodeChange) :
    net.apply now place change = net.undergo now place (.change change) := by
  cases looks : change.looks with
  | false =>
    have met : ((net.nodes[place]?).isSome && change.outlasts now) =
        (net.nodes[place]?).any (·.exceeds now (.change change)) := by
      cases net.nodes[place]? <;>
        simp [SimulatedNode.exceeds, Touch.looks, looks, SimulatedNode.outlasts_change]
    simp only [apply, looks, Bool.false_eq_true, if_false, met]
    rfl
  | true =>
    have met : (((net.look now place).nodes[place]?).isSome && change.outlasts now) =
        (net.nodes[place]?).any (·.outlasts now (.change change)) := by
      rw [nodes_look]
      cases net.nodes[place]? <;> simp [SimulatedNode.outlasts_change]
    have overflowed := overflowed_look_undergo net now place (.change change)
    rw [← look_undergo (show (Touch.change change).looks = true from looks)]
    simp only [undergo] at overflowed ⊢
    simp only [apply, looks, if_true, met, overflowed]
    rfl

lemma deployTo_eq_undergo (net : SimulatedNetwork) (now place : Nat) (call : DeployerCall) :
    net.deployTo now place call = net.undergo now place (call.touch net.downtime) := by
  cases call with
  | install | restart => exact apply_eq_undergo net now place _
  | waitForRollout => exact (undergo_leave net now place).symm
  | upgrade name release =>
    have looks : (Touch.upgrade net.downtime).looks = true := rfl
    simp only [deployTo, DeployerCall.touch, apply_eq_undergo]
    rw [← look_undergo looks]
    cases running : ((net.look now place).nodes[place]?).any (·.status.isRunning) with
    | true =>
      refine undergo_congr fun node present settled => ?_
      rw [present, Option.any_some] at running
      constructor
      · exact (if_pos (by rw [settled, running])).symm
      · rw [SimulatedNode.outlasts, SimulatedNode.outlasts, settled, running]
        rfl
    | false =>
      refine undergo_congr fun node present settled => ?_
      rw [present, Option.any_some] at running
      constructor
      · rw [SimulatedNode.undergo, SimulatedNode.undergo, settled, running]
        rfl
      · rw [SimulatedNode.outlasts, SimulatedNode.outlasts, settled, running]
        rfl

/-- A request does something to the node that it is about, and may be recorded. -/
lemma answer_net (net : SimulatedNetwork) (now : Nat) (request : SimulationRequest) :
    ∃ calls, (net.answer now request).2 =
      { (match net.place? request with
          | some place => net.undergo now place (net.touch request)
          | none => net) with calls } := by
  cases request with
  | height place | appVersion place | genesisAppVersion place | voteExtensionsEnableHeight place
  | block place =>
    exact ⟨net.calls, (ask_net _).trans (net.look_eq_undergo now place)⟩
  | upgradesInfo place =>
    have nodes : (net.look now place).nodes.modify place SimulatedNode.counted =
        net.nodes.modify place (·.undergo now .count) := by
      rw [look, List.modify_modify_eq]
      rfl
    refine ⟨net.calls, ?_⟩
    simp only [answer, ask_net, place?, touch, undergo, SimulatedNode.exceeds_count, ← nodes]
    rfl
  | change place change => exact ⟨net.calls, apply_eq_undergo net now place change⟩
  | deploy call =>
    refine ⟨call :: net.calls, ?_⟩
    have placed : ({ net with calls := call :: net.calls } : SimulatedNetwork).placeOf? call.name =
      net.placeOf? call.name := rfl
    simp only [answer, deploy, placed, place?]
    cases net.placeOf? call.name with
    | none => rfl
    | some place => exact deployTo_eq_undergo _ now place call

lemma getElem?_undergo (net : SimulatedNetwork) (now place other : Nat) (touch : Touch) :
    (net.undergo now place touch).nodes[other]? =
      (net.nodes[other]?).map (·.undergo now (if place = other then touch else .leave)) := by
  rw [undergo, List.getElem?_modify, Option.map_eq_map]
  refine congrArg (Option.map · _) (funext fun node => ?_)
  by_cases here : place = other
  · rw [if_pos here, if_pos here]
  · rw [if_neg here, if_neg here]
    rfl

lemma names_undergo (net : SimulatedNetwork) (now place : Nat) (touch : Touch) :
    (net.undergo now place touch).nodes.map (·.name) = net.nodes.map (·.name) := by
  refine List.ext_getElem? fun other => ?_
  simp only [undergo, List.getElem?_map, List.getElem?_modify, Option.map_eq_map, Option.map_map]
  refine congrArg (Option.map · _) (funext fun node => ?_)
  by_cases here : place = other
  · simp only [Function.comp, if_pos here, SimulatedNode.name_undergo]
  · simp only [Function.comp, if_neg here]

end SimulatedNetwork

/-- What happens at a simulated network. -/
inductive SimulationEvent where
  | pass (span : Nat)
  /-- Someone asks whether a node runs. -/
  | look (place : Nat)
  | ask (request : SimulationRequest)

/-- A simulated network at a time. -/
structure Moment where
  now : Nat
  net : SimulatedNetwork

namespace Moment

variable {m : Moment} {place : Nat} {event : SimulationEvent} {events : List SimulationEvent}

/-- A network with one node, at the start. -/
def single (height : Nat) : Moment :=
  ⟨0, { nodes := [.start "node0" height], downtime := Duration.ofSecs 5 }⟩

def after (m : Moment) : SimulationEvent → Moment
  | .pass span => { m with now := m.now + span }
  | .look place => { m with net := m.net.look m.now place }
  | .ask request => { m with net := (m.net.answer m.now request).2 }

def run (m : Moment) (events : List SimulationEvent) : Moment := events.foldl after m

/-- What an event does to the node in a place. -/
def touch (m : Moment) (place : Nat) : SimulationEvent → Touch
  | .pass _ => .leave
  | .look other => if other = place then .look else .leave
  | .ask request => if m.net.place? request = some place then m.net.touch request else .leave

/-- The reply to a request. -/
def reply (m : Moment) (request : SimulationRequest) : simulation.Reply request :=
  (m.net.answer m.now request).1

/-- The height that the node in a place tells. -/
def told (m : Moment) (place : Nat) : Except QueryError Nat := m.reply (.height place)

lemma told_eq {node : SimulatedNode} (present : m.net.nodes[place]? = some node) :
    m.told place = node.reachableHeight m.now := by
  rw [told, reply, SimulatedNetwork.answer, SimulatedNetwork.ask_eq present]
  cases node.reachableHeight m.now <;> rfl

/-- A height is told by a node that is there. -/
lemma present_of_told {height : Nat} (told : m.told place = .ok height) :
    ∃ node, m.net.nodes[place]? = some node ∧ node.reachableHeight m.now = .ok height := by
  cases present : m.net.nodes[place]? with
  | none =>
    rw [Moment.told, reply, SimulatedNetwork.answer, SimulatedNetwork.ask] at told
    simp [SimulatedNetwork.nodes_look, present] at told
  | some node => exact ⟨node, rfl, (told_eq present).symm.trans told⟩

/-- What happens is that one node undergoes something, and that a request may be recorded. -/
lemma net_after (m : Moment) (event : SimulationEvent) :
    ∃ place touch calls, (m.after event).net = { m.net.undergo m.now place touch with calls } ∧
      ∀ other, m.touch other event = if place = other then touch else .leave := by
  have left : m.net = { m.net.undergo m.now 0 .leave with calls := m.net.calls } := by
    rw [SimulatedNetwork.undergo_leave]
  cases event with
  | pass span => exact ⟨0, .leave, m.net.calls, left, fun _ => (ite_self _).symm⟩
  | look place =>
    exact ⟨place, .look, m.net.calls, m.net.look_eq_undergo m.now place, fun _ => rfl⟩
  | ask request =>
    obtain ⟨calls, answered⟩ := m.net.answer_net m.now request
    simp only [after, answered, touch]
    cases m.net.place? request with
    | none =>
      refine ⟨0, .leave, calls, ?_, fun _ => (ite_self _).symm⟩
      rw [SimulatedNetwork.undergo_leave]
    | some place => exact ⟨place, _, calls, rfl, fun _ => by simp only [Option.some.injEq]⟩

/-- Every node undergoes what the event does to it. -/
lemma nodes_after (m : Moment) (place : Nat) (event : SimulationEvent) :
    (m.after event).net.nodes[place]? =
      (m.net.nodes[place]?).map (·.undergo m.now (m.touch place event)) := by
  obtain ⟨target, touch, calls, after, touched⟩ := m.net_after event
  rw [after, touched]
  exact m.net.getElem?_undergo m.now target place touch

/-- A height that is too large, or a time that no clock reads, is met at some node. -/
lemma overflowed_after (m : Moment) (event : SimulationEvent) :
    (m.after event).net.overflowed = true ↔ m.net.overflowed = true ∨
      ∃ (place : Nat) (node : SimulatedNode), m.net.nodes[place]? = some node ∧
        node.exceeds m.now (m.touch place event) = true := by
  obtain ⟨target, touch, calls, after, touched⟩ := m.net_after event
  rw [after, SimulatedNetwork.undergo, Bool.or_eq_true, Option.any_eq_true]
  refine or_congr_right ⟨?_, ?_⟩
  · rintro ⟨node, present, exceeds⟩
    exact ⟨target, node, present, by rw [touched, if_pos rfl, exceeds]⟩
  · rintro ⟨place, node, present, exceeds⟩
    rw [touched] at exceeds
    by_cases here : target = place
    · rw [if_pos here] at exceeds
      exact ⟨node, here ▸ present, exceeds⟩
    · rw [if_neg here] at exceeds
      cases exceeds

/-- What does something to one node does nothing to the others, and takes no time. -/
lemma touch_only (touched : m.touch place event ≠ .leave) :
    (∀ other ≠ place, m.touch other event = .leave) ∧ (m.after event).now = m.now := by
  obtain ⟨target, touch, calls, -, does⟩ := m.net_after event
  constructor
  · intro other ne
    rw [does] at touched ⊢
    split at touched
    · rename_i here
      exact if_neg fun there => ne (there.symm.trans here)
    · exact absurd rfl touched
  · cases event with
    | pass => exact absurd rfl touched
    | look | ask => rfl

lemma now_le_after (m : Moment) (event : SimulationEvent) : m.now ≤ (m.after event).now := by
  cases event with
  | pass span => exact Nat.le_add_right m.now span
  | look | ask => exact Nat.le_refl m.now

/-- What an event does to which node stays the same. -/
lemma touch_after (m : Moment) (place : Nat) (event next : SimulationEvent) :
    (m.after event).touch place next = m.touch place next := by
  obtain ⟨target, touch, calls, after, -⟩ := m.net_after event
  have names := m.net.names_undergo m.now target touch
  have placed (name : String) : (m.after event).net.placeOf? name = m.net.placeOf? name := by
    rw [after, SimulatedNetwork.placeOf?_eq_names, SimulatedNetwork.placeOf?_eq_names, ← names]
  cases next with
  | pass | look => rfl
  | ask request =>
    have about : (m.after event).net.place? request = m.net.place? request := by
      cases request with
      | deploy call => exact placed call.name
      | _ => rfl
    have does : (m.after event).net.touch request = m.net.touch request := by
      rw [after]
      cases request <;> rfl
    rw [Moment.touch, Moment.touch, about, does]

/-- Something holds whenever something happens. -/
def Along (P : Moment → SimulationEvent → Prop) : Moment → List SimulationEvent → Prop
  | _, [] => True
  | m, event :: events => P m event ∧ Along P (m.after event) events

/-- What each event keeps is kept by a history. -/
lemma Along.keeps {P : Moment → SimulationEvent → Prop} {Q : Moment → Prop}
    (step : ∀ m event, P m event → Q m → Q (m.after event)) :
    ∀ {events : List SimulationEvent} {m : Moment}, Along P m events → Q m → Q (m.run events)
  | [], _, _, holds => holds
  | _ :: _, _, ⟨first, rest⟩, holds => rest.keeps step (step _ _ first holds)

/-- What each event keeps of the node in a place is kept by a history. -/
lemma Along.keeps_node {P : Moment → SimulationEvent → Prop} {Q : Nat → SimulatedNode → Prop}
    {node : SimulatedNode} (along : Along P m events) (present : m.net.nodes[place]? = some node)
    (holds : Q m.now node)
    (step : ∀ (m : Moment) (event : SimulationEvent) (node : SimulatedNode), P m event →
      m.net.nodes[place]? = some node → Q m.now node →
      Q (m.after event).now (node.undergo m.now (m.touch place event))) :
    ∃ found, (m.run events).net.nodes[place]? = some found ∧ Q (m.run events).now found := by
  refine along.keeps (Q := fun m => ∃ found, m.net.nodes[place]? = some found ∧ Q m.now found)
    (fun m event allowed kept => ?_) ⟨node, present, holds⟩
  obtain ⟨found, present, holds⟩ := kept
  exact ⟨_, by rw [nodes_after, present]; rfl, step m event found allowed present holds⟩

end Moment

end UpgradeDrill
