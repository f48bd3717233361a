import UpgradeDrill.Proofs.Simulation.History

/-!
# Reads of simulated nodes

A node stops when it reaches its crash height, but only a look at it tells that it has
(`SimulatedNode.Due`). Two moments that differ by reads of a node differ by how much of the node is
settled (`Ahead`), and every event keeps this, unless it makes the node forget a crash that is due.
So reads can be put into a history without changing what is told later, up to the first event of
this kind; and there they can not (`Moment.crash_due_unobserved`).
-/

namespace UpgradeDrill

/-- Whether something done to a node without a look at it makes the node forget a crash height. -/
def Touch.forgets (limit : Nat) : Touch → Bool
  | .change .replaceBinary => true
  | .change (.crashAt height) => height ≠ limit
  | _ => false

/-- A node forgets its crash height where it is neither looked at nor restarted. -/
lemma Touch.of_forgets {limit : Nat} {touch : Touch} (forgets : touch.forgets limit = true) :
    touch.looks = false ∧ touch.restarts = false := by
  cases touch with
  | change kind => cases kind <;> first | exact ⟨rfl, rfl⟩ | cases forgets
  | _ => cases forgets

namespace SimulatedNode

variable {node a b : SimulatedNode} {now later limit : Nat} {touch : Touch}

/-- Without a look a node keeps its status. -/
lemma status_undergo (unseen : touch.looks = false) :
    (node.undergo now touch).status = node.status := by
  cases touch with
  | leave => rfl
  | look | count | upgrade => cases unseen
  | change kind => cases kind <;> first | rfl | cases unseen

/-- What is done without a look does not depend on the status. -/
lemma undergo_status (status : NodeStatus) (unseen : touch.looks = false) :
    ({ node with status } : SimulatedNode).undergo now touch =
      { node.undergo now touch with status } := by
  cases touch with
  | leave => rfl
  | look | count | upgrade => cases unseen
  | change kind => cases kind <;> first | rfl | cases unseen

/-- A crash that is due stays due until it is seen or forgotten. -/
lemma Due.undergo (due : node.Due now limit) (unseen : touch.looks = false)
    (keeps : touch.forgets limit = false) : (node.undergo now touch).Due now limit := by
  refine ⟨?_, by rw [status_undergo unseen]; exact due.2⟩
  cases touch with
  | leave => exact due.1
  | look | count | upgrade => cases unseen
  | change kind =>
    cases kind with
    | crashAt height => exact congrArg some (by simpa [Touch.forgets] using keeps)
    | crash | restart => cases unseen
    | replaceBinary => cases keeps
    | _ => exact due.1

lemma overflows_mono (exceeds : node.overflows now = true) (le : now ≤ later) :
    node.overflows later = true := by
  simp only [overflows, Bool.and_eq_true, decide_eq_true_eq] at exceeds ⊢
  rw [NodeStatus.resumed_of_running exceeds.1 le]
  exact ⟨exceeds.1, Nat.lt_of_lt_of_le exceeds.2 (NodeStatus.height_mono _ le)⟩

/-- A node has stopped at a height, whether this has been seen or not. -/
def Stopped (node : SimulatedNode) (now limit : Nat) : Prop :=
  node.status = .crashed limit ∨ node.Due now limit

namespace Stopped

lemma mono (stopped : node.Stopped now limit) (le : now ≤ later) : node.Stopped later limit :=
  stopped.imp_right (·.mono le)

lemma settle (stopped : node.Stopped now limit) : (node.settle now).status = .crashed limit := by
  rcases stopped with crashed | due
  · rw [settle_of_crashed crashed, crashed]
  · exact due.settle

lemma undergo (stopped : node.Stopped now limit) (stays : touch.restarts = false)
    (keeps : ∀ limit, node.Due now limit → touch.forgets limit = false) :
    (node.undergo now touch).Stopped now limit := by
  cases looks : touch.looks with
  | true =>
    rw [← undergo_settle looks]
    exact .inl (undergo_of_crashed stopped.settle stays)
  | false =>
    rcases stopped with crashed | due
    · exact .inl (by rw [status_undergo looks, crashed])
    · exact .inr (due.undergo looks (keeps limit due))

end Stopped

/-- What is forgotten shows: the node runs on, or has stopped at another height. -/
lemma Due.forgotten (due : node.Due now limit) (forgets : touch.forgets limit = true) :
    (∃ height, (node.undergo now touch).reachableHeight now = .ok height) ∨
      ∃ other ≠ limit, (node.undergo now touch).Due now other := by
  by_cases other : ∃ other, (node.undergo now touch).Due now other
  · obtain ⟨other, again⟩ := other
    refine .inr ⟨other, ?_, again⟩
    cases touch with
    | change kind =>
      cases kind with
      | crashAt height =>
        cases again.1
        exact of_decide_eq_true forgets
      | replaceBinary => cases again.1
      | _ => cases forgets
    | _ => cases forgets
  · -- Nothing is due any more, so that the node answers.
    have unseen := (Touch.of_forgets forgets).1
    rcases (node.undergo now touch).settle_cases now with same | ⟨next, again, -⟩
    · rw [status_undergo unseen] at same
      exact .inl ⟨_, if_pos (by rw [same, due.2.1])⟩
    · exact absurd ⟨next, again⟩ other

/-- The second node is the first one with no less of it settled. -/
structure Ahead (now : Nat) (a b : SimulatedNode) : Prop where
  same : b = { a with status := b.status }
  status : b.status.resumed now = a.status.resumed now ∨
    ∃ limit, a.Due now limit ∧ b.status = .crashed limit

namespace Ahead

lemma refl (now : Nat) (a : SimulatedNode) : Ahead now a a := ⟨rfl, .inl rfl⟩

lemma mono (ahead : Ahead now a b) (le : now ≤ later) : Ahead later a b := by
  refine ⟨ahead.same, ?_⟩
  rcases ahead.status with same | ⟨limit, due, crashed⟩
  · refine .inl ?_
    rw [← NodeStatus.resumed_resumed b.status le, same, NodeStatus.resumed_resumed _ le]
  · exact .inr ⟨limit, due.mono le, crashed⟩

/-- A look finds the same. -/
lemma settle (ahead : Ahead now a b) : b.settle now = a.settle now := by
  have status : (b.settle now).status = (a.settle now).status := by
    rcases ahead.status with same | ⟨limit, due, crashed⟩
    · rw [ahead.same]
      simp only [SimulatedNode.settle, same]
    · rw [due.settle, settle_of_crashed crashed, crashed]
  rw [ahead.same] at status ⊢
  simp only [SimulatedNode.settle] at status ⊢
  rw [status]

lemma look (ahead : Ahead now a b) : Ahead now a (b.settle now) := by
  rw [ahead.settle]
  refine ⟨rfl, ?_⟩
  rcases a.settle_cases now with same | ⟨limit, due, crashed⟩
  · rw [same, NodeStatus.resumed_resumed _ (Nat.le_refl now)]
    exact .inl rfl
  · exact .inr ⟨limit, due, crashed⟩

lemma overflows (ahead : Ahead now a b) (exceeds : b.overflows now = true) :
    a.overflows now = true := by
  rcases ahead.status with same | ⟨limit, due, crashed⟩
  · simpa only [SimulatedNode.overflows, same] using exceeds
  · rw [overflows_of_crashed crashed] at exceeds
    cases exceeds

/-- What the second node meets the first one meets too. -/
lemma exceeds (ahead : Ahead now a b) (met : b.exceeds now touch = true) :
    a.exceeds now touch = true := by
  have same : b.outlasts now touch = a.outlasts now touch := by
    rw [outlasts, ahead.settle, outlasts]
  simp only [SimulatedNode.exceeds, same, Bool.or_eq_true, Bool.and_eq_true] at met ⊢
  exact met.imp_left (And.imp_right ahead.overflows)

/-- Two nodes that differ by a crash that is due undergo the same, unless it is forgotten. -/
lemma undergo (ahead : Ahead now a b)
    (keeps : ∀ limit, a.Due now limit → touch.forgets limit = false) :
    Ahead now (a.undergo now touch) (b.undergo now touch) := by
  cases looks : touch.looks with
  | true =>
    have same : a.undergo now touch = b.undergo now touch := by
      rw [← undergo_settle looks, ← ahead.settle, undergo_settle looks]
    rw [same]
    exact refl now _
  | false =>
    obtain ⟨same, status⟩ := ahead
    generalize b.status = settled at same status
    subst same
    rw [undergo_status settled looks]
    refine ⟨rfl, ?_⟩
    rcases status with same | ⟨limit, due, crashed⟩
    · exact .inl (by rw [status_undergo looks, same])
    · exact .inr ⟨limit, due.undergo looks (keeps limit due), crashed⟩

end Ahead

end SimulatedNode

/-- The place of the node that is asked something. -/
def SimulationRequest.asked? : SimulationRequest → Option Nat
  | .height place | .appVersion place | .genesisAppVersion place
  | .voteExtensionsEnableHeight place | .block place _ | .upgradesInfo place => some place
  | .change .. | .deploy _ => none

lemma SimulatedNetwork.ask_congr {α : Type} {net net' : SimulatedNetwork} {now place : Nat}
    (same : (net'.nodes[place]?).map (·.settle now) = (net.nodes[place]?).map (·.settle now))
    (reply : SimulatedNode → Nat → Except QueryError α) :
    (net'.ask now place reply).1 = (net.ask now place reply).1 := by
  simp only [ask, nodes_look, same]
  cases (net.nodes[place]?).map (·.settle now) <;> rfl

namespace SimulationRequest

variable {request : SimulationRequest} {place : Nat}

/-- Whoever asks a node something looks at it, and at no other one. -/
lemma touch_of_asked (asked : request.asked? = some place) (m : Moment) :
    ∃ touch : Touch, touch.looks = true ∧
      ∀ other, m.touch other (.ask request) = if place = other then touch else .leave := by
  cases request with
  | change | deploy => cases asked
  | height | appVersion | genesisAppVersion | voteExtensionsEnableHeight | block =>
    cases asked
    exact ⟨.look, rfl, fun _ => by
      simp only [Moment.touch, SimulatedNetwork.place?, SimulatedNetwork.touch, Option.some.injEq]⟩
  | upgradesInfo =>
    cases asked
    exact ⟨.count, rfl, fun _ => by
      simp only [Moment.touch, SimulatedNetwork.place?, SimulatedNetwork.touch, Option.some.injEq]⟩

/-- What is told of a node is told of the node with everything settled that is due. -/
lemma reply_congr (asked : request.asked? = some place) {m m' : Moment} (now : m'.now = m.now)
    (same : (m'.net.nodes[place]?).map (·.settle m'.now) =
      (m.net.nodes[place]?).map (·.settle m.now)) :
    m'.reply request = m.reply request := by
  rw [now] at same
  rw [Moment.reply, Moment.reply, now]
  cases request with
  | change | deploy => cases asked
  | _ => cases asked; exact SimulatedNetwork.ask_congr same _

end SimulationRequest

/-- An event does nothing but read the node in a place. -/
inductive SimulationEvent.Reads (place : Nat) : SimulationEvent → Prop
  | look : Reads place (.look place)
  | height : Reads place (.ask (.height place))
  | appVersion : Reads place (.ask (.appVersion place))
  | genesisAppVersion : Reads place (.ask (.genesisAppVersion place))
  | voteExtensionsEnableHeight : Reads place (.ask (.voteExtensionsEnableHeight place))
  | block (height : Nat) : Reads place (.ask (.block place height))

namespace SimulationEvent.Reads

variable {place : Nat} {event : SimulationEvent}

lemma touch (reads : event.Reads place) (m : Moment) (other : Nat) :
    m.touch other event = if place = other then .look else .leave := by
  cases reads <;> simp [Moment.touch, SimulatedNetwork.place?, SimulatedNetwork.touch]

lemma now (reads : event.Reads place) (m : Moment) : (m.after event).now = m.now := by
  cases reads <;> rfl

end SimulationEvent.Reads

/-- The second history is the first one with reads of the node in a place put in. -/
inductive WithReads (place : Nat) : List SimulationEvent → List SimulationEvent → Prop
  | nil : WithReads place [] []
  | cons {sparse dense : List SimulationEvent} (event : SimulationEvent) :
    WithReads place sparse dense → WithReads place (event :: sparse) (event :: dense)
  | read {sparse dense : List SimulationEvent} {event : SimulationEvent} :
    event.Reads place → WithReads place sparse dense → WithReads place sparse (event :: dense)

namespace Moment

variable {m sparse dense : Moment} {place : Nat} {event : SimulationEvent}

/-- An event makes the node in a place forget a crash that is due. -/
def Forgets (place : Nat) (m : Moment) (event : SimulationEvent) : Prop :=
  ∃ node ∈ m.net.nodes[place]?, ∃ limit ∈ node.crashAt,
    node.Due m.now limit ∧ (m.touch place event).forgets limit = true

instance (place : Nat) (m : Moment) (event : SimulationEvent) :
    Decidable (m.Forgets place event) :=
  inferInstanceAs (Decidable (∃ _ ∈ _, ∃ _ ∈ _, _ ∧ _))

/-- The reply to a request, unless a height was met by then that is too large, or a time that no
clock reads. -/
def reply? (m : Moment) (request : SimulationRequest) : Option (simulation.Reply request) :=
  if (m.after (.ask request)).net.overflowed then none else some (m.reply request)

/-- The height that the node in a place tells, unless it is too large or nothing counts any more. -/
def told? (m : Moment) (place : Nat) : Option (Except QueryError Nat) := m.reply? (.height place)

/-- Whether the node in a place runs, unless its height is too large or nothing counts any more. -/
def running? (m : Moment) (place : Nat) : Option Bool :=
  let seen := m.after (.look place)
  if seen.net.overflowed then none
  else some ((seen.net.nodes[place]?).any (·.status.isRunning))

/-- What is told of the node in a place at one moment is told at the other. -/
structure TellsAs (place : Nat) (m m' : Moment) : Prop where
  reply : ∀ request, request.asked? = some place →
    ∀ told, m.reply? request = some told → m'.reply? request = some told
  running : ∀ told, m.running? place = some told → m'.running? place = some told
  upgradesQueries : (m'.net.nodes[place]?).map (·.upgradesQueries) =
    (m.net.nodes[place]?).map (·.upgradesQueries)

/-- A height that is too large will be met as soon as the node in a place is looked at. -/
def Exceeds (place : Nat) (m : Moment) : Prop :=
  ∃ node, m.net.nodes[place]? = some node ∧ node.overflows m.now = true

/-- The second moment is the first one, but for reads of the node in a place. -/
structure Agrees (place : Nat) (sparse dense : Moment) : Prop where
  now : dense.now = sparse.now
  touch : ∀ other event, dense.touch other event = sparse.touch other event
  others : ∀ other ≠ place, dense.net.nodes[other]? = sparse.net.nodes[other]?
  node : (sparse.net.nodes[place]?).Rel (SimulatedNode.Ahead sparse.now) dense.net.nodes[place]?
  overflowed : dense.net.overflowed = true →
    sparse.net.overflowed = true ∨ sparse.Exceeds place

namespace Agrees

lemma refl (place : Nat) (m : Moment) : Agrees place m m := by
  refine ⟨rfl, fun _ _ => rfl, fun _ _ => rfl, ?_, .inl⟩
  cases m.net.nodes[place]? with
  | none => exact .none
  | some node => exact .some (.refl _ _)

/-- What is met at the node in the second moment is met in the first one. -/
lemma met {node : SimulatedNode} {touch : Touch} (agrees : Agrees place sparse dense)
    (present : dense.net.nodes[place]? = some node)
    (exceeds : node.exceeds dense.now touch = true) :
    ∃ found, sparse.net.nodes[place]? = some found ∧ found.exceeds sparse.now touch = true := by
  have node_agrees := agrees.node
  rw [present] at node_agrees
  generalize sparse.net.nodes[place]? = first at node_agrees ⊢
  cases node_agrees with
  | some ahead => exact ⟨_, rfl, ahead.exceeds (agrees.now ▸ exceeds)⟩

lemma read (agrees : Agrees place sparse dense) (reads : event.Reads place) :
    Agrees place sparse (dense.after event) where
  now := (reads.now dense).trans agrees.now
  touch other next := (dense.touch_after other event next).trans (agrees.touch other next)
  others other ne := by
    rw [nodes_after, reads.touch, if_neg ne.symm, agrees.others other ne]
    exact Option.map_id'
  node := by
    have node_agrees := agrees.node
    rw [nodes_after, reads.touch, if_pos rfl, agrees.now]
    generalize sparse.net.nodes[place]? = first, dense.net.nodes[place]? = second at node_agrees ⊢
    cases node_agrees with
    | none => exact .none
    | some ahead => exact .some ahead.look
  overflowed met := by
    rcases (dense.overflowed_after event).1 met with before | ⟨other, node, present, exceeds⟩
    · exact agrees.overflowed before
    · rw [reads.touch] at exceeds
      by_cases here : place = other
      · rw [if_pos here] at exceeds
        obtain ⟨found, present, exceeds⟩ := agrees.met (here ▸ present) exceeds
        exact .inr ⟨found, present, by rwa [SimulatedNode.exceeds_look] at exceeds⟩
      · rw [if_neg here] at exceeds
        cases exceeds

lemma after (agrees : Agrees place sparse dense) (keeps : ¬ sparse.Forgets place event) :
    Agrees place (sparse.after event) (dense.after event) where
  now := by
    cases event with
    | pass span => exact congrArg (· + span) agrees.now
    | look | ask => exact agrees.now
  touch other next := by rw [touch_after, touch_after, agrees.touch]
  others other ne := by rw [nodes_after, nodes_after, agrees.now, agrees.touch, agrees.others _ ne]
  node := by
    have node_agrees := agrees.node
    rw [nodes_after, nodes_after, agrees.now, agrees.touch]
    generalize first : sparse.net.nodes[place]? = found, dense.net.nodes[place]? = second
      at node_agrees ⊢
    cases node_agrees with
    | none => exact .none
    | some ahead =>
      refine .some ((ahead.undergo fun limit due => ?_).mono (sparse.now_le_after event))
      exact eq_false_of_ne_true fun forgets => keeps ⟨_, first, limit, due.1, due, forgets⟩
  overflowed met := by
    rw [overflowed_after]
    rcases (dense.overflowed_after event).1 met with before | ⟨other, node, present, exceeds⟩
    · rcases agrees.overflowed before with already | ⟨node, present, overflows⟩
      · exact .inl (.inl already)
      · cases looks : (sparse.touch place event).looks with
        | true =>
          have exceeds := SimulatedNode.exceeds_of_overflows looks overflows
          exact .inl (.inr ⟨place, node, present, exceeds⟩)
        | false =>
          refine .inr ⟨_, by rw [nodes_after, present]; rfl, ?_⟩
          have still := SimulatedNode.overflows_mono overflows (sparse.now_le_after event)
          rw [SimulatedNode.overflows, SimulatedNode.status_undergo looks]
          exact still
    · rw [agrees.touch] at exceeds
      by_cases here : other = place
      · subst here
        exact .inl (.inr ⟨other, agrees.met present exceeds⟩)
      · rw [agrees.others other here] at present
        exact .inl (.inr ⟨other, node, present, agrees.now ▸ exceeds⟩)

lemma run (place : Nat) {first second : List SimulationEvent} (more : WithReads place first second)
    (agrees : Agrees place sparse dense)
    (keeps : Along (fun m event => ¬ m.Forgets place event) sparse first) :
    Agrees place (sparse.run first) (dense.run second) := by
  induction more generalizing sparse dense with
  | nil => exact agrees
  | cons event _ ih => exact ih (agrees.after keeps.1) keeps.2
  | read reads _ ih => exact ih (agrees.read reads) keeps

/-- A look finds the same node. -/
lemma settled (agrees : Agrees place sparse dense) :
    (dense.net.nodes[place]?).map (·.settle dense.now) =
      (sparse.net.nodes[place]?).map (·.settle sparse.now) := by
  have node_agrees := agrees.node
  rw [agrees.now]
  generalize sparse.net.nodes[place]? = first, dense.net.nodes[place]? = second at node_agrees ⊢
  cases node_agrees with
  | none => rfl
  | some ahead => exact congrArg some ahead.settle

/-- Reads meet no height that is too large, unless whoever looks at the node in the end does. -/
lemma fits_of_looks (agrees : Agrees place sparse dense)
    (looks : (sparse.touch place event).looks = true)
    (only : ∀ other ≠ place, sparse.touch other event = .leave)
    (fits : ¬ (sparse.after event).net.overflowed = true) :
    ¬ (dense.after event).net.overflowed = true := by
  rw [overflowed_after] at fits ⊢
  rintro (before | ⟨other, node, present, exceeds⟩)
  · rcases agrees.overflowed before with already | ⟨node, present, overflows⟩
    · exact fits (.inl already)
    · exact fits (.inr ⟨place, node, present,
        SimulatedNode.exceeds_of_overflows looks overflows⟩)
  · rw [agrees.touch] at exceeds
    by_cases here : other = place
    · subst here
      exact fits (.inr ⟨other, agrees.met present exceeds⟩)
    · rw [only other here] at exceeds
      cases exceeds

lemma tellsAs (agrees : Agrees place sparse dense) : TellsAs place sparse dense where
  reply request asked told replied := by
    obtain ⟨touch, looks, touched⟩ := request.touch_of_asked asked sparse
    rw [reply?] at replied ⊢
    split at replied
    · cases replied
    · rename_i fits
      have fits' := agrees.fits_of_looks (by rw [touched, if_pos rfl, looks])
        (fun other ne => by rw [touched, if_neg ne.symm]) fits
      rw [if_neg fits', request.reply_congr asked agrees.now agrees.settled, replied]
  running told replied := by
    have looked (m : Moment) : (m.after (.look place)).net.nodes[place]? =
        (m.net.nodes[place]?).map (·.settle m.now) := m.net.nodes_look m.now place
    simp only [running?, looked, agrees.settled] at replied ⊢
    split at replied
    · cases replied
    · rename_i fits
      have touched (other : Nat) : sparse.touch other (.look place) =
          if place = other then .look else .leave := rfl
      have fits' := agrees.fits_of_looks (by rw [touched, if_pos rfl]; rfl)
        (fun other ne => by rw [touched, if_neg ne.symm]) fits
      rw [if_neg fits', replied]
  upgradesQueries := by
    have node_agrees := agrees.node
    generalize sparse.net.nodes[place]? = first, dense.net.nodes[place]? = second at node_agrees ⊢
    cases node_agrees with
    | none => rfl
    | some ahead =>
      rw [ahead.same]
      rfl

end Agrees

/-- A height is told, unless it is too large or nothing counts any more. -/
lemma told?_eq {node : SimulatedNode} (present : m.net.nodes[place]? = some node) :
    m.told? place =
      if m.net.overflowed || node.overflows m.now then none
      else some (node.reachableHeight m.now) := by
  have overflowed : (m.after (.ask (.height place))).net.overflowed =
      (m.net.overflowed || node.overflows m.now) := by
    rw [Moment.after, SimulatedNetwork.answer, SimulatedNetwork.ask_net, SimulatedNetwork.look,
      present, Option.any_some]
  rw [told?, Moment.reply?, overflowed, ← told_eq present]
  rfl

/-- A node is in a place, and nothing was met so far that is too large. -/
structure At (place : Nat) (m : Moment) (node : SimulatedNode) : Prop where
  present : m.net.nodes[place]? = some node
  fits : m.net.overflowed = false

namespace At

variable {node : SimulatedNode}

lemma after (stands : m.At place node) (touched : m.touch place event ≠ .leave)
    (fits : node.exceeds m.now (m.touch place event) = false) :
    (m.after event).At place (node.undergo m.now (m.touch place event)) := by
  refine ⟨by rw [nodes_after, stands.present]; rfl, eq_false_of_ne_true fun met => ?_⟩
  rcases (m.overflowed_after event).1 met with before | ⟨other, found, present, exceeds⟩
  · rw [stands.fits] at before
    cases before
  · by_cases here : other = place
    · subst here
      cases stands.present.symm.trans present
      rw [fits] at exceeds
      cases exceeds
    · rw [(touch_only touched).1 other here] at exceeds
      cases exceeds

lemma look (stands : m.At place node) (fits : node.overflows m.now = false) :
    (m.after (.look place)).At place (node.settle m.now) := by
  have touched : m.touch place (.look place) = .look := if_pos rfl
  have after := stands.after (by rw [touched]; nofun) (by rwa [touched, node.exceeds_look])
  rwa [touched] at after

lemma pass (stands : m.At place node) (span : Nat) : (m.after (.pass span)).At place node :=
  ⟨stands.present, stands.fits⟩

lemma told?_eq (stands : m.At place node) :
    m.told? place =
      if node.overflows m.now then none else some (node.reachableHeight m.now) := by
  rw [Moment.told?_eq stands.present, stands.fits, Bool.false_or]

lemma told?_of_crashed {height : Nat} (stands : m.At place node)
    (crashed : node.status = .crashed height) :
    m.told? place = some (.error (.status 503)) := by
  rw [stands.told?_eq, SimulatedNode.overflows_of_crashed crashed,
    SimulatedNode.reachableHeight_of_crashed crashed]
  rfl

/-- A node that is restarted at once goes on from the height at which it had stopped. -/
lemma told?_of_restart {height : Nat} (stands : m.At place node)
    (stopped : (node.settle m.now).status = .crashed height) (le : height ≤ maxUInt64)
    (fits : node.overflows m.now = false) (lasts : m.now < Backoff.clockLimit) :
    (m.after (.ask (.change place (.restart 0)))).told? place = some (.ok height) := by
  have touched : m.touch place (.ask (.change place (.restart 0))) = .change (.restart 0) :=
    if_pos rfl
  have unmet : node.exceeds m.now (.change (.restart 0)) = false := by
    rw [SimulatedNode.exceeds, fits, Bool.and_false, Bool.false_or, SimulatedNode.outlasts_change]
    exact decide_eq_false (Nat.not_le.2 lasts)
  have moved : m.touch place (.ask (.change place (.restart 0))) ≠ .leave := by
    rw [touched]
    exact Touch.noConfusion
  have after := stands.after moved (by rw [touched, unmet])
  rw [touched, SimulatedNode.undergo, SimulatedNode.apply_restart, stopped] at after
  have resumes := node.resumes_restarted height m.now m.now
  have gained : height + (m.now - m.now) / NodeStatus.blockTime = height := by
    rw [Nat.sub_self, Nat.zero_div, Nat.add_zero]
  calc (m.after (.ask (.change place (.restart 0)))).told? place
      = if (node.restarted height m.now).overflows m.now then none
        else some ((node.restarted height m.now).reachableHeight m.now) := after.told?_eq
    _ = some (.ok height) := by
      rw [resumes.overflows (Nat.le_refl _) (gained.symm ▸ le),
        resumes.reachableHeight (Nat.le_refl _), if_pos (Nat.le_refl _), gained]
      rfl

end At

section Unobserved

variable {node : SimulatedNode} {limit : Nat}

/-- A crash that is due is seen by the first look, whatever happened before, unless it is forgotten
or the node is restarted. -/
lemma stopped_run {events : List SimulationEvent} (present : m.net.nodes[place]? = some node)
    (due : node.Due m.now limit)
    (stays : Along (fun m event => ¬ m.Forgets place event ∧
      (m.touch place event).restarts = false) m events) :
    ∃ found, (m.run events).net.nodes[place]? = some found ∧
      found.Stopped (m.run events).now limit := by
  refine stays.keeps_node (Q := fun now found => found.Stopped now limit) present (.inr due)
    fun m event found keeps present stopped => ?_
  refine (stopped.undergo keeps.2 fun limit due => ?_).mono (m.now_le_after event)
  exact eq_false_of_ne_true fun forgets => keeps.1 ⟨found, present, limit, due.1, due, forgets⟩

/-- A crash that is forgotten shows in what the node tells, at once or after a restart. -/
lemma forgotten_shows (stands : m.At place node) (due : node.Due m.now limit)
    (fits : node.overflows m.now = false) (lasts : m.now < Backoff.clockLimit)
    (forgets : (m.touch place event).forgets limit = true) :
    ∃ later reply reply', (m.run (event :: later)).told? place = some reply ∧
      (m.run (.look place :: event :: later)).told? place = some reply' ∧ reply ≠ reply' := by
  have touched : m.touch place event ≠ .leave := by
    intro left
    rw [left] at forgets
    cases forgets
  obtain ⟨unseen, stays⟩ := Touch.of_forgets forgets
  have touched' : (m.after (.look place)).touch place event ≠ .leave := by rwa [touch_after]
  have now := (touch_only touched).2
  have now' : ((m.after (.look place)).after event).now = m.now := (touch_only touched').2
  -- The node after the event, without a look at it and with one.
  have blind := stands.after touched (SimulatedNode.exceeds_of_unseen unseen)
  have seen := (stands.look fits).after touched'
    (SimulatedNode.exceeds_of_unseen (by rw [touch_after, unseen]))
  rw [touch_after] at seen
  have crashed : ((node.settle m.now).undergo m.now (m.touch place event)).status =
      .crashed limit := SimulatedNode.undergo_of_crashed due.settle stays
  have exceeds : (node.undergo m.now (m.touch place event)).overflows m.now = false := by
    rw [SimulatedNode.overflows, SimulatedNode.status_undergo unseen]
    exact fits
  rcases due.forgotten forgets with ⟨height, answers⟩ | ⟨other, ne, again⟩
  · refine ⟨[], .ok height, .error (.status 503), ?_, seen.told?_of_crashed crashed, by simp⟩
    calc (m.after event).told? place = _ := blind.told?_eq
      _ = some (.ok height) := by
        rw [now, exceeds, answers]
        rfl
  · refine ⟨[.ask (.change place (.restart 0))], .ok other, .ok limit, ?_, ?_,
      fun same => ne (Except.ok.inj same)⟩
    · refine blind.told?_of_restart ?_ (again.le exceeds) (now.symm ▸ exceeds) (now.symm ▸ lasts)
      rw [now]
      exact again.settle
    · refine seen.told?_of_restart ?_ (due.le fits) (SimulatedNode.overflows_of_crashed crashed _)
        (now'.symm ▸ lasts)
      exact SimulatedNode.Stopped.settle (.inl crashed)

/-- A crash that is not seen before the height gets too large is not seen at all. -/
lemma overdue_shows (stands : m.At place node) (due : node.Due m.now limit)
    (fits : node.overflows m.now = false) {span : Nat}
    (exceeds : node.overflows (m.now + span) = true) :
    (m.run [.pass span]).told? place = none ∧
      (m.run [.look place, .pass span]).told? place = some (.error (.status 503)) := by
  constructor
  · exact (stands.pass span).told?_eq.trans (if_pos exceeds)
  · exact ((stands.look fits).pass span).told?_of_crashed due.settle

end Unobserved

/-- A crash that is due is seen whenever the node is looked at, and reads put into a history change
nothing of what is told later, unless the history has the node forget a crash that is due and was
not seen: where it does, a read put in before shows later. The other thing that a read puts off is a
height that is too large. A node that has reached its crash height has stopped there, looked at or
not, until it is restarted or forgets it: it tells nothing else, unless the height got too large
before it was looked at, or nothing counted any more. -/
theorem crash_due_unobserved (place : Nat) (m : Moment) :
    (∀ sparse dense, WithReads place sparse dense →
      Along (fun m event => ¬ m.Forgets place event) m sparse →
      TellsAs place (m.run sparse) (m.run dense)) ∧
    (∀ node limit, m.At place node → node.Due m.now limit → node.overflows m.now = false →
      (m.now < Backoff.clockLimit → ∀ event, (m.touch place event).forgets limit = true →
        ∃ later reply reply', (m.run (event :: later)).told? place = some reply ∧
          (m.run (.look place :: event :: later)).told? place = some reply' ∧ reply ≠ reply') ∧
      (∀ span, node.overflows (m.now + span) = true →
        (m.run [.pass span]).told? place = none ∧
          (m.run [.look place, .pass span]).told? place = some (.error (.status 503)))) ∧
    (∀ node limit, m.net.nodes[place]? = some node → node.Due m.now limit →
      ∀ events, Along (fun m event => ¬ m.Forgets place event ∧
          (m.touch place event).restarts = false) m events →
        ∃ found, (m.run events).net.nodes[place]? = some found ∧
          (found.settle (m.run events).now).status = .crashed limit ∧
          (m.run events).told? place =
            if (m.run events).net.overflowed || found.overflows (m.run events).now then none
            else some (.error (.status 503))) := by
  refine ⟨fun sparse dense more keeps => ?_, fun node limit stands due fits => ⟨?_, ?_⟩,
    fun node limit present due events stays => ?_⟩
  · exact (Agrees.run place more (.refl place m) keeps).tellsAs
  · exact fun lasts event => forgotten_shows stands due fits lasts
  · exact fun span => overdue_shows stands due fits
  · obtain ⟨found, present, stopped⟩ := stopped_run present due stays
    refine ⟨found, present, stopped.settle, ?_⟩
    rw [told?_eq present, SimulatedNode.reachableHeight, stopped.settle]
    rfl

namespace Sample

def change (change : NodeChange) : SimulationEvent := .ask (.change 0 change)

/-- A node that has just reached its crash height, which has not been seen. -/
def reached (height : Nat) : Moment :=
  (single height).run [change (.crashAt (height + 2)), .pass (Duration.ofSecs 2)]

def reachedNode (height : Nat) : SimulatedNode :=
  { SimulatedNode.start "node0" height with crashAt := some (height + 2) }

end Sample

open Sample in
/-- A node that has stopped and is changed, asked, crashed, restarted or given another binary. -/
theorem crash_due_unobserved_sample :
    TellsAs 0 ((reached 5).run [change (.setAppVersion 2), .pass (Duration.ofSecs 1)])
      ((reached 5).run [.look 0, change (.setAppVersion 2), .ask (.height 0),
        .pass (Duration.ofSecs 1)]) ∧
    (∃ later reply reply',
      ((reached 5).run (change .replaceBinary :: later)).told? 0 = some reply ∧
        ((reached 5).run (.look 0 :: change .replaceBinary :: later)).told? 0 = some reply' ∧
        reply ≠ reply') ∧
    ((reached (maxUInt64 - 2)).run [.pass (Duration.ofSecs 1)]).told? 0 = none ∧
    ((reached (maxUInt64 - 2)).run [.look 0, .pass (Duration.ofSecs 1)]).told? 0 =
      some (.error (.status 503)) ∧
    ∃ found, ((reached 5).run [change .crash, change .replaceBinary]).net.nodes[0]? = some found ∧
      (found.settle (Duration.ofSecs 2)).status = .crashed 7 ∧
      ((reached 5).run [change .crash, change .replaceBinary]).told? 0 =
        some (.error (.status 503)) := by
  obtain ⟨reads, shows, stays⟩ := crash_due_unobserved 0 (reached 5)
  obtain ⟨-, largest, -⟩ := crash_due_unobserved 0 (reached (maxUInt64 - 2))
  obtain ⟨blind, seen⟩ := (largest (reachedNode (maxUInt64 - 2)) maxUInt64 ⟨rfl, rfl⟩ (by decide)
    (by decide)).2 (Duration.ofSecs 1) (by decide)
  obtain ⟨found, present, stopped, told⟩ := stays (reachedNode 5) 7 rfl (by decide)
    [change .crash, change .replaceBinary] ⟨by decide, by decide, trivial⟩
  refine ⟨reads _ _ (.read .look (.cons _ (.read .height (.cons _ .nil)))) ?_,
    (shows (reachedNode 5) 7 ⟨rfl, rfl⟩ (by decide) (by decide)).1 (by decide) _ (by decide), blind,
    seen, found, present, stopped, ?_⟩
  · exact ⟨by decide, by decide, trivial⟩
  · cases present
    exact told

open Sample in
/-- A node at height 5 that is to stop at height 7 runs on if its binary is replaced after ten
seconds, but not if it was asked for its height just before. A node that is to stop at the largest
height but was not looked at in time goes past it. -/
theorem crash_missed_unobserved :
    let late := SimulationEvent.pass (Duration.ofSecs 10)
    let soon := SimulationEvent.pass (Duration.ofSecs 2)
    ((single 5).run [change (.crashAt 7), late, change .replaceBinary]).told? 0 =
      some (.ok 15) ∧
    ((single 5).run [change (.crashAt 7), late, .ask (.height 0), change .replaceBinary]).told? 0 =
      some (.error (.status 503)) ∧
    ((single (maxUInt64 - 2)).run [change (.crashAt maxUInt64), soon, late]).told? 0 = none ∧
    ((single (maxUInt64 - 2)).run
      [change (.crashAt maxUInt64), soon, .ask (.height 0), late]).told? 0 =
      some (.error (.status 503)) ∧
    ¬ ∀ place (m : Moment) sparse dense, WithReads place sparse dense →
      TellsAs place (m.run sparse) (m.run dense) := by
  refine ⟨rfl, rfl, rfl, rfl, fun same => ?_⟩
  have more : WithReads 0 [change (.crashAt 7), .pass (Duration.ofSecs 10), change .replaceBinary]
      [change (.crashAt 7), .pass (Duration.ofSecs 10), .ask (.height 0), change .replaceBinary] :=
    .cons _ (.cons _ (.read .height (.cons _ .nil)))
  cases (same 0 (single 5) _ _ more).reply (.height 0) rfl (.ok 15 : Except QueryError Nat) rfl

end Moment

end UpgradeDrill
