import UpgradeDrill.Proofs.Simulation.History

/-!
# Heights of simulated nodes

The heights that a node tells over a history. None is below an earlier one as long as no crash is
set below the height of the node (`SimulatedNode.Floor`), and a node that is taken down tells, once
it is back, the height at which it went down and a block more for each second since
(`SimulatedNode.Follows`).
-/

namespace UpgradeDrill

namespace Touch

/-- The crash height that is set. -/
def crashHeight? : Touch → Option Nat
  | .change (.crashAt height) => some height
  | _ => none

/-- Whether the node may stop because of this. -/
def stops : Touch → Bool
  | .change .crash | .change (.crashAt _) => true
  | _ => false

lemma restarts_of_downtime? {running : Bool} {touch : Touch}
    (stays : touch.downtime? running = none) : touch.restarts = false := by
  cases touch with
  | change kind => cases kind <;> first | rfl | cases stays
  | _ => rfl

end Touch

namespace SimulatedNode

variable {node : SimulatedNode} {now later height back least : Nat} {touch : Touch}

/-- The height at which a node stands, running or not. -/
def standing (node : SimulatedNode) (now : Nat) : Nat := (node.settle now).status.height now

lemma standing_of_told (told : node.reachableHeight now = .ok height) :
    node.standing now = height :=
  (running_of_reachableHeight told).2.1

/-- A node that tells a height has a crash height above it. -/
lemma lt_crash_of_told (told : node.reachableHeight now = .ok height) :
    ∀ limit ∈ node.crashAt, height < limit := by
  intro limit limited
  obtain ⟨running, same, resumed⟩ := running_of_reachableHeight told
  refine Nat.not_le.1 fun reached => ?_
  have stopped : (node.settle now).status = .crashed limit := by
    rw [settle, Option.mem_def.1 limited]
    exact if_pos ⟨resumed ▸ running, by rwa [← resumed, same]⟩
  rw [stopped] at running
  cases running

/-- A node stands at some height or above it, and does not stop below. -/
structure Floor (least : Nat) (node : SimulatedNode) (now : Nat) : Prop where
  height : least ≤ node.status.height now
  crash : ∀ limit ∈ node.crashAt, least ≤ limit

namespace Floor

lemma mono (floor : node.Floor least now) (le : now ≤ later) : node.Floor least later :=
  ⟨Nat.le_trans floor.height (node.status.height_mono le), floor.crash⟩

lemma settle (floor : node.Floor least now) : (node.settle now).Floor least now := by
  refine ⟨?_, floor.crash⟩
  rcases node.settle_cases now with same | ⟨limit, due, crashed⟩
  · rw [same]
    exact Nat.le_trans floor.height (node.status.height_le_resumed now)
  · rw [crashed]
    exact floor.crash limit due.1

lemma undergo (floor : node.Floor least now)
    (raises : ∀ height ∈ touch.crashHeight?, node.standing now ≤ height) :
    (node.undergo now touch).Floor least now := by
  have settled := floor.settle
  have unlimited : ∀ limit ∈ (none : Option Nat), least ≤ limit := by simp
  cases touch with
  | leave => exact floor
  | look => exact settled
  | count =>
    rw [SimulatedNode.undergo, counted]
    split
    · exact ⟨settled.height, settled.crash⟩
    · exact settled
  | change kind =>
    cases kind with
    | crashAt height =>
      have above : least ≤ height := Nat.le_trans settled.height (raises height rfl)
      exact ⟨floor.height, fun limit set => Option.some.inj set ▸ above⟩
    | crash => exact ⟨settled.height, settled.crash⟩
    | restart => exact ⟨settled.height, unlimited⟩
    | replaceBinary => exact ⟨floor.height, unlimited⟩
    | _ => exact ⟨floor.height, floor.crash⟩
  | upgrade =>
    rw [SimulatedNode.undergo]
    split
    · exact ⟨settled.height, unlimited⟩
    · exact ⟨settled.height, unlimited⟩

lemma of_told (told : node.reachableHeight now = .ok height) :
    (node.settle now).Floor height now :=
  ⟨Nat.le_of_eq (running_of_reachableHeight told).2.1.symm,
    fun limit limited => Nat.le_of_lt (lt_crash_of_told told limit limited)⟩

lemma le_told (floor : node.Floor least now) (told : node.reachableHeight now = .ok height) :
    least ≤ height := by
  have settled := floor.settle.height
  rwa [(running_of_reachableHeight told).2.1] at settled

end Floor

lemma undergo_of_downtime {downtime : Nat}
    (down : touch.downtime? (node.settle now).status.isRunning = some downtime) :
    node.undergo now touch = node.restarted (node.standing now) (now + downtime) := by
  cases touch with
  | change kind =>
    cases kind with
    | restart => cases down; rfl
    | _ => cases down
  | upgrade =>
    rw [Touch.downtime?] at down
    split at down
    · rename_i running
      cases down
      exact if_pos running
    · cases down
  | _ => cases down

/-- A node went down at some height, and is back at some time unless it crashed since. -/
def Follows (node : SimulatedNode) (height back now : Nat) : Prop :=
  node.status = .down height back ∨ (node.status = .running height back ∧ back ≤ now) ∨
    ∃ crash, node.status = .crashed crash

namespace Follows

lemma mono (follows : node.Follows height back now) (le : now ≤ later) :
    node.Follows height back later :=
  follows.imp_right (Or.imp_left (And.imp_right (Nat.le_trans · le)))

lemma settle (follows : node.Follows height back now) :
    (node.settle now).Follows height back now := by
  rcases node.settle_cases now with same | ⟨limit, -, crashed⟩
  · rw [Follows, same]
    rcases follows with down | ⟨running, past⟩ | ⟨crash, crashed⟩
    · rw [down]
      by_cases due : back ≤ now
      · exact .inr (.inl ⟨if_pos due, due⟩)
      · exact .inl (if_neg due)
    · exact .inr (.inl ⟨by rw [running]; rfl, past⟩)
    · exact .inr (.inr ⟨crash, by rw [crashed]; rfl⟩)
  · exact .inr (.inr ⟨limit, crashed⟩)

lemma undergo (follows : node.Follows height back now)
    (stays : touch.downtime? (node.settle now).status.isRunning = none) :
    (node.undergo now touch).Follows height back now := by
  have settled := follows.settle
  cases touch with
  | leave => exact follows
  | look => exact settled
  | count =>
    rw [SimulatedNode.undergo, counted]
    split <;> exact settled
  | change kind =>
    cases kind with
    | crash => exact .inr (.inr ⟨_, rfl⟩)
    | restart => cases stays
    | _ => exact follows
  | upgrade =>
    rw [Touch.downtime?] at stays
    split at stays
    · cases stays
    · rename_i stopped
      rw [SimulatedNode.undergo, if_neg stopped]
      exact settled

/-- What is told is the height of a node that is back. -/
lemma told {told : Nat} (follows : node.Follows height back now)
    (answers : node.reachableHeight now = .ok told) :
    back ≤ now ∧ told = height + (now - back) / NodeStatus.blockTime := by
  obtain ⟨runs, same, -⟩ := running_of_reachableHeight answers
  rcases follows.settle with down | ⟨running, past⟩ | ⟨crash, crashed⟩
  · rw [down] at runs
    cases runs
  · rw [running] at same
    exact ⟨past, same.symm⟩
  · rw [crashed] at runs
    cases runs

end Follows

namespace Resumes

lemma mono (resumes : node.Resumes height back now) (le : now ≤ later) :
    node.Resumes height back later :=
  ⟨resumes.stays, resumes.status.imp_right (And.imp_right (Nat.le_trans · le))⟩

/-- A node that is not made to stop goes on. -/
lemma undergo (resumes : node.Resumes height back now)
    (stays : touch.downtime? (node.settle now).status.isRunning = none)
    (runs : touch.stops = false) : (node.undergo now touch).Resumes height back now := by
  have settled := resumes.settle (Nat.le_refl now)
  cases touch with
  | leave => exact resumes
  | look => exact settled
  | count =>
    rw [SimulatedNode.undergo, counted]
    split
    · exact ⟨settled.stays, settled.status⟩
    · exact settled
  | change kind =>
    cases kind with
    | crash | crashAt => cases runs
    | restart => cases stays
    | replaceBinary => exact ⟨rfl, resumes.status⟩
    | _ => exact ⟨resumes.stays, resumes.status⟩
  | upgrade =>
    rw [Touch.downtime?] at stays
    split at stays
    · cases stays
    · rename_i stopped
      rw [SimulatedNode.undergo, if_neg stopped]
      exact ⟨rfl, settled.status⟩

end Resumes

end SimulatedNode

namespace Moment

variable {m : Moment} {place : Nat} {event : SimulationEvent} {events : List SimulationEvent}

/-- No crash is set below the height at which the node in a place stands. -/
def Raises (place : Nat) (m : Moment) (event : SimulationEvent) : Prop :=
  ∀ node ∈ m.net.nodes[place]?, ∀ height ∈ (m.touch place event).crashHeight?,
    node.standing m.now ≤ height

instance (place : Nat) (m : Moment) (event : SimulationEvent) :
    Decidable (m.Raises place event) :=
  inferInstanceAs (Decidable (∀ _ ∈ _, ∀ _ ∈ _, _ ≤ _))

/-- How long an event takes the node in a place down for, if it does. -/
def downtime? (place : Nat) (m : Moment) (event : SimulationEvent) : Option Nat :=
  (m.net.nodes[place]?).bind fun node =>
    (m.touch place event).downtime? (node.settle m.now).status.isRunning

/-- The height that is told if an event asks the node in a place for it. -/
def report? (place : Nat) (m : Moment) : SimulationEvent → Option Nat
  | .ask (.height other) => if other = place then (m.told place).toOption else none
  | _ => none

/-- The heights that the node in a place tells in a history, in order. -/
def reports (place : Nat) : Moment → List SimulationEvent → List Nat
  | _, [] => []
  | m, event :: events => (m.report? place event).toList ++ reports place (m.after event) events

lemma of_report? {height : Nat} (told : m.report? place event = some height) :
    event = .ask (.height place) ∧ m.told place = .ok height := by
  cases event with
  | pass | look => cases told
  | ask request =>
    cases request with
    | height other =>
      rw [report?] at told
      split at told
      · rename_i here
        cases reply : m.told place with
        | error => rw [reply] at told; cases told
        | ok => rw [reply] at told; cases told; exact ⟨by rw [here], rfl⟩
      · cases told
    | _ => cases told

/-- The node in a place, if there is one, tells no height any more that is below some. -/
def Floor (place least : Nat) (m : Moment) : Prop :=
  ∀ node, m.net.nodes[place]? = some node → node.Floor least m.now

namespace Floor

variable {least height : Nat}

lemma after (floor : m.Floor place least) (raises : m.Raises place event) :
    (m.after event).Floor place least := by
  intro found present
  rw [nodes_after] at present
  obtain ⟨node, stood, rfl⟩ := Option.map_eq_some_iff.1 present
  exact ((floor node stood).undergo (raises node stood)).mono (m.now_le_after event)

lemma le_told (floor : m.Floor place least) (told : m.told place = .ok height) :
    least ≤ height := by
  obtain ⟨node, present, answers⟩ := present_of_told told
  exact (floor node present).le_told answers

/-- What is told after a height is no lower. -/
lemma of_told (told : m.told place = .ok height) :
    (m.after (.ask (.height place))).Floor place height := by
  intro found present
  have touched : m.touch place (.ask (.height place)) = .look := if_pos rfl
  rw [nodes_after, touched] at present
  obtain ⟨node, stood, rfl⟩ := Option.map_eq_some_iff.1 present
  exact .of_told ((told_eq stood).symm.trans told)

/-- What is told in a history is no lower than the floor at its start. -/
lemma le_reports (floor : m.Floor place least) (raises : Along (Raises place) m events) :
    ∀ height ∈ m.reports place events, least ≤ height := by
  induction events generalizing m with
  | nil => nofun
  | cons event events ih =>
    intro height mem
    rcases List.mem_append.1 mem with now | later
    · exact floor.le_told (of_report? (Option.mem_toList.1 now)).2
    · exact ih (floor.after raises.1) raises.2 height later

end Floor

lemma pairwise_reports (raises : Along (Raises place) m events) :
    (m.reports place events).Pairwise (· ≤ ·) := by
  induction events generalizing m with
  | nil => exact .nil
  | cons event events ih =>
    have rest := ih raises.2
    rw [reports]
    cases reported : m.report? place event with
    | none => exact rest
    | some height =>
      obtain ⟨rfl, told⟩ := of_report? reported
      exact .cons ((Floor.of_told told).le_reports raises.2) rest

section Downtime

variable {node : SimulatedNode} {downtime height : Nat}

lemma nodes_after_downtime (present : m.net.nodes[place]? = some node)
    (down : m.downtime? place event = some downtime) :
    (m.after event).net.nodes[place]? =
      some (node.restarted (node.standing m.now) (m.now + downtime)) := by
  rw [downtime?, present, Option.bind_some] at down
  rw [nodes_after, present, Option.map_some, SimulatedNode.undergo_of_downtime down]

/-- A node that was taken down follows its height, until it is taken down again. -/
lemma follows_run (present : m.net.nodes[place]? = some node)
    (down : m.downtime? place event = some downtime)
    (stays : Along (fun m event => m.downtime? place event = none) (m.after event) events) :
    ∃ found, (m.run (event :: events)).net.nodes[place]? = some found ∧
      found.Follows (node.standing m.now) (m.now + downtime) (m.run (event :: events)).now := by
  refine stays.keeps_node (Q := fun now found => found.Follows _ _ now)
    (nodes_after_downtime present down) (.inl rfl) fun m event node stays present follows => ?_
  rw [downtime?, present, Option.bind_some] at stays
  exact (follows.undergo stays).mono (m.now_le_after event)

/-- A node that was taken down and is not made to stop resumes. -/
lemma resumes_run (present : m.net.nodes[place]? = some node)
    (down : m.downtime? place event = some downtime)
    (stays : Along (fun m event => m.downtime? place event = none ∧
      (m.touch place event).stops = false) (m.after event) events) :
    ∃ found, (m.run (event :: events)).net.nodes[place]? = some found ∧
      found.Resumes (node.standing m.now) (m.now + downtime) (m.run (event :: events)).now := by
  refine stays.keeps_node (Q := fun now found => found.Resumes _ _ now)
    (nodes_after_downtime present down) (node.resumes_restarted _ _ _)
    fun m event node stays present resumes => ?_
  obtain ⟨stays, runs⟩ := stays
  rw [downtime?, present, Option.bind_some] at stays
  exact (resumes.undergo stays runs).mono (m.now_le_after event)

/-- A node that has crashed stands where it did, until it is taken down. -/
lemma crashed_run (present : m.net.nodes[place]? = some node)
    (crashed : node.status = .crashed height)
    (stays : Along (fun m event => m.downtime? place event = none) m events) :
    ∃ found, (m.run events).net.nodes[place]? = some found ∧ found.status = .crashed height := by
  refine stays.keeps_node (Q := fun _ found => found.status = .crashed height) present crashed
    fun m event node stays present crashed => ?_
  rw [downtime?, present, Option.bind_some] at stays
  exact SimulatedNode.undergo_of_crashed crashed (Touch.restarts_of_downtime? stays)

end Downtime

/-- The heights that a node tells in a history do not decrease, if no crash is set below the height
at which the node stands, and each is below the crash height that is set. A node that is taken down
tells nothing until it is back, and then the height at which it went down and a block more for each
full second since, unless it is made to stop. A node that is crashed stands where it stood until it
is taken down. -/
theorem heights_never_go_back (place : Nat) (m : Moment) :
    (∀ events, Along (Raises place) m events → (m.reports place events).Pairwise (· ≤ ·)) ∧
    (∀ node height, m.net.nodes[place]? = some node → m.told place = .ok height →
      node.standing m.now = height ∧ ∀ limit ∈ node.crashAt, height < limit) ∧
    (∀ node event downtime, m.net.nodes[place]? = some node →
      m.downtime? place event = some downtime →
      (∀ events, Along (fun m event => m.downtime? place event = none) (m.after event) events →
        ∀ height, (m.run (event :: events)).told place = .ok height →
          m.now + downtime ≤ (m.run (event :: events)).now ∧
            height = node.standing m.now +
              ((m.run (event :: events)).now - (m.now + downtime)) / NodeStatus.blockTime) ∧
      (∀ events, Along (fun m event => m.downtime? place event = none ∧
          (m.touch place event).stops = false) (m.after event) events →
        (m.run (event :: events)).told place =
          if m.now + downtime ≤ (m.run (event :: events)).now then
            .ok (node.standing m.now +
              ((m.run (event :: events)).now - (m.now + downtime)) / NodeStatus.blockTime)
          else .error (.status 503))) ∧
    (∀ node height, m.net.nodes[place]? = some node → node.status = .crashed height →
      ∀ events, Along (fun m event => m.downtime? place event = none) m events →
        ∃ found, (m.run events).net.nodes[place]? = some found ∧
          found.standing (m.run events).now = height) ∧
    (∀ node event, m.net.nodes[place]? = some node → m.touch place event = .change .crash →
      ∃ found, (m.after event).net.nodes[place]? = some found ∧
        found.status = .crashed (node.standing m.now)) := by
  refine ⟨fun events => pairwise_reports, fun node height present told => ?_,
    fun node event downtime present down => ⟨fun events stays height told => ?_,
      fun events stays => ?_⟩, fun node height present crashed events stays => ?_,
    fun node event present touched => ?_⟩
  · rw [told_eq present] at told
    exact ⟨SimulatedNode.standing_of_told told, SimulatedNode.lt_crash_of_told told⟩
  · obtain ⟨found, present, follows⟩ := follows_run present down stays
    exact follows.told ((told_eq present).symm.trans told)
  · obtain ⟨found, present, resumes⟩ := resumes_run present down stays
    rw [told_eq present, resumes.reachableHeight (Nat.le_refl _)]
  · obtain ⟨found, present, crashed⟩ := crashed_run present crashed stays
    refine ⟨found, present, ?_⟩
    rw [SimulatedNode.standing, SimulatedNode.settle_of_crashed crashed, crashed]
    rfl
  · exact ⟨_, by rw [nodes_after, present, touched]; rfl, rfl⟩

/-- A node that is asked for its height, set to crash, restarted and crashed. -/
theorem heights_never_go_back_sample :
    let asked := SimulationEvent.ask (.height 0)
    let second := SimulationEvent.pass (Duration.ofSecs 1)
    let limited := SimulationEvent.ask (.change 0 (.crashAt 7))
    let restart := SimulationEvent.ask (.deploy (.restart "node0"))
    let crash := SimulationEvent.ask (.change 0 .crash)
    let back := (single 5).run [restart, .pass (Duration.ofSecs 7)]
    let later := ((single 5).after crash).run [second]
    ((single 5).reports 0
      [asked, second, limited, asked, second, asked, restart]).Pairwise (· ≤ ·) ∧
    (SimulatedNode.start "node0" 5).standing 0 = 5 ∧
    back.told 0 = .ok 7 ∧ 0 + Duration.ofSecs 5 ≤ back.now ∧
    ((single 5).run [restart, second]).told 0 = .error (.status 503) ∧
    (∃ found, ((single 5).after crash).net.nodes[0]? = some found ∧ found.status = .crashed 5) ∧
    ∃ found, later.net.nodes[0]? = some found ∧ found.standing later.now = 5 := by
  intro asked second limited restart crash back later
  obtain ⟨reports, told, down, -, crashed⟩ := heights_never_go_back 0 (single 5)
  obtain ⟨-, -, -, stays, -⟩ := heights_never_go_back 0 ((single 5).after crash)
  obtain ⟨follows, resumes⟩ := down _ restart (Duration.ofSecs 5) rfl rfl
  have raises : Along (Raises 0) (single 5)
      [asked, second, limited, asked, second, asked, restart] :=
    ⟨by decide, by decide, by decide, by decide, by decide, by decide, by decide, trivial⟩
  have told7 := resumes [.pass (Duration.ofSecs 7)] ⟨⟨rfl, rfl⟩, trivial⟩
  rw [if_pos (by decide), show (SimulatedNode.start "node0" 5).standing (single 5).now + _ = 7 by
    decide] at told7
  have past := (follows [.pass (Duration.ofSecs 7)] ⟨rfl, trivial⟩ 7 told7).1
  have early := resumes [second] ⟨⟨rfl, rfl⟩, trivial⟩
  rw [if_neg (by decide)] at early
  exact ⟨reports _ raises, (told _ 5 rfl rfl).1, told7, past, early, crashed _ crash rfl rfl,
    stays _ 5 rfl rfl [second] ⟨rfl, trivial⟩⟩

end Moment

end UpgradeDrill
