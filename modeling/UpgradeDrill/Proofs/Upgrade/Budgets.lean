import UpgradeDrill.Proofs.Upgrade.Numbers

/-!
# Budgets of an upgrade

Awaiting a node computes the height past which the node has to restart, and the time that it is
given for the blocks that are left. The height may not fit into 64 bits, and a time may be no budget
for a poll. A node that was running is given half a minute at least, so only the height can be too
large. A node that had stopped is given time in proportion to the activation height, which is none
at all if that height is zero. So there are two ways to fail for a number (`Overruns`), and any
other such failure comes from the parties (`numerical_failures`).
-/

namespace UpgradeDrill

open Attempt

namespace Lifecycle

/-- The rollout of a component was waited for, and has succeeded. -/
def RolledOut (component : Component) (es : List (Exchange demands)) : Prop :=
  ∃ time took, ⟨time, .order (.waitForRollout component rolloutTimeout), .ok (), took⟩ ∈ es

/-- A node is asked something. -/
def IsQuery (demand : Demand) : Prop := ∃ role query, demand = .query role query

/-- An error that a party has replied with. A single query for a height is left out: whatever its
error, a step goes on. -/
inductive Relayed (es : List (Exchange demands)) : UpgradeError → Prop where
  | query {time role query cause took} :
    query ≠ .tryLastBlockHeight →
    ⟨time, .query role query, .error cause, took⟩ ∈ es →
    Relayed es (.query cause)
  | order {time told error took} :
    ⟨time, .order told, .error error, took⟩ ∈ es →
    Relayed es error

/-- How awaiting a node fails for a number, given the height that was captured of it. -/
inductive Overruns (captured : Option Nat) (activation : Nat) : UpgradeError → Prop where
  /-- The height to restart past is too large. -/
  | height {height} :
    captured = some height →
    maxUInt64 < height + 2 →
    Overruns captured activation (.heightOverflow height 2)
  /-- A node that had stopped is given no time. -/
  | time :
    captured = none →
    activation = 0 →
    Overruns captured activation (.query (.backoff (.timeoutTooShort 0 (Duration.ofSecs 1))))

/-- The height that a node is staged with: the one it tells first. -/
def captured? (es : List (Exchange demands)) : Option Nat := es.head?.bind height?

/-- What awaiting a node comes to for its numbers. -/
structure Reckoned (component : Component) (captured : Option Nat) (activation : Nat)
    (es : List (Exchange demands)) (outcome : Except UpgradeError Activated) : Prop where
  fails : RolledOut component es → ∀ error, Overruns captured activation error →
    outcome = .error error
  only : ∀ error, outcome = .error error → error.Numerical →
    Relayed es error ∨ RolledOut component es ∧ Overruns captured activation error
  /-- No party can be the cause once the component is rolled out. -/
  overflow_iff : RolledOut component es → ∀ height blocks,
    outcome = .error (.heightOverflow height blocks) ↔
      captured = some height ∧ blocks = 2 ∧ maxUInt64 < height + 2

/-- An attempt has no numerical errors of its own. -/
def Reckons {α : Type} (x : Attempt demands UpgradeError α) : Prop :=
  ∀ ⦃now es error finish⦄, x.Yields now es (.error error) finish → error.Numerical →
    Relayed es error

section Relayed

variable {es es' : List (Exchange demands)} {error : UpgradeError}

lemma Relayed.mono (relayed : Relayed es error) (subset : es ⊆ es') : Relayed es' error := by
  cases relayed with
  | query retried mem => exact .query retried (subset mem)
  | order mem => exact .order (subset mem)

/-- Nodes know of no heights that are too large. -/
lemma not_relayed_heightOverflow {height blocks : Nat} (asked : ∀ e ∈ es, IsQuery e.request) :
    ¬ Relayed es (.heightOverflow height blocks) := by
  rintro (_ | mem)
  obtain ⟨_, _, eq⟩ := asked _ mem
  cases eq

/-- A party that replied with an error has come to it. -/
lemma Step.yields_of_mem {I : Interface} {α σ : Type} {step : Step α} {parties : Parties I}
    {world : World I σ} {now : Nat} {state : σ} {time took : Nat} {demand : Demand}
    {outcome : Except demand.Error demand.Value}
    (mem : ⟨time, demand, outcome, took⟩ ∈ step.trace parties world now state) :
    ∃ es finish, (demand.of parties).Yields time es outcome finish := by
  obtain ⟨state', eq⟩ := Routine.answered_of_mem_exchanges mem
  have path := yields_run world (demand.of parties) time state'
  have ended : outcome = ((demand.of parties).run.run world time state').value := eq
  rw [← ended] at path
  exact ⟨_, _, path⟩

end Relayed

section Reckons

variable {α β : Type} {x : Attempt demands UpgradeError α} {f : α → Attempt demands UpgradeError β}

lemma reckons_of_fails (fails : x.Fails fun error => ¬ error.Numerical) : Reckons x :=
  fun _ _ _ _ path numerical => absurd numerical (fails path)

lemma reckons_pure (value : α) : Reckons (pure value) := reckons_of_fails fails_pure

/-- The second part of a bind may rely on what the first part gives. -/
lemma Reckons.bind_returns {V : α → Prop} (first : Reckons x) (returns : x.Returns V)
    (second : ∀ value, V value → Reckons (f value)) : Reckons (x >>= f) := by
  intro now es error finish path numerical
  rcases path.bind_cases with ⟨_, eq, failed⟩ | ⟨_, _, value, _, rfl, left, right⟩
  · cases eq
    exact first failed numerical
  · exact (second value (returns left) right numerical).mono (List.subset_append_right _ _)

lemma Reckons.bind (first : Reckons x) (second : ∀ value, Reckons (f value)) :
    Reckons (x >>= f) :=
  first.bind_returns (V := fun _ => True) (fun _ _ _ _ _ => trivial) fun value _ => second value

lemma reckons_order (told : Order) : Reckons (Attempt.demand (.order told)) := by
  intro now es error finish path _
  obtain ⟨took, rfl, rfl⟩ := (yields_demand_iff (.order told)).1 path
  exact .order List.mem_cons_self

lemma reckons_query (role : Role) {query : NodeQuery} (retried : query ≠ .tryLastBlockHeight) :
    Reckons ((Attempt.demand (.query role query)).widen .query) := by
  intro now es error finish path _
  obtain ⟨result, path, eq⟩ := yields_widen_iff.1 path
  obtain ⟨took, rfl, rfl⟩ := (yields_demand_iff (.query role query)).1 path
  cases result with
  | ok value => cases eq
  | error cause =>
    cases eq
    exact .query retried List.mem_cons_self

end Reckons

section Steps

variable {I : Interface} (node : Node I) {component : Component} {release : Release}
  {staged : Staged} {registry : Registry} {captured : Option Nat} {activation : Nat}

/-- Time in proportion to a number of blocks is a budget unless there are none. -/
lemma pollInterval_lt_scaledWait_iff {blocks : Nat} :
    Query.pollInterval < scaledWait blocks ↔ blocks ≠ 0 := by
  have limit : maxUInt32 = 2 ^ 32 - 1 := rfl
  unfold scaledWait timePerBlock Query.pollInterval Duration.ofSecs
  omega

lemma fails_waitUntilHeight (height : Nat) {timeout : Nat} (room : Query.pollInterval < timeout) :
    ((node.waitUntilHeight height timeout).widen UpgradeError.query).Fails
      fun error => ¬ error.Numerical := by
  refine (Query.fails_pollUntil toString (height ≤ ·) room).widen fun error budgeted => ?_
  cases error with
  | backoff cause => exact absurd rfl (budgeted cause)
  | _ => exact id

/-- Without any time a wait is refused before anything is asked. -/
lemma waitUntilHeight_zero {height now finish : Nat} {es : List (Exchange I)}
    {outcome : Except QueryError (Query.Poll Nat)}
    (path : (node.waitUntilHeight height 0).Yields now es outcome finish) :
    es = [] ∧ outcome = .error (.backoff (.timeoutTooShort 0 (Duration.ofSecs 1))) ∧
      finish = now := by
  have refused : Backoff.start (.fixed 0 Query.pollInterval) now =
      .error (.timeoutTooShort 0 (Duration.ofSecs 1)) :=
    Backoff.start_short (show 0 < Query.pollInterval by decide) (Nat.zero_le _) now
  rw [Node.waitUntilHeight, Query.pollUntil_eq, yields_readClock_bind_iff, refused] at path
  exact yields_throw_iff.1 path

/-- The number decides before anything is asked. -/
lemma awaitHeight_of_overruns {error : UpgradeError} {now finish : Nat} {es : List (Exchange I)}
    {outcome : Except UpgradeError Activated}
    (overruns : Overruns staged.capturedHeight staged.activationHeight error)
    (path : (awaitHeight node staged registry).Yields now es outcome finish) :
    es = [] ∧ outcome = .error error ∧ finish = now := by
  obtain ⟨captured, activation⟩ := staged
  cases overruns with
  | height known past =>
    cases known
    unfold awaitHeight awaitRestart heightAfter restartMargin at path
    dsimp only at path
    rw [if_neg (Nat.not_le.2 past)] at path
    exact yields_throw_iff.1 path
  | time unknown zero =>
    cases unknown
    cases zero
    have waits : awaitHeight node ⟨none, 0⟩ registry =
        (node.waitUntilHeight 0 0).widen .query >>= fun poll => pure ⟨.stalled, poll.value⟩ := rfl
    rw [waits] at path
    rcases path.bind_cases with ⟨_, rfl, failed⟩ | ⟨_, _, _, _, _, met, _⟩
    · obtain ⟨result, refused, eq⟩ := yields_widen_iff.1 failed
      obtain ⟨rfl, rfl, rfl⟩ := waitUntilHeight_zero node refused
      cases eq
      exact ⟨rfl, rfl, rfl⟩
    · obtain ⟨_, eq, _⟩ := waitUntilHeight_zero node (yields_widen_ok.1 met)
      cases eq

/-- The time that is left after the restart is a budget. -/
lemma room_of_awaitRestart
    (within : ∀ error, ¬ Overruns staged.capturedHeight staged.activationHeight error) :
    (awaitRestart node staged registry).Returns
      fun restarted => Query.pollInterval < restarted.2 := by
  rw [awaitRestart_eq]
  split
  · refine returns_bind fun latest => ?_
    dsimp only
    split
    · exact returns_bind fun _ => returns_pure (pollInterval_lt_blockWait _)
    · exact returns_pure (pollInterval_lt_blockWait _)
  · rename_i unknown
    exact returns_pure (pollInterval_lt_scaledWait_iff.2 fun zero => within _ (.time unknown zero))

variable {name other : String} {now finish : Nat} {es es' : List (Exchange demands)}
  {outcome : Except UpgradeError Activated}

lemma reckons_standing {height : Nat} (fits : height + 2 ≤ maxUInt64) :
    Reckons (standing (Role.upgraded.demanding name) height) := by
  refine (reckons_of_fails (fails_ofExcept fun error refused => ?_)).bind fun target =>
    (reckons_of_fails (fails_waitUntilHeight _ _ (by decide))).bind fun _ =>
      reckons_query .upgraded (show NodeQuery.lastBlockHeight ≠ _ by decide)
  rw [show heightAfter height restartMargin = .ok _ from if_pos fits] at refused
  cases refused

lemma reckons_checkScheduled :
    Reckons (checkScheduled (Role.upgraded.demanding name) registry) := by
  rw [checkScheduled_eq]
  exact (reckons_query .upgraded (show NodeQuery.upgradesInfo ≠ _ by decide)).bind fun info =>
    reckons_of_fails (fails_ofExcept fun _ => Registry.not_numerical_of_checkInfo)

lemma reckons_awaitHeight
    (within : ∀ error, ¬ Overruns staged.capturedHeight staged.activationHeight error) :
    Reckons (awaitHeight (Role.upgraded.demanding name) staged registry) := by
  have restarts : Reckons (awaitRestart (Role.upgraded.demanding name) staged registry) := by
    rw [awaitRestart_eq]
    split
    · rename_i height known
      refine (reckons_standing (Nat.not_lt.1 fun past => within _ (.height known past))).bind
        fun latest => ?_
      dsimp only
      split
      · exact reckons_checkScheduled.bind fun _ => reckons_pure _
      · exact reckons_pure _
    · exact reckons_pure _
  refine restarts.bind_returns (room_of_awaitRestart _ within) fun restarted room => ?_
  exact (reckons_of_fails (fails_waitUntilHeight _ _ room)).bind fun _ => reckons_pure _

lemma reckons_stage :
    Reckons (stage (Role.upgraded.demanding name) Order.demanding component release) := by
  unfold stage
  split
  · exact reckons_of_fails (fails_throw id)
  · refine (reckons_of_fails fails_outcome).bind fun captured => (reckons_order _).bind fun _ => ?_
    cases captured with
    | ok height => exact reckons_pure _
    | error _ => exact (reckons_order _).bind fun _ => reckons_pure _

/-- A node is not rolled out while it is staged. -/
lemma Stages.not_rolledOut {staging : Except UpgradeError Staged}
    (stages : Stages component release now es staging) : ¬ RolledOut component es := by
  cases stages <;> simp [RolledOut]

lemma Stages.captured? (stages : Stages component release now es (.ok staged)) :
    captured? (es ++ es') = staged.capturedHeight := by
  generalize eq : Except.ok staged = staging at stages
  cases stages with
  | unscheduled _ => cases eq
  | refused _ => cases eq
  | running _ =>
    cases eq
    rfl
  | @stopped _ _ _ _ restarted _ _ =>
    cases restarted with
    | error error => cases eq
    | ok _ =>
      cases eq
      rfl

/-- Before the rollout a failure comes from the parties. -/
lemma reckoned_of_not_rolledOut (not : ¬ RolledOut component es)
    (relayed : ∀ error, outcome = .error error → error.Numerical → Relayed es error) :
    Reckoned component captured activation es outcome where
  fails rolled := absurd rolled not
  only error eq numerical := .inl (relayed error eq numerical)
  overflow_iff rolled := absurd rolled not

/-- After the rollout only queries are made, and the numbers are all right. -/
lemma reckoned_of_within (within : ∀ error, ¬ Overruns captured activation error)
    (relayed : ∀ error, outcome = .error error → error.Numerical → Relayed es' error)
    (asked : ∀ e ∈ es', IsQuery e.request) (subset : es' ⊆ es) :
    Reckoned component captured activation es outcome where
  fails _ error overruns := absurd overruns (within error)
  only error eq numerical := .inl ((relayed error eq numerical).mono subset)
  overflow_iff _ height blocks := by
    constructor
    · exact fun eq => absurd (relayed _ eq trivial) (not_relayed_heightOverflow asked)
    · rintro ⟨known, rfl, past⟩
      exact absurd (.height known past) (within _)

lemma reckoned_of_overruns {error : UpgradeError} (rolled : RolledOut component es)
    (overruns : Overruns captured activation error) :
    Reckoned component captured activation es (.error error) where
  fails _ error' overruns' := by
    cases overruns with
    | height known _ =>
      cases overruns' with
      | height known' _ =>
        cases known.symm.trans known'
        rfl
      | time unknown _ => cases known.symm.trans unknown
    | time unknown _ =>
      cases overruns' with
      | height known _ => cases known.symm.trans unknown
      | time _ _ => rfl
  only error' eq _ := by
    cases eq
    exact .inr ⟨rolled, overruns⟩
  overflow_iff _ height blocks := by
    cases overruns with
    | height known past =>
      constructor
      · intro eq
        cases eq
        exact ⟨known, rfl, past⟩
      · rintro ⟨known', rfl, _⟩
        cases known.symm.trans known'
        rfl
    | time unknown _ =>
      refine ⟨nofun, fun past => ?_⟩
      cases unknown.symm.trans past.1

lemma Reckoned.append_left (not : ¬ RolledOut component es)
    (reckoned : Reckoned component captured activation es' outcome) :
    Reckoned component captured activation (es ++ es') outcome := by
  have rolled_iff : RolledOut component (es ++ es') ↔ RolledOut component es' := by
    constructor
    · rintro ⟨time, took, mem⟩
      exact (List.mem_append.1 mem).elim (fun mem => absurd ⟨time, took, mem⟩ not)
        fun mem => ⟨time, took, mem⟩
    · rintro ⟨time, took, mem⟩
      exact ⟨time, took, List.mem_append_right _ mem⟩
  constructor
  case fails => exact fun rolled => reckoned.fails (rolled_iff.1 rolled)
  case only =>
    intro error eq numerical
    rcases reckoned.only error eq numerical with relayed | ⟨rolled, overruns⟩
    · exact .inl (relayed.mono (List.subset_append_right _ _))
    · exact .inr ⟨rolled_iff.2 rolled, overruns⟩
  case overflow_iff => exact fun rolled => reckoned.overflow_iff (rolled_iff.1 rolled)

/-- A node that has activated is rolled out. -/
lemma rolledOut_of_awaitActivation {activated : Activated}
    (path : (awaitActivation (Role.upgraded.demanding name) Order.demanding component staged
      registry).Yields now es (.ok activated) finish) : RolledOut component es := by
  obtain ⟨result, took, rest, rfl, _, failed⟩ := awaits_of_awaitActivation path
  cases result with
  | error error => cases (failed error rfl).2
  | ok _ => exact ⟨_, took, List.mem_cons_self⟩

lemma reckoned_of_awaitActivation
    (path : (awaitActivation (Role.upgraded.demanding name) Order.demanding component staged
      registry).Yields now es outcome finish) :
    Reckoned component staged.capturedHeight staged.activationHeight es outcome := by
  rcases path.bind_cases with ⟨error, rfl, failed⟩ | ⟨_, rest, _, _, rfl, rolled, path⟩
  · obtain ⟨took, rfl, rfl⟩ :=
      (yields_demand_iff (.order (.waitForRollout component rolloutTimeout))).1 failed
    refine reckoned_of_not_rolledOut (by simp [RolledOut]) fun error' eq _ => ?_
    cases eq
    exact .order List.mem_cons_self
  obtain ⟨took, rfl, rfl⟩ :=
    (yields_demand_iff (.order (.waitForRollout component rolloutTimeout))).1 rolled
  by_cases overrun : ∃ error, Overruns staged.capturedHeight staged.activationHeight error
  · obtain ⟨error, overruns⟩ := overrun
    change (awaitHeight _ staged registry).Yields _ rest outcome finish at path
    obtain ⟨rfl, rfl, rfl⟩ := awaitHeight_of_overruns _ overruns path
    exact reckoned_of_overruns ⟨_, _, List.mem_cons_self⟩ overruns
  · have within := not_exists.1 overrun
    refine reckoned_of_within within (fun error eq numerical => ?_) (fun e mem => ?_)
      (List.subset_append_right _ rest)
    · exact reckons_awaitHeight within (eq ▸ path) numerical
    · obtain ⟨query, eq⟩ := asksOnly_awaitHeight path e mem
      exact ⟨_, query, eq⟩

/-- A node that has caught up was asked for its height until then, after the reference. -/
lemma reckoned_of_resumeAfterStall {stalled : Stalled}
    (path : (resumeAfterStall (Role.upgraded.demanding name) Order.demanding component release
      stalled (Role.reference.demanding other) registry).Yields now es outcome finish) :
    Reckoned component (Lifecycle.captured? es) stalled.activationHeight es outcome := by
  rcases path.bind_cases with ⟨error, rfl, failed⟩ | ⟨staging, _, staged, _, rfl, path', path⟩
  · refine reckoned_of_not_rolledOut (stages_of_stage failed).not_rolledOut fun _ eq numerical => ?_
    cases eq
    exact reckons_stage failed numerical
  have stages := stages_of_stage path'
  rw [stages.captured?]
  dsimp only at path
  split at path
  case isFalse =>
    obtain ⟨rfl, rfl, rfl⟩ := yields_throw_iff.1 path
    rw [List.append_nil]
    refine reckoned_of_not_rolledOut stages.not_rolledOut fun _ eq numerical => ?_
    cases eq
    exact numerical.elim
  rename_i same
  rw [← same]
  refine Reckoned.append_left stages.not_rolledOut ?_
  rcases path.bind_cases with ⟨error, rfl, failed⟩ | ⟨awaiting, rest, _, _, rfl, awaits, path⟩
  · exact reckoned_of_awaitActivation failed
  -- The node has activated, so no number was wrong before it catches up.
  have within (error) : ¬ Overruns staged.capturedHeight staged.activationHeight error := by
    intro overruns
    cases (reckoned_of_awaitActivation awaits).fails (rolledOut_of_awaitActivation awaits) error
      overruns
  have tried : AsksOnly (I := demands) IsQuery (Attempt.demand (.query .upgraded _)) :=
    asksOnly_demand ⟨_, .tryLastBlockHeight, rfl⟩
  have told : AsksOnly (I := demands) IsQuery (Attempt.demand (.query .reference _)) :=
    asksOnly_demand ⟨_, .lastBlockHeight, rfl⟩
  refine reckoned_of_within within (fun error eq numerical => ?_) ?_
    (List.subset_append_right awaiting rest)
  · subst eq
    refine Reckons.bind (reckons_query .reference (show .lastBlockHeight ≠ _ by decide))
      (fun target => ?_) path numerical
    exact (reckons_of_fails (fails_waitUntilHeight _ _ (pollInterval_lt_blockWait _))).bind
      fun _ => reckons_pure _
  · refine AsksOnly.bind (AsksOnly.widen _ told) (fun target => ?_) path
    exact (AsksOnly.widen _ (Query.asksOnly_pollUntil _ _ _ _ _ tried)).bind fun _ =>
      asksOnly_pure _

end Steps

section Numerate

variable {I : Interface} {σ : Type} {parties : Parties I} {world : World I σ} {now : Nat}
  {state : σ} {component : Component} {captured : Option Nat} {activation : Nat}
  {outcome : Except UpgradeError Activated} (numerate : parties.Numerate)
include numerate

/-- What parties reply with, if they do not fail for a number. -/
lemma not_numerical_of_relayed {α : Type} {step : Step α} {error : UpgradeError}
    (relayed : Relayed (step.trace parties world now state) error) : ¬ error.Numerical := by
  cases relayed with
  | @query _ _ _ cause _ retried mem =>
    obtain ⟨_, _, path⟩ := Step.yields_of_mem mem
    have budgeted : Query.Budgeted cause := numerate.queries _ _ retried path
    cases cause with
    | backoff cause => exact absurd rfl (budgeted cause)
    | _ => exact id
  | order mem =>
    obtain ⟨_, _, path⟩ := Step.yields_of_mem mem
    exact numerate.orders _ path

lemma Reckoned.eq_error_iff {step : Step Activated}
    (reckoned : Reckoned component captured activation (step.trace parties world now state) outcome)
    {error : UpgradeError} (numerical : error.Numerical) :
    outcome = .error error ↔
      RolledOut component (step.trace parties world now state) ∧
        Overruns captured activation error := by
  constructor
  · intro eq
    exact (reckoned.only error eq numerical).resolve_left fun relayed =>
      not_numerical_of_relayed numerate relayed numerical
  · exact fun overrun => reckoned.fails overrun.1 error overrun.2

end Numerate

/-- A node that is awaited, or resumed after a stall, fails for a number only in the two ways that
`Overruns` tells, unless a party itself replies with such a failure. Participants and charts never
do. So once the rollout is there, the height is too large exactly if one was captured to which the
margin cannot be added, and a time is no budget exactly if none was captured and activation is at
height zero. The time for any number of blocks fits the clock, and it is a budget, but for the one
in proportion to no blocks at all. -/
theorem numerical_failures {I : Interface} {σ : Type} (parties : Parties I) (world : World I σ)
    (component : Component) (registry : Registry) {now finish : Nat} {state last : σ}
    {outcome : Except UpgradeError Activated} :
    (∀ staged, (awaitActivation parties.node parties.deployer component staged registry).Ends world
        now state outcome finish last →
      let trace := (Step.awaiting component staged registry).trace parties world now state
      Reckoned component staged.capturedHeight staged.activationHeight trace outcome ∧
        (parties.Numerate → ∀ error, error.Numerical →
          (outcome = .error error ↔ RolledOut component trace ∧
            Overruns staged.capturedHeight staged.activationHeight error))) ∧
      (∀ release stalled, (resumeAfterStall parties.node parties.deployer component release stalled
          parties.reference registry).Ends world now state outcome finish last →
        let trace :=
          (Step.resuming component release stalled registry).trace parties world now state
        Reckoned component (captured? trace) stalled.activationHeight trace outcome ∧
          (parties.Numerate → ∀ error, error.Numerical →
            (outcome = .error error ↔ RolledOut component trace ∧
              Overruns (captured? trace) stalled.activationHeight error))) ∧
      (∀ upgraded reference root, (⟨Sequencer.node upgraded, Sequencer.node reference,
        Helm.deployer root⟩ : Parties network).Numerate) ∧
      ∀ blocks, Query.pollInterval < blockWait blocks ∧ blockWait blocks < Backoff.clockLimit ∧
        scaledWait blocks < Backoff.clockLimit ∧
        (Query.pollInterval < scaledWait blocks ↔ blocks ≠ 0) := by
  refine ⟨fun staged ends => ?_, fun release stalled ends => ?_, Sequencer.numerate, fun blocks =>
    ⟨pollInterval_lt_blockWait blocks, blockWait_lt_clockLimit blocks,
      scaledWait_lt_clockLimit blocks, pollInterval_lt_scaledWait_iff⟩⟩
  · have reckoned := reckoned_of_awaitActivation
      ((Step.awaiting component staged registry).yields_trace ends)
    exact ⟨reckoned, fun numerate _ => reckoned.eq_error_iff numerate⟩
  · have reckoned := reckoned_of_resumeAfterStall
      ((Step.resuming component release stalled registry).yields_trace ends)
    exact ⟨reckoned, fun numerate _ => reckoned.eq_error_iff numerate⟩

namespace Sample

/-- Participants that are reached through charts. -/
def reached : Parties network :=
  ⟨Sequencer.node (.validator "node2"), Sequencer.node (.validator "node1"), Helm.deployer "dev"⟩

/-- A network in which every program ends well after two seconds, and no node can be reached. -/
def silent : World network Unit where
  answer _ _
    | .post _ _ => (.failed "connection refused", 0, ())
    | .call _ _ _ => (.notConnected, 0, ())
    | .execute _ => (.ok ⟨.exited 0, [], []⟩, Duration.ofSecs 2, ())

end Sample

/-- A node captured at the last height of all is rolled out at two seconds, and cannot be asked to
get past it. One that had stopped is upgraded, restarted and rolled out by six seconds, and then has
no time to get to height zero. -/
theorem numerical_failures_sample :
    let awaiting := (Step.awaiting Sample.upgraded ⟨some maxUInt64, 60⟩ Sample.upgrades).trace
      Sample.reached Sample.silent 0 ()
    let release : Release := { upgrade := some ⟨"aspen", some 0⟩ }
    let resuming := (Step.resuming Sample.upgraded release ⟨0, none⟩ Sample.upgrades).trace
      Sample.reached Sample.silent 0 ()
    let starved := UpgradeError.query (.backoff (.timeoutTooShort 0 (Duration.ofSecs 1)))
    (awaitActivation Sample.reached.node Sample.reached.deployer Sample.upgraded
        ⟨some maxUInt64, 60⟩ Sample.upgrades).Ends Sample.silent 0 ()
        (.error (.heightOverflow maxUInt64 2)) (Duration.ofSecs 2) () ∧
      RolledOut Sample.upgraded awaiting ∧
      Overruns (some maxUInt64) 60 (.heightOverflow maxUInt64 2) ∧
      (resumeAfterStall Sample.reached.node Sample.reached.deployer Sample.upgraded release
        ⟨0, none⟩ Sample.reached.reference Sample.upgrades).Ends Sample.silent 0 ()
        (.error starved) (Duration.ofSecs 6) () ∧
      RolledOut Sample.upgraded resuming ∧ Overruns (captured? resuming) 0 starved := by
  intro awaiting release resuming starved
  have ends : (awaitActivation Sample.reached.node Sample.reached.deployer Sample.upgraded
      ⟨some maxUInt64, 60⟩ Sample.upgrades).Ends Sample.silent 0 ()
      (.error (.heightOverflow maxUInt64 2)) (Duration.ofSecs 2) () := rfl
  have ends' : (resumeAfterStall Sample.reached.node Sample.reached.deployer Sample.upgraded release
      ⟨0, none⟩ Sample.reached.reference Sample.upgrades).Ends Sample.silent 0 ()
      (.error starved) (Duration.ofSecs 6) () := rfl
  have awaited := (numerical_failures Sample.reached Sample.silent Sample.upgraded
    Sample.upgrades).1 _ ends
  have resumed := (numerical_failures Sample.reached Sample.silent Sample.upgraded
    Sample.upgrades).2.1 _ _ ends'
  have numerate : Sample.reached.Numerate := Sequencer.numerate _ _ _
  obtain ⟨rolled, overruns⟩ := (awaited.2 numerate (.heightOverflow maxUInt64 2) trivial).1 rfl
  obtain ⟨rolled', overruns'⟩ := (resumed.2 numerate starved trivial).1 rfl
  exact ⟨ends, rolled, overruns, ends', rolled', overruns'⟩

/-- A node that had stopped is at height 50 when it is awaited, which is past height zero. Yet it is
not asked, because it is given no time. -/
theorem no_time_for_height_zero :
    (awaitActivation Sample.parties.node Sample.parties.deployer Sample.upgraded ⟨none, 0⟩
        Sample.upgrades).Ends (Sample.climbing 0) 0 ()
        (.error (.query (.backoff (.timeoutTooShort 0 (Duration.ofSecs 1))))) (Duration.ofSecs 2)
        () ∧
      (Sample.climbing 0).answer () 0 (.query .upgraded .tryLastBlockHeight) = (.ok 50, 0, ()) :=
  ⟨rfl, rfl⟩

end Lifecycle

end UpgradeDrill
