import UpgradeDrill.Proofs.Upgrade.Activation

/-!
# The height captured before a restart

Staging a node asks for its height once, and whether the node can tell it decides all that follows:
whether the node is restarted after the upgrade, whether it has to catch up and is checked when it
is awaited, and by which way it counts as upgraded (`captured_height_decides`). Neither step goes on
after an order that fails.
-/

namespace UpgradeDrill

namespace Lifecycle

open Attempt

/-- Nothing is demanded after an order that fails, and the step fails as the order does. -/
def EndsAtFailure {α : Type} (es : List (Exchange demands)) (outcome : Except UpgradeError α) :
    Prop :=
  ∀ before time told error took after,
    es = before ++ ⟨time, .order told, .error error, took⟩ :: after →
    after = [] ∧ outcome = .error error

/-- The upgraded node is asked something. -/
def OfNode (demand : Demand) : Prop := ∃ query, demand = .query .upgraded query

section EndsAtFailure

variable {α : Type} {outcome : Except UpgradeError α} {es : List (Exchange demands)}

/-- Queries are no orders. -/
lemma endsAtFailure_of_queries (asked : ∀ e ∈ es, OfNode e.request) : EndsAtFailure es outcome := by
  rintro before time told error took after rfl
  obtain ⟨_, eq⟩ := asked _ (List.mem_append_right _ List.mem_cons_self)
  cases eq

lemma EndsAtFailure.query {time took : Nat} {role : Role} {query : NodeQuery}
    {reply : Except QueryError query.Value} (ends : EndsAtFailure es outcome) :
    EndsAtFailure (⟨time, .query role query, reply, took⟩ :: es) outcome := by
  intro before time' told error took' after eq
  cases before with
  | nil => cases eq
  | cons e before => exact ends before time' told error took' after (List.cons.inj eq).2

/-- An order is followed by something only if it does not fail. -/
lemma EndsAtFailure.order {time took : Nat} {told : Order} {result : Except UpgradeError Unit}
    (ends : EndsAtFailure es outcome)
    (failed : ∀ error, result = .error error → es = [] ∧ outcome = .error error) :
    EndsAtFailure (⟨time, .order told, result, took⟩ :: es) outcome := by
  intro before time' told' error took' after eq
  cases before with
  | nil =>
    cases eq
    exact failed error rfl
  | cons e before => exact ends before time' told' error took' after (List.cons.inj eq).2

lemma endsAtFailure_nil : EndsAtFailure [] outcome :=
  endsAtFailure_of_queries (List.forall_mem_nil _)

end EndsAtFailure

/-- The ways of staging a node: what is demanded, and what it comes to. -/
inductive Stages (component : Component) (release : Release) (now : Nat) :
    List (Exchange demands) → Except UpgradeError Staged → Prop where
  | unscheduled :
    release.activationHeight = none →
    Stages component release now [] (.error .missingActivationHeight)
  | refused {activation captured asked error took} :
    release.activationHeight = some activation →
    Stages component release now
      [⟨now, .query .upgraded .tryLastBlockHeight, captured, asked⟩,
        ⟨now + asked, .order (.upgrade component release), .error error, took⟩]
      (.error error)
  | running {activation height asked took} :
    release.activationHeight = some activation →
    Stages component release now
      [⟨now, .query .upgraded .tryLastBlockHeight, .ok height, asked⟩,
        ⟨now + asked, .order (.upgrade component release), .ok (), took⟩]
      (.ok ⟨some height, activation⟩)
  | stopped {activation error asked took restarted took'} :
    release.activationHeight = some activation →
    Stages component release now
      [⟨now, .query .upgraded .tryLastBlockHeight, .error error, asked⟩,
        ⟨now + asked, .order (.upgrade component release), .ok (), took⟩,
        ⟨now + asked + took, .order (.restart component), restarted, took'⟩]
      (restarted.map fun _ => ⟨none, activation⟩)

lemma Stages.endsAtFailure {component : Component} {release : Release} {now : Nat}
    {es : List (Exchange demands)} {outcome : Except UpgradeError Staged}
    (stages : Stages component release now es outcome) : EndsAtFailure es outcome := by
  cases stages with
  | unscheduled _ => exact endsAtFailure_nil
  | refused _ =>
    refine .query (.order endsAtFailure_nil fun error eq => ?_)
    cases eq
    exact ⟨rfl, rfl⟩
  | running _ =>
    refine .query (.order endsAtFailure_nil fun error eq => ?_)
    cases eq
  | stopped _ =>
    refine .query (.order (.order endsAtFailure_nil fun error eq => ?_) fun error eq => ?_)
    · rw [eq]
      exact ⟨rfl, rfl⟩
    · cases eq

section Demanding

variable {name : String} {component : Component} {release : Release} {staged : Staged}
  {registry : Registry} {now finish : Nat} {es : List (Exchange demands)}

lemma stages_of_stage {outcome : Except UpgradeError Staged}
    (path : (stage (Role.upgraded.demanding name) Order.demanding component release).Yields now es
      outcome finish) : Stages component release now es outcome := by
  unfold stage at path
  split at path
  · rename_i unscheduled
    obtain ⟨rfl, rfl, _⟩ := yields_throw_iff.1 path
    exact .unscheduled unscheduled
  · rename_i activation scheduled
    rcases path.bind_cases with ⟨_, _, failed⟩ | ⟨_, _, captured, _, rfl, told, path⟩
    · obtain ⟨_, _, eq⟩ := yields_outcome_iff.1 failed
      cases eq
    obtain ⟨_, told, eq⟩ := yields_outcome_iff.1 told
    cases eq
    obtain ⟨asked, rfl, rfl⟩ := (yields_demand_iff (.query .upgraded .tryLastBlockHeight)).1 told
    rcases path.bind_cases with ⟨error, rfl, failed⟩ | ⟨_, _, _, _, rfl, upgraded, path⟩
    · obtain ⟨took, rfl, rfl⟩ := (yields_demand_iff (.order (.upgrade component release))).1 failed
      exact .refused scheduled
    obtain ⟨took, rfl, rfl⟩ := (yields_demand_iff (.order (.upgrade component release))).1 upgraded
    cases captured with
    | ok height =>
      obtain ⟨rfl, rfl, rfl⟩ := yields_pure_iff.1 path
      exact .running scheduled
    | error error =>
      rcases path.bind_cases with ⟨error, rfl, failed⟩ | ⟨_, _, _, _, rfl, restarted, path⟩
      · obtain ⟨took', rfl, rfl⟩ := (yields_demand_iff (.order (.restart component))).1 failed
        exact .stopped scheduled
      · obtain ⟨took', rfl, rfl⟩ := (yields_demand_iff (.order (.restart component))).1 restarted
        obtain ⟨rfl, rfl, rfl⟩ := yields_pure_iff.1 path
        exact .stopped scheduled

lemma asksOnly_awaitHeight :
    (awaitHeight (Role.upgraded.demanding name) staged registry).AsksOnly OfNode := by
  have tried := asksOnly_demand (K := OfNode) ⟨.tryLastBlockHeight, rfl⟩
  have asked : (awaitRestart (Role.upgraded.demanding name) staged registry).AsksOnly OfNode :=
    asksOnly_awaitRestart tried (asksOnly_demand ⟨.lastBlockHeight, rfl⟩)
      (asksOnly_demand ⟨.upgradesInfo, rfl⟩) staged registry
  refine AsksOnly.bind asked fun restarted => ?_
  exact (AsksOnly.widen _ (Query.asksOnly_pollUntil _ _ _ _ _ tried)).bind fun _ =>
    asksOnly_pure _

/-- Awaiting a node begins with its rollout, and after that the node is only asked. -/
lemma awaits_of_awaitActivation {outcome : Except UpgradeError Activated}
    (path : (awaitActivation (Role.upgraded.demanding name) Order.demanding component staged
      registry).Yields now es outcome finish) :
    ∃ result took rest,
      es = ⟨now, .order (.waitForRollout component rolloutTimeout), result, took⟩ :: rest ∧
        (∀ e ∈ rest, OfNode e.request) ∧
        ∀ error, result = .error error → rest = [] ∧ outcome = .error error := by
  rcases path.bind_cases with ⟨error, rfl, failed⟩ | ⟨_, rest, _, _, rfl, rolled, path⟩
  · obtain ⟨took, rfl, rfl⟩ :=
      (yields_demand_iff (.order (.waitForRollout component rolloutTimeout))).1 failed
    refine ⟨_, took, [], rfl, List.forall_mem_nil _, fun error' eq => ?_⟩
    cases eq
    exact ⟨rfl, rfl⟩
  · obtain ⟨took, rfl, rfl⟩ :=
      (yields_demand_iff (.order (.waitForRollout component rolloutTimeout))).1 rolled
    exact ⟨_, took, rest, rfl, asksOnly_awaitHeight path, fun error eq => by cases eq⟩

end Demanding

/-- What is demanded when a node is staged. -/
structure Captures (component : Component) (release : Release) (now : Nat)
    (es : List (Exchange demands)) (outcome : Except UpgradeError Staged) : Prop where
  /-- Without an activation height nothing is asked, and nothing is done. -/
  unscheduled : release.activationHeight = none →
    es = [] ∧ outcome = .error .missingActivationHeight
  /-- Otherwise the height is asked for once, then the node is upgraded once, and it is restarted
  exactly if the query failed and the upgrade did not. -/
  scheduled : release.activationHeight ≠ none → ∃ captured asked upgraded took restarts,
    es = ⟨now, .query .upgraded .tryLastBlockHeight, captured, asked⟩ ::
        ⟨now + asked, .order (.upgrade component release), upgraded, took⟩ :: restarts ∧
      restarts.map (·.request) =
        if ¬ captured.isOk ∧ upgraded.isOk then [.order (.restart component)] else []
  failing : EndsAtFailure es outcome

/-- What is demanded when a staged node is awaited, given what was when it was staged. -/
structure Awaits (component : Component) (staged : Staged) (es es' : List (Exchange demands))
    (outcome : Except UpgradeError Activated) : Prop where
  failing : EndsAtFailure es' outcome
  /-- The node is not upgraded again, and not restarted. -/
  waits : ∀ e ∈ es', ∀ told, e.request = .order told →
    told = .waitForRollout component rolloutTimeout
  restarted_iff : ∀ activated, outcome = .ok activated →
    ((∃ e ∈ es, e.request = .order (.restart component)) ↔ staged.capturedHeight = none)
  stalled_iff : ∀ activated, outcome = .ok activated →
    (staged.capturedHeight = none ↔ activated.source = .stalled)
  /-- The node is neither asked where it stands nor for its upgrades. -/
  unchecked_iff : ∀ activated, outcome = .ok activated →
    (activated.source = .stalled ↔ ∀ e ∈ es', ∀ role,
      e.request ≠ .query role .lastBlockHeight ∧ e.request ≠ .query role .upgradesInfo)

section Claim

variable {component : Component} {release : Release} {staged : Staged} {registry : Registry}
  {now finish : Nat} {es es' : List (Exchange demands)}

lemma Stages.captures {outcome : Except UpgradeError Staged}
    (stages : Stages component release now es outcome) :
    Captures component release now es outcome where
  failing := stages.endsAtFailure
  unscheduled none := by
    cases stages with
    | unscheduled _ => exact ⟨rfl, rfl⟩
    | refused scheduled | running scheduled | stopped scheduled => cases none.symm.trans scheduled
  scheduled some := by
    cases stages with
    | unscheduled none => exact absurd none some
    | refused _ => exact ⟨_, _, _, _, [], rfl, (if_neg fun both => by cases both.2).symm⟩
    | running _ => exact ⟨_, _, _, _, [], rfl, (if_neg fun both => both.1 rfl).symm⟩
    | stopped _ => exact ⟨_, _, _, _, [_], rfl, (if_pos ⟨nofun, rfl⟩).symm⟩

/-- A node is restarted when it is staged exactly if no height is captured. -/
lemma Stages.restarted_iff (stages : Stages component release now es (.ok staged)) :
    (∃ e ∈ es, e.request = .order (.restart component)) ↔ staged.capturedHeight = none := by
  generalize eq : Except.ok staged = outcome at stages
  cases stages with
  | unscheduled _ => cases eq
  | refused _ => cases eq
  | running _ =>
    cases eq
    simp
  | @stopped _ _ _ _ restarted _ _ =>
    cases restarted with
    | error error => cases eq
    | ok _ =>
      cases eq
      simp

/-- A node counts as stalled exactly if no height was captured. -/
lemma Activates.stalled_iff {activated : Activated}
    (activates : Activates component staged registry now es activated finish) :
    staged.capturedHeight = none ↔ activated.source = .stalled := by
  cases activates with
  | stopped none _ => exact iff_of_true none rfl
  | running some _ _ _ =>
    rw [some]
    exact iff_of_false nofun nofun

/-- A node counts as stalled exactly if it was asked neither where it stands nor for its
upgrades. -/
lemma Activates.unchecked_iff {activated : Activated}
    (activates : Activates component staged registry now es activated finish) :
    activated.source = .stalled ↔ ∀ e ∈ es, ∀ role,
      e.request ≠ .query role .lastBlockHeight ∧ e.request ≠ .query role .upgradesInfo := by
  cases activates with
  | stopped _ shows =>
    refine iff_of_true rfl fun e mem role => ?_
    rcases List.mem_cons.1 mem with rfl | mem
    · exact ⟨nofun, nofun⟩
    · rw [shows.request mem]
      exact ⟨nofun, nofun⟩
  | @running _ _ _ _ _ latest _ _ _ _ _ _ _ _ _ _ =>
    refine iff_of_false nofun fun unchecked => ?_
    exact (unchecked _ (.tail _ (List.mem_append_right _ List.mem_cons_self)) .upgraded).1 rfl

/-- A staged node that is awaited runs as its captured height tells. -/
lemma Stages.awaits {outcome : Except UpgradeError Activated} {name : String} {begin : Nat}
    (stages : Stages component release now es (.ok staged))
    (path : (awaitActivation (Role.upgraded.demanding name) Order.demanding component staged
      registry).Yields begin es' outcome finish) : Awaits component staged es es' outcome := by
  have activates {activated : Activated} (eq : outcome = .ok activated) :
      Activates component staged registry begin es' activated finish :=
    activates_of_awaitActivation (eq ▸ path)
  constructor
  case failing =>
    obtain ⟨result, took, rest, rfl, asked, failed⟩ := awaits_of_awaitActivation path
    exact (endsAtFailure_of_queries asked).order failed
  case waits =>
    obtain ⟨result, took, rest, rfl, asked, _⟩ := awaits_of_awaitActivation path
    intro e mem told eq
    rcases List.mem_cons.1 mem with rfl | mem
    · cases eq
      rfl
    · obtain ⟨_, eq'⟩ := asked e mem
      cases eq.symm.trans eq'
  case restarted_iff => exact fun _ _ => stages.restarted_iff
  case stalled_iff => exact fun _ eq => (activates eq).stalled_iff
  case unchecked_iff => exact fun _ eq => (activates eq).unchecked_iff

end Claim

/-- What a node is asked for and told to do is decided by the height that is captured before its
restart, whatever the node and the deployer answer. No step goes on after an order that fails. -/
theorem captured_height_decides {I : Interface} {σ : Type} (parties : Parties I)
    (world : World I σ) (component : Component) (release : Release) (registry : Registry)
    {now finish : Nat} {state last : σ} {outcome : Except UpgradeError Staged}
    (ends : (stage parties.node parties.deployer component release).Ends world now state outcome
      finish last) :
    let staging := (Step.staging component release).trace parties world now state
    Captures component release now staging outcome ∧
      ∀ staged, outcome = .ok staged → ∀ {time later state' last' activation},
        (awaitActivation parties.node parties.deployer component staged registry).Ends world time
          state' activation later last' →
        Awaits component staged staging
          ((Step.awaiting component staged registry).trace parties world time state')
          activation := by
  intro staging
  have stages : Stages component release now staging outcome :=
    stages_of_stage ((Step.staging component release).yields_trace ends)
  refine ⟨stages.captures, ?_⟩
  rintro staged rfl time later state' last' activation ends'
  exact stages.awaits ((Step.awaiting component staged registry).yields_trace ends')

/-- A node that cannot tell its height is restarted after the upgrade, at four seconds. It is at the
activation height after ten and was asked for nothing else. -/
theorem captured_height_decides_sample :
    let staging := (Step.staging Sample.upgraded Sample.scheduling).trace Sample.parties
      (Sample.climbing (Duration.ofSecs 3)) 0 ()
    (stage Sample.parties.node Sample.parties.deployer Sample.upgraded Sample.scheduling).Ends
        (Sample.climbing (Duration.ofSecs 3)) 0 () (.ok ⟨none, 60⟩) (Duration.ofSecs 4) () ∧
      Captures Sample.upgraded Sample.scheduling 0 staging (.ok ⟨none, 60⟩) ∧
      (awaitActivation Sample.parties.node Sample.parties.deployer Sample.upgraded ⟨none, 60⟩
        Sample.upgrades).Ends (Sample.climbing (Duration.ofSecs 3)) (Duration.ofSecs 4) ()
        (.ok ⟨.stalled, 60⟩) (Duration.ofSecs 10) () ∧
      Awaits Sample.upgraded ⟨none, 60⟩ staging
        ((Step.awaiting Sample.upgraded ⟨none, 60⟩ Sample.upgrades).trace Sample.parties
          (Sample.climbing (Duration.ofSecs 3)) (Duration.ofSecs 4) ())
        (.ok ⟨.stalled, 60⟩) := by
  have ends : (stage Sample.parties.node Sample.parties.deployer Sample.upgraded
      Sample.scheduling).Ends (Sample.climbing (Duration.ofSecs 3)) 0 () (.ok ⟨none, 60⟩)
      (Duration.ofSecs 4) () :=
    ends_of_stateless (by decide +kernel) (by decide +kernel)
  have ends' : (awaitActivation Sample.parties.node Sample.parties.deployer Sample.upgraded
      ⟨none, 60⟩ Sample.upgrades).Ends (Sample.climbing (Duration.ofSecs 3)) (Duration.ofSecs 4) ()
      (.ok ⟨.stalled, 60⟩) (Duration.ofSecs 10) () :=
    ends_of_stateless (by decide +kernel) (by decide +kernel)
  obtain ⟨captures, awaits⟩ := captured_height_decides _ _ _ _ Sample.upgrades ends
  exact ⟨ends, captures, ends', awaits _ rfl ends'⟩

end Lifecycle

end UpgradeDrill
