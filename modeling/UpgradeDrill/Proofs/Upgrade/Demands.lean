import UpgradeDrill.Proofs.Query.Retry
import UpgradeDrill.Proofs.Routine.Handled
import UpgradeDrill.Proofs.Upgrade.Asks

/-!
# What the steps of an upgrade demand

A step of the upgrade of a node turns to the outside only with queries to nodes and orders to a
deployer. These are the requests of an interface of their own, `demands`, over which there are
parties whose every method is one request. Whatever parties take part over whatever interface, a
step of theirs runs as the same step of the demanding parties does in the world in which their
methods answer (`Step.carried`). So the demands of a step are those of its run, and its
outcome is decided by the replies to them.
-/

namespace UpgradeDrill

open Attempt

/-- What a node can be asked. -/
inductive NodeQuery where
  | tryLastBlockHeight
  | lastBlockHeight
  | currentAppVersion
  | genesisAppVersion
  | voteExtensionsEnableHeight
  | block (height : Nat)
  | upgradesInfo
  deriving DecidableEq

namespace NodeQuery

@[reducible] def Value : NodeQuery → Type
  | block _ => Block
  | upgradesInfo => UpgradesInfo
  | _ => Nat

/-- How a node is asked. -/
def of {I : Interface} (node : Node I) : (query : NodeQuery) → Attempt I QueryError query.Value
  | tryLastBlockHeight => node.tryLastBlockHeight
  | lastBlockHeight => node.lastBlockHeight
  | currentAppVersion => node.currentAppVersion
  | genesisAppVersion => node.genesisAppVersion
  | voteExtensionsEnableHeight => node.voteExtensionsEnableHeight
  | block height => node.block height
  | upgradesInfo => node.upgradesInfo

end NodeQuery

/-- What a deployer can be told to do. -/
inductive Order where
  | install (component : Component) (release : Release)
  | upgrade (component : Component) (release : Release)
  | restart (component : Component)
  | waitForRollout (component : Component) (timeout : Nat)

def Order.of {I : Interface} (deployer : Deployer I) : Order → Attempt I UpgradeError Unit
  | install component release => deployer.install component release
  | upgrade component release => deployer.upgrade component release
  | restart component => deployer.restart component
  | waitForRollout component timeout => deployer.waitForRollout component timeout

/-- Those who take part in the upgrade of a node. -/
structure Parties (I : Interface) where
  node : Node I
  /-- The node whose height the upgraded one catches up with. -/
  reference : Node I
  deployer : Deployer I

/-- What part a node has. -/
inductive Role where
  | upgraded
  | reference
  deriving DecidableEq

def Parties.nodeOf {I : Interface} (parties : Parties I) : Role → Node I
  | .upgraded => parties.node
  | .reference => parties.reference

/-- What a step asks of the parties to it. -/
inductive Demand where
  | query (role : Role) (asked : NodeQuery)
  | order (told : Order)

namespace Demand

@[reducible] def Error : Demand → Type
  | query .. => QueryError
  | order _ => UpgradeError

@[reducible] def Value : Demand → Type
  | query _ asked => asked.Value
  | order _ => Unit

/-- How parties meet a demand. -/
def of {I : Interface} (parties : Parties I) :
    (demand : Demand) → Attempt I demand.Error demand.Value
  | query role asked => asked.of (parties.nodeOf role)
  | order told => told.of parties.deployer

end Demand

/-- The interface of demands. Each is answered with an outcome. -/
@[reducible] def demands : Interface := ⟨Demand, fun demand => Except demand.Error demand.Value⟩

/-- Makes a demand and gives the outcome it is answered with. -/
def Attempt.demand (demand : Demand) : Attempt demands demand.Error demand.Value := do
  let reply ← Attempt.request (I := demands) demand
  Attempt.ofExcept reply

/-- A node whose every query is one demand. -/
def Role.demanding (role : Role) (name : String) : Node demands where
  name := name
  tryLastBlockHeight := demand (.query role .tryLastBlockHeight)
  lastBlockHeight := demand (.query role .lastBlockHeight)
  currentAppVersion := demand (.query role .currentAppVersion)
  genesisAppVersion := demand (.query role .genesisAppVersion)
  voteExtensionsEnableHeight := demand (.query role .voteExtensionsEnableHeight)
  block height := demand (.query role (.block height))
  upgradesInfo := demand (.query role .upgradesInfo)

/-- The deployer whose every operation is one demand. -/
def Order.demanding : Deployer demands where
  install component release := demand (.order (.install component release))
  upgrade component release := demand (.order (.upgrade component release))
  restart component := demand (.order (.restart component))
  waitForRollout component timeout := demand (.order (.waitForRollout component timeout))

namespace Parties

variable {I : Interface} (parties : Parties I)

def handler : Handler demands I := fun demand => (demand.of parties).run

/-- Parties of the same names that turn every query and operation into a demand. -/
def demanding : Parties demands where
  node := Role.upgraded.demanding parties.node.name
  reference := Role.reference.demanding parties.reference.name
  deployer := Order.demanding

/-- Parties meet each demand as their methods do. -/
lemma carriesOut_demand (demand : Demand) :
    (demand.of parties).CarriesOut parties.handler (Attempt.demand demand) := by
  have handled : (demand.of parties).run = id <$> parties.handler demand := (id_map _).symm
  exact carriesOut_request handled

end Parties

namespace Lifecycle

section CarriesOut

variable {I : Interface} (parties : Parties I)

lemma carriesOut_waitUntilHeight (height timeout : Nat) :
    (parties.node.waitUntilHeight height timeout).CarriesOut parties.handler
      (parties.demanding.node.waitUntilHeight height timeout) :=
  Query.carriesOut_pollUntil _ _ _ _ _
    (parties.carriesOut_demand (.query .upgraded .tryLastBlockHeight))

lemma carriesOut_stage (component : Component) (release : Release) :
    (stage parties.node parties.deployer component release).CarriesOut parties.handler
      (stage parties.demanding.node parties.demanding.deployer component release) := by
  unfold stage
  split
  · exact carriesOut_throw _
  · refine (parties.carriesOut_demand (.query .upgraded .tryLastBlockHeight)).outcome.bind
      fun captured => ?_
    refine (parties.carriesOut_demand (.order (.upgrade component release))).bind fun _ => ?_
    cases captured with
    | ok height => exact carriesOut_pure _
    | error _ =>
      exact (parties.carriesOut_demand (.order (.restart component))).bind fun _ =>
        carriesOut_pure _

lemma carriesOut_checkScheduled (registry : Registry) :
    (checkScheduled parties.node registry).CarriesOut parties.handler
      (checkScheduled parties.demanding.node registry) := by
  refine ((parties.carriesOut_demand (.query .upgraded .upgradesInfo)).widen _).bind fun info => ?_
  split
  · exact carriesOut_ofExcept _
  · exact carriesOut_throw _

lemma carriesOut_awaitRestart (staged : Staged) (registry : Registry) :
    (awaitRestart parties.node staged registry).CarriesOut parties.handler
      (awaitRestart parties.demanding.node staged registry) := by
  unfold awaitRestart
  split
  · refine (carriesOut_ofExcept _).bind fun target => ?_
    refine ((carriesOut_waitUntilHeight parties _ _).widen _).bind fun _ => ?_
    refine ((parties.carriesOut_demand (.query .upgraded .lastBlockHeight)).widen _).bind
      fun latest => ?_
    dsimp only
    split
    · exact (carriesOut_checkScheduled parties registry).bind fun _ => carriesOut_pure _
    · exact carriesOut_pure _
  · exact carriesOut_pure _

lemma carriesOut_awaitActivation (component : Component) (staged : Staged) (registry : Registry) :
    (awaitActivation parties.node parties.deployer component staged registry).CarriesOut
      parties.handler
      (awaitActivation parties.demanding.node parties.demanding.deployer component staged
        registry) := by
  refine (parties.carriesOut_demand (.order (.waitForRollout component rolloutTimeout))).bind
    fun _ => ?_
  refine (carriesOut_awaitRestart parties staged registry).bind fun _ => ?_
  exact ((carriesOut_waitUntilHeight parties _ _).widen _).bind fun _ => carriesOut_pure _

lemma carriesOut_resumeAfterStall (component : Component) (release : Release) (stalled : Stalled)
    (registry : Registry) :
    (resumeAfterStall parties.node parties.deployer component release stalled parties.reference
      registry).CarriesOut parties.handler
      (resumeAfterStall parties.demanding.node parties.demanding.deployer component release stalled
        parties.demanding.reference registry) := by
  refine (carriesOut_stage parties component release).bind fun staged => ?_
  dsimp only
  split
  · refine (carriesOut_awaitActivation parties component staged registry).bind fun _ => ?_
    refine ((parties.carriesOut_demand (.query .reference .lastBlockHeight)).widen _).bind
      fun target => ?_
    exact ((carriesOut_waitUntilHeight parties _ _).widen _).bind fun _ => carriesOut_pure _
  · exact carriesOut_throw _

end CarriesOut

/-- A step of an upgrade turns to the outside only through the parties to it. -/
structure Step (α : Type) where
  attempt : ∀ {I : Interface}, Parties I → Attempt I UpgradeError α
  carried : ∀ {I : Interface} (parties : Parties I),
    (attempt parties).CarriesOut parties.handler (attempt parties.demanding)

namespace Step

def staging (component : Component) (release : Release) : Step Staged where
  attempt parties := stage parties.node parties.deployer component release
  carried parties := carriesOut_stage parties component release

def awaiting (component : Component) (staged : Staged) (registry : Registry) : Step Activated where
  attempt parties := awaitActivation parties.node parties.deployer component staged registry
  carried parties := carriesOut_awaitActivation parties component staged registry

def resuming (component : Component) (release : Release) (stalled : Stalled)
    (registry : Registry) : Step Activated where
  attempt parties :=
    resumeAfterStall parties.node parties.deployer component release stalled parties.reference
      registry
  carried parties := carriesOut_resumeAfterStall parties component release stalled registry

variable {I : Interface} {α σ : Type} (step : Step α) (parties : Parties I) (world : World I σ)

/-- The demands that the run of a step makes, with the outcomes of the methods that meet them. -/
def trace (now : Nat) (state : σ) : List (Exchange demands) :=
  (step.attempt parties.demanding).run.exchanges (world.handled parties.handler) now state

variable {parties world}

/-- The run of a step is a path of its demands. -/
theorem yields_trace {now finish : Nat} {state last : σ} {outcome : Except UpgradeError α}
    (ends : (step.attempt parties).Ends world now state outcome finish last) :
    (step.attempt parties.demanding).Yields now (step.trace parties world now state) outcome
      finish := by
  have demanded := (step.carried parties).ends_iff.1 ends
  exact Plays.yields ⟨rfl, demanded⟩

end Step

section Paths

variable {now finish : Nat} {es : List (Exchange demands)}

/-- A demand is a single exchange. -/
lemma yields_demand_iff (demand : Demand) {outcome : Except demand.Error demand.Value} :
    (Attempt.demand demand).Yields now es outcome finish ↔
      ∃ took, es = [⟨now, demand, outcome, took⟩] ∧ finish = now + took := by
  constructor
  · intro path
    obtain ⟨_, took, rfl, rfl, rfl⟩ := Query.yields_understand_iff.1 path
    exact ⟨took, rfl, rfl⟩
  · rintro ⟨took, rfl, rfl⟩
    exact Query.yields_understand_iff.2 ⟨outcome, took, rfl, rfl, rfl⟩

lemma asksOnly_demand {K : Demand → Prop} {demand : Demand} (kind : K demand) :
    AsksOnly (I := demands) K (Attempt.demand demand) :=
  (asksOnly_request kind).bind fun reply => asksOnly_ofExcept reply

/-- The node is asked for its height until it tells one that is no less than another. The last query
is asked within a span. -/
def Shows (awaited within now : Nat) (es : List (Exchange demands)) (height finish : Nat) : Prop :=
  ∃ before time took,
    es = before ++ [⟨time, .query .upgraded .tryLastBlockHeight, .ok height, took⟩] ∧
      (∀ e ∈ before, e.request = .query .upgraded .tryLastBlockHeight) ∧
      awaited ≤ height ∧ now ≤ time ∧ time ≤ now + within ∧ finish = time + took

lemma Shows.request {awaited within height : Nat}
    (shows : Shows awaited within now es height finish) {e : Exchange demands} (mem : e ∈ es) :
    e.request = .query .upgraded .tryLastBlockHeight := by
  obtain ⟨before, time, took, rfl, asked, _⟩ := shows
  rcases List.mem_append.1 mem with mem | mem
  · exact asked e mem
  · cases List.mem_singleton.1 mem
    rfl

/-- A wait for a height that succeeds has been shown that height. -/
lemma shows_of_waitUntilHeight {name : String} {height timeout : Nat} {poll : Query.Poll Nat}
    (path : ((Role.upgraded.demanding name).waitUntilHeight height timeout).Yields now es (.ok poll)
      finish) : Shows height timeout now es poll.value finish := by
  have only : ((Role.upgraded.demanding name).waitUntilHeight height timeout).AsksOnly
      fun demand : Demand => demand = .query .upgraded .tryLastBlockHeight :=
    Query.asksOnly_pollUntil _ _ _ _ _ (asksOnly_demand rfl)
  obtain ⟨reached, before, after, time, rfl, le, early, last⟩ := Query.value_of_pollUntil path
  obtain ⟨took, rfl, rfl⟩ := (yields_demand_iff (.query .upgraded .tryLastBlockHeight)).1 last
  exact ⟨before, time, took, rfl, fun e mem => only path e (List.mem_append_left _ mem),
    of_decide_eq_true reached, le, early, rfl⟩

end Paths

namespace Sample

/-- Parties of which everything is demanded. -/
def parties : Parties demands :=
  ⟨Role.upgraded.demanding "node2", Role.reference.demanding "node1", Order.demanding⟩

/-- What a node at a height tells. A change is scheduled for height 60. -/
def told (height : Nat) : (query : NodeQuery) → Except QueryError query.Value
  | .tryLastBlockHeight | .lastBlockHeight => .ok height
  | .upgradesInfo => .ok { scheduled := [⟨60, "price_feed_change", 2, "aGFzaA=="⟩] }
  | _ => .error (.status 404)

/-- A network that was at height 50 at first and gains a block each second. The upgraded node tells
nothing before some time, the reference is five blocks ahead, and orders take two seconds. -/
def climbing (since : Nat) : World demands Unit where
  answer _ now
    | .query .upgraded query =>
      (if now < since then .error (.status 503) else told (50 + Duration.wholeSecs now) query,
        0, ())
    | .query .reference query => (told (55 + Duration.wholeSecs now) query, 0, ())
    | .order _ => (.ok (), Duration.ofSecs 2, ())

def upgrades : Registry := ⟨[⟨"aspen", ["price_feed_change"], 60⟩]⟩

def upgraded : Component := .sequencer "node2" "astria-validator-node2"

/-- A release that schedules the upgrade. -/
def scheduling : Release := { upgrade := some ⟨"aspen", some 60⟩ }

end Sample

end Lifecycle

end UpgradeDrill
