import UpgradeDrill.Node.Basic
import UpgradeDrill.Routine.Run
import UpgradeDrill.Simulation.Node
import UpgradeDrill.Upgrade.Deployer

/-!
# Simulated networks

Simulated nodes and a deployer that keeps a record of what it was asked to do. Nothing takes time
but waiting.
-/

namespace UpgradeDrill

/-- A request to a simulated deployer, with the name of the component. -/
inductive DeployerCall where
  | install (name : String) (release : Release)
  | upgrade (name : String) (release : Release)
  | restart (name : String)
  | waitForRollout (name : String) (timeout : Nat)

def DeployerCall.name : DeployerCall → String
  | install name _ | upgrade name _ | restart name | waitForRollout name _ => name

/-- What can be asked of a simulated network, of a node by its place. -/
inductive SimulationRequest where
  | height (place : Nat)
  | appVersion (place : Nat)
  | genesisAppVersion (place : Nat)
  | voteExtensionsEnableHeight (place : Nat)
  | block (place height : Nat)
  | upgradesInfo (place : Nat)
  | change (place : Nat) (change : NodeChange)
  | deploy (call : DeployerCall)

def simulation : Interface where
  Request := SimulationRequest
  Reply
    | .height _ | .appVersion _ | .genesisAppVersion _ | .voteExtensionsEnableHeight _ =>
      Except QueryError Nat
    | .block _ _ => Except QueryError Block
    | .upgradesInfo _ => Except QueryError UpgradesInfo
    | .change _ _ | .deploy _ => Unit

structure SimulatedNetwork where
  nodes : List SimulatedNode
  /-- How long a node that is restarted by the deployer is down. -/
  downtime : Nat
  /-- What the deployer was asked to do, the latest first. -/
  calls : List DeployerCall := []
  /-- Whether a height was met that 64 bits cannot hold, or a time that no clock reads, so that
  nothing said since then counts. -/
  overflowed : Bool := false

namespace SimulatedNetwork

/-- Looks at a node: what has become due is settled. -/
def look (net : SimulatedNetwork) (now place : Nat) : SimulatedNetwork :=
  { net with
    nodes := net.nodes.modify place (·.settle now)
    overflowed := net.overflowed || (net.nodes[place]?).any (·.overflows now) }

/-- Asks a node something, which it answers at a height if it runs. -/
def ask {α : Type} (net : SimulatedNetwork) (now place : Nat)
    (reply : SimulatedNode → (height : Nat) → Except QueryError α) :
    Except QueryError α × SimulatedNetwork :=
  let net := net.look now place
  match net.nodes[place]? with
  | none => (.error (.status 503), net)
  | some node => ((node.reachableHeight now).bind (reply node), net)

def apply (net : SimulatedNetwork) (now place : Nat) (change : NodeChange) : SimulatedNetwork :=
  let net := if change.looks then net.look now place else net
  { net with
    nodes := net.nodes.modify place (·.apply now change)
    overflowed := net.overflowed || (net.nodes[place]?).isSome && change.outlasts now }

/-- The place of the node that a component's name stands for: the last one with that name. -/
def placeOf? (net : SimulatedNetwork) (name : String) : Option Nat :=
  (net.nodes.zipIdx.filter (·.1.name = name)).getLast?.map (·.2)

/-- What a deployment does to a node. A stopped node is not replaced until it is restarted. -/
def deployTo (net : SimulatedNetwork) (now place : Nat) : DeployerCall → SimulatedNetwork
  | .install .. | .restart _ => net.apply now place (.restart net.downtime)
  | .upgrade .. =>
    let net := net.look now place
    if (net.nodes[place]?).any (·.status.isRunning) then
      net.apply now place (.restart net.downtime)
    else net.apply now place .replaceBinary
  | .waitForRollout .. => net

def deploy (net : SimulatedNetwork) (now : Nat) (call : DeployerCall) : SimulatedNetwork :=
  let net := { net with calls := call :: net.calls }
  match net.placeOf? call.name with
  | some place => net.deployTo now place call
  | none => net

def answer (net : SimulatedNetwork) (now : Nat) :
    (request : SimulationRequest) → simulation.Reply request × SimulatedNetwork
  | .height place => net.ask now place fun _ height => .ok height
  | .appVersion place => net.ask now place fun node _ => .ok node.appVersion
  | .genesisAppVersion place => net.ask now place fun node _ => .ok node.genesisAppVersion
  | .voteExtensionsEnableHeight place =>
    net.ask now place fun node _ => .ok node.voteExtensionsEnableHeight
  | .block place height =>
    net.ask now place fun node latest =>
      if latest < height then .error (.missingField "block") else .ok (node.blockAt height)
  | .upgradesInfo place =>
    let (reply, net) : Except QueryError UpgradesInfo × SimulatedNetwork :=
      net.ask now place fun node _ => .ok node.upgrades
    let count (node : SimulatedNode) : SimulatedNode :=
      if node.status.isRunning then { node with upgradesQueries := node.upgradesQueries + 1 }
      else node
    (reply, { net with nodes := net.nodes.modify place count })
  | .change place change => ((), net.apply now place change)
  | .deploy call => ((), net.deploy now call)

def world : World simulation SimulatedNetwork where
  answer net now request :=
    let (reply, net) := net.answer now request
    (reply, 0, net)

/-- The heights of the nodes that run at some time, in order. -/
def heights (net : SimulatedNetwork) (now : Nat) : List (Option Nat) × SimulatedNetwork :=
  let net := (List.range net.nodes.length).foldl (fun net place => net.look now place) net
  (net.nodes.map fun node => (node.reachableHeight now).toOption, net)

/-- What a node that was asked replied, as a query. -/
def replied {α : Type} (asked : Attempt simulation QueryError (Except QueryError α)) :
    Attempt simulation QueryError α :=
  asked >>= Attempt.ofExcept

def node (place : Nat) (name : String) : Node simulation where
  name
  tryLastBlockHeight := replied (Attempt.request (I := simulation) (.height place))
  lastBlockHeight := replied (Attempt.request (I := simulation) (.height place))
  currentAppVersion := replied (Attempt.request (I := simulation) (.appVersion place))
  genesisAppVersion := replied (Attempt.request (I := simulation) (.genesisAppVersion place))
  voteExtensionsEnableHeight :=
    replied (Attempt.request (I := simulation) (.voteExtensionsEnableHeight place))
  block height := replied (Attempt.request (I := simulation) (.block place height))
  upgradesInfo := replied (Attempt.request (I := simulation) (.upgradesInfo place))

/-- A request to the deployer, which never fails. -/
def deployment (call : DeployerCall) : Attempt simulation UpgradeError Unit :=
  Attempt.request (I := simulation) (.deploy call)

def deployer : Deployer simulation where
  install component release := deployment (.install component.name release)
  upgrade component release := deployment (.upgrade component.name release)
  restart component := deployment (.restart component.name)
  waitForRollout component timeout := deployment (.waitForRollout component.name timeout)

end SimulatedNetwork

end UpgradeDrill
