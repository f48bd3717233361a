import UpgradeDrill.Backoff
import UpgradeDrill.Chain.Change
import UpgradeDrill.Query.Error
import UpgradeDrill.Text.Digits

/-!
# Simulated nodes

A node of a chain that gains a block each second while it runs. A node can be taken down for a
while, stop at once, or be set to stop when it reaches a height. What has become due by some time is
settled when the node is next looked at.
-/

namespace UpgradeDrill

inductive NodeStatus where
  /-- At a height since a time, and a block higher for each second since. -/
  | running (base since : Nat)
  /-- At a height, and back at a time. -/
  | down (height back : Nat)
  | crashed (height : Nat)
  deriving DecidableEq, Repr

namespace NodeStatus

def blockTime : Nat := Duration.ofSecs 1

def height (now : Nat) : NodeStatus → Nat
  | running base since => base + (now - since) / blockTime
  | down height _ => height
  | crashed height => height

/-- Whether the node answers. -/
def isRunning : NodeStatus → Bool
  | running .. => true
  | _ => false

/-- A node that is back by some time runs since it was back. -/
def resumed (now : Nat) : NodeStatus → NodeStatus
  | down height back => if back ≤ now then running height back else down height back
  | status => status

/-- A running node that has reached the height at which it is to stop stands at that height. -/
def stopped (crashAt : Option Nat) (now : Nat) (status : NodeStatus) : NodeStatus :=
  match crashAt with
  | some limit => if status.isRunning ∧ limit ≤ status.height now then crashed limit else status
  | none => status

end NodeStatus

structure SimulatedNode where
  name : String
  status : NodeStatus
  /-- The height at which the node stops. -/
  crashAt : Option Nat := none
  appVersion : Nat := 1
  genesisAppVersion : Nat := 1
  voteExtensionsEnableHeight : Nat := 0
  /-- The first height whose block carries commit info. -/
  commitInfoFrom : Option Nat := none
  upgrades : UpgradesInfo := {}
  upgradesQueries : Nat := 0

inductive NodeChange where
  /-- Stops the node when it reaches a height. -/
  | crashAt (height : Nat)
  /-- Stops the node at once. -/
  | crash
  /-- Takes the node down for a while; it no longer stops at a height. -/
  | restart (downtime : Nat)
  /-- The node no longer stops at a height. -/
  | replaceBinary
  | setAppVersion (version : Nat)
  | setGenesisAppVersion (version : Nat)
  | setVoteExtensionsEnableHeight (height : Nat)
  | setCommitInfoFrom (height : Option Nat)
  | setUpgrades (info : UpgradesInfo)

/-- Whether a change looks at the node first. -/
def NodeChange.looks : NodeChange → Bool
  | crash | restart _ => true
  | _ => false

/-- Whether a change made at some time takes the node down until a time that no clock reads. -/
def NodeChange.outlasts (now : Nat) : NodeChange → Bool
  | restart downtime => Backoff.clockLimit ≤ now + downtime
  | _ => false

namespace SimulatedNode

def start (name : String) (height : Nat) : SimulatedNode := { name, status := .running height 0 }

/-- The node with everything settled that has become due. -/
def settle (node : SimulatedNode) (now : Nat) : SimulatedNode :=
  { node with status := (node.status.resumed now).stopped node.crashAt now }

/-- Whether settling meets a height that 64 bits cannot hold. -/
def overflows (node : SimulatedNode) (now : Nat) : Bool :=
  let status := node.status.resumed now
  status.isRunning && maxUInt64 < status.height now

/-- The height at some time, if the node answers. -/
def reachableHeight (node : SimulatedNode) (now : Nat) : Except QueryError Nat :=
  let status := (node.settle now).status
  if status.isRunning then .ok (status.height now) else .error (.status 503)

def apply (node : SimulatedNode) (now : Nat) : NodeChange → SimulatedNode
  | .crashAt height => { node with crashAt := some height }
  | .crash =>
    let node := node.settle now
    { node with status := .crashed (node.status.height now) }
  | .restart downtime =>
    let node := node.settle now
    { node with crashAt := none, status := .down (node.status.height now) (now + downtime) }
  | .replaceBinary => { node with crashAt := none }
  | .setAppVersion version => { node with appVersion := version }
  | .setGenesisAppVersion version => { node with genesisAppVersion := version }
  | .setVoteExtensionsEnableHeight height => { node with voteExtensionsEnableHeight := height }
  | .setCommitInfoFrom height => { node with commitInfoFrom := height }
  | .setUpgrades info => { node with upgrades := info }

/-- A height as eight bytes, the highest first. -/
def heightBytes (height : Nat) : List UInt8 :=
  (List.range 8).map fun place => UInt8.ofNat (height / Nat.pow 256 (7 - place))

def blockAt (node : SimulatedNode) (height : Nat) : Block :=
  { hash := heightBytes height
    commitInfo := (node.commitInfoFrom.filter (· ≤ height)).map fun _ =>
      ⟨heightBytes height, List.replicate 32 0⟩ }

end SimulatedNode

end UpgradeDrill
