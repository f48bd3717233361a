import UpgradeDrill.Chain.Change
import UpgradeDrill.Query.Retry

/-!
# Nodes

What an upgrade asks of a node, whether it is reached over a network or simulated.
-/

namespace UpgradeDrill

/-- A node that can be queried over some interface. -/
structure Node (I : Interface) where
  name : String
  /-- The latest height, asked for once. -/
  tryLastBlockHeight : Attempt I QueryError Nat
  lastBlockHeight : Attempt I QueryError Nat
  /-- The app version in effect. -/
  currentAppVersion : Attempt I QueryError Nat
  genesisAppVersion : Attempt I QueryError Nat
  /-- The height from which vote extensions are enabled, zero if they are not. -/
  voteExtensionsEnableHeight : Attempt I QueryError Nat
  block : (height : Nat) → Attempt I QueryError Block
  upgradesInfo : Attempt I QueryError UpgradesInfo

def Node.waitUntilHeight {I : Interface} (node : Node I) (height timeout : Nat) :
    Attempt I QueryError (Query.Poll Nat) :=
  Query.pollUntil node.name s!"reach block {height}" timeout toString node.tryLastBlockHeight
    (height ≤ ·)

end UpgradeDrill
