import UpgradeDrill.Query.Field
import UpgradeDrill.Query.JsonRpc
import UpgradeDrill.Query.Retry

/-!
# The rollup

The rollup node, asked over JSON-RPC with parameters by position. Queries are made once; what takes
a while to happen is polled.
-/

namespace UpgradeDrill.Rollup

/-- Where the rollup of the local development cluster is reached. -/
def defaultUrl : String := "http://executor.astria.localdev.me/"

def participant : String := "rollup"

/-- The balance of an address at the latest block. -/
def balance (url address : String) : Attempt network QueryError Nat := do
  let result ← JsonRpc.call url "eth_getBalance" (.arr [.str address, .str "latest"])
  Attempt.ofExcept result.quantity

def waitUntilBalance (url address : String) (expected timeout : Nat) :
    Attempt network QueryError (Query.Poll Nat) :=
  Query.pollUntil participant ("balance of " ++ address ++ s!" to equal {expected}") timeout
    toString (balance url address) (· == expected)

def finalizedHeight (url : String) : Attempt network QueryError Nat := do
  let result ← JsonRpc.call url "eth_getBlockByNumber" (.arr [.str "finalized", .bool false])
  Attempt.ofExcept ((result.field ["number"]).bind Json.blockNumber)

def waitUntilFinalizedHeight (url : String) (height timeout : Nat) :
    Attempt network QueryError (Query.Poll Nat) :=
  Query.pollUntil participant s!"finalize block {height}" timeout toString (finalizedHeight url)
    (height ≤ ·)

/-- Submits a signed transaction and gives its hash. -/
def sendRawTransaction (url transaction : String) : Attempt network QueryError String := do
  let result ← JsonRpc.call url "eth_sendRawTransaction" (.arr [.str transaction])
  match result.toText? with
  | some hash => return hash
  | none => throw (.invalidField "hash" result)

def transactionBlockNumber (url hash : String) : Attempt network QueryError Nat := do
  let receipt ← JsonRpc.call url "eth_getTransactionReceipt" (.arr [.str hash])
  Attempt.ofExcept ((receipt.field ["blockNumber"]).bind Json.blockNumber)

end UpgradeDrill.Rollup
