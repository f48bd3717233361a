import UpgradeDrill.Backoff
import UpgradeDrill.Json.Printer
import UpgradeDrill.Network.Grpc
import UpgradeDrill.Network.Http

/-!
# Errors of queries
-/

namespace UpgradeDrill

inductive QueryError where
  /-- The time allowed for the query is no budget. -/
  | backoff (cause : BackoffError)
  | request (reason : String)
  | status (code : Nat)
  | jsonRpc (method : String) (error : Json)
  | missingField (field : String)
  | invalidField (field : String) (value : Json)
  | unexpectedMoniker (expected reported : String)
  | transport (cause : TransportFailure)
  | grpc (status : GrpcStatus)
  /-- Every attempt failed until the time was up. -/
  | retriesExhausted (participant operation : String) (attempts : Nat) (last : QueryError)
  /-- No value was the awaited one until the time was up. -/
  | unsatisfied (participant operation : String) (timeout : Nat) (last : String)

namespace QueryError

/-- Whether a single attempt failed, so that another may succeed. -/
def isAttempt : QueryError → Bool
  | backoff _ | retriesExhausted .. | unsatisfied .. => false
  | _ => true

def message : QueryError → String
  | backoff cause => "invalid backoff: " ++ cause.message
  | request reason => "request failed: " ++ reason
  | status code => "unexpected http status: " ++ HttpReply.statusText code
  | jsonRpc method error =>
    "json-rpc error response for `" ++ method ++ "`: " ++ error.render
  | missingField field => "missing field: " ++ field
  | invalidField field value => "invalid field " ++ field ++ ": " ++ value.render
  | unexpectedMoniker expected reported =>
    "unexpected moniker: expected " ++ expected ++ ", node reported " ++ reported
  | transport cause => "grpc transport failed: " ++ cause.message
  | grpc cause => "grpc request failed: " ++ cause.message
  | retriesExhausted participant operation attempts last =>
    participant ++ ": " ++ operation ++ s!" failed {attempts} times, giving up: " ++ last.message
  | unsatisfied participant operation timeout last =>
    participant ++ ": " ++ operation ++ " not satisfied within " ++ Duration.render timeout ++
      " (last observed: " ++ last ++ ")"

end QueryError

end UpgradeDrill
