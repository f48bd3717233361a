import UpgradeDrill.Json.Parser
import UpgradeDrill.Network.Interface
import UpgradeDrill.Query.Error

/-!
# JSON-RPC requests

A single request and how its reply is classified: the status of the response is looked at first,
then whether the body is JSON, then whether it has a result.
-/

namespace UpgradeDrill.JsonRpc

def payload (method : String) (params : Json) : Json :=
  Json.ofMembers
    [("jsonrpc", .str "2.0"), ("method", .str method), ("params", params), ("id", Json.ofNat 1)]

def result (method : String) (body : Json) : Except QueryError Json :=
  match body.get? "result" with
  | some result => .ok result
  | none => .error (.jsonRpc method ((body.get? "error").getD .null))

def notJson : QueryError := .request "error decoding response body"

def ofReply (method : String) : HttpReply → Except QueryError Json
  | .failed reason => .error (.request reason)
  | .response status body =>
    if status ≠ 200 then .error (.status status)
    else
      match Json.parse? body with
      | none => .error notJson
      | some body => result method body
  | .binary status => .error (if status ≠ 200 then .status status else notJson)

def call (url method : String) (params : Json) : Attempt network QueryError Json := do
  let reply ← Attempt.request (I := network) (.post url (payload method params))
  Attempt.ofExcept (ofReply method reply)

end UpgradeDrill.JsonRpc
