import UpgradeDrill.Json.Basic
import UpgradeDrill.Network.Command
import UpgradeDrill.Network.Grpc
import UpgradeDrill.Network.Http
import UpgradeDrill.Routine.Basic

/-!
# The outside of a drill

What a drill asks of the machine it runs on and of the nodes it deploys.
-/

namespace UpgradeDrill

/-- A request to the outside. -/
inductive NetworkRequest where
  | post (url : String) (payload : Json)
  /-- Connects to a url and sends one message to a method. -/
  | call (url path : String) (message : List UInt8)
  | execute (command : Command)

/-- The outside of a drill. -/
def network : Interface where
  Request := NetworkRequest
  Reply
    | .post _ _ => HttpReply
    | .call _ _ _ => GrpcReply
    | .execute _ => Except SystemError CommandOutput

end UpgradeDrill
