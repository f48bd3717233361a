import UpgradeDrill.Network.Interface
import UpgradeDrill.Network.Uri
import UpgradeDrill.Query.Error
import UpgradeDrill.Wire.Message

/-!
# gRPC calls

A single call over a connection of its own.
-/

namespace UpgradeDrill.GrpcCall

def getBlock : String := "/astria.sequencerblock.v1.SequencerService/GetSequencerBlock"

def getUpgradesInfo : String := "/astria.sequencerblock.v1.SequencerService/GetUpgradesInfo"

def getValidatorName : String := "/astria.sequencerblock.v1.SequencerService/GetValidatorName"

def ofReply {M : Type} [Wire.Message M] : GrpcReply → Except QueryError M
  | .notConnected => .error (.transport .notConnected)
  | .notReady reason => .error (.grpc ⟨.unavailable, "service not ready: " ++ reason⟩)
  | .refused status => .error (.grpc status)
  | .message bytes =>
    match Wire.decode? bytes with
    | some message => .ok message
    | none => .error (.grpc ⟨.internal, "failed to decode Protobuf message"⟩)

/-- Connects to a url and sends one message to a method. -/
def unary {M N : Type} [Wire.Message M] [Wire.Message N] (url path : String) (message : M) :
    Attempt network QueryError N :=
  if Uri.isValid url then do
    let reply ← Attempt.request (I := network) (.call url path (Wire.encode message))
    Attempt.ofExcept (ofReply reply)
  else throw (.transport .invalidUri)

end UpgradeDrill.GrpcCall
