import UpgradeDrill.Text.Quoted

/-!
# gRPC replies
-/

namespace UpgradeDrill

/-- The result codes of gRPC. -/
inductive GrpcCode where
  | ok
  | cancelled
  | unknown
  | invalidArgument
  | deadlineExceeded
  | notFound
  | alreadyExists
  | permissionDenied
  | resourceExhausted
  | failedPrecondition
  | aborted
  | outOfRange
  | unimplemented
  | internal
  | unavailable
  | dataLoss
  | unauthenticated
  deriving DecidableEq, Repr

namespace GrpcCode

/-- The code with a given number; a number without a code is unknown. -/
def ofNumber : Nat → GrpcCode
  | 0 => ok
  | 1 => cancelled
  | 3 => invalidArgument
  | 4 => deadlineExceeded
  | 5 => notFound
  | 6 => alreadyExists
  | 7 => permissionDenied
  | 8 => resourceExhausted
  | 9 => failedPrecondition
  | 10 => aborted
  | 11 => outOfRange
  | 12 => unimplemented
  | 13 => internal
  | 14 => unavailable
  | 15 => dataLoss
  | 16 => unauthenticated
  | _ => unknown

def name : GrpcCode → String
  | ok => "Ok"
  | cancelled => "Cancelled"
  | unknown => "Unknown"
  | invalidArgument => "InvalidArgument"
  | deadlineExceeded => "DeadlineExceeded"
  | notFound => "NotFound"
  | alreadyExists => "AlreadyExists"
  | permissionDenied => "PermissionDenied"
  | resourceExhausted => "ResourceExhausted"
  | failedPrecondition => "FailedPrecondition"
  | aborted => "Aborted"
  | outOfRange => "OutOfRange"
  | unimplemented => "Unimplemented"
  | internal => "Internal"
  | unavailable => "Unavailable"
  | dataLoss => "DataLoss"
  | unauthenticated => "Unauthenticated"

end GrpcCode

/-- How a call that was not answered with a message ended. -/
structure GrpcStatus where
  code : GrpcCode
  text : String
  deriving DecidableEq, Repr

def GrpcStatus.message (status : GrpcStatus) : String :=
  "status: " ++ status.code.name ++ ", message: " ++ quoted status.text ++
    ", details: [], metadata: MetadataMap \x7b headers: \x7b\x7d \x7d"

inductive TransportFailure where
  | invalidUri
  | notConnected
  deriving DecidableEq, Repr

def TransportFailure.message : TransportFailure → String
  | invalidUri => "invalid URI"
  | notConnected => "transport error"

/-- How one call over a new connection ends. -/
inductive GrpcReply where
  | notConnected
  | notReady (reason : String)
  | refused (status : GrpcStatus)
  | message (bytes : List UInt8)

end UpgradeDrill
