import UpgradeDrill.Json.Parser
import UpgradeDrill.Json.Printer
import UpgradeDrill.Network.Interface
import UpgradeDrill.Text.Hex
import UpgradeDrill.Text.Utf8

/-!
# Requests and replies as lines

The program leaves it to whoever runs it to reach the network and to start programs: a request is
one line of JSON, and so is its reply. A reply that cannot be read counts as no reply.
-/

namespace UpgradeDrill

namespace NetworkRequest

def toJson : NetworkRequest → Json
  | post url payload => Json.ofMembers [("post", .str url), ("payload", payload)]
  | call url path message =>
    Json.ofMembers
      [("call", .str url), ("path", .str path), ("message", .str (Hex.ofBytes message))]
  | execute command =>
    Json.ofMembers
      [("execute", .str command.program), ("arguments", .arr (command.arguments.map .str)),
        ("directory", (command.directory.map Json.str).getD .null)]

end NetworkRequest

namespace Relay

def text? (reply : Json) (key : String) : Option String :=
  match reply.get? key with
  | some (.str text) => some text
  | _ => none

def nat? (reply : Json) (key : String) : Option Nat :=
  match reply.get? key with
  | some (.num (.int n)) => if 0 ≤ n then some n.toNat else none
  | _ => none

def bytes? (reply : Json) (key : String) : Option (List UInt8) :=
  (text? reply key).bind Hex.toBytes?

/-- A response, whose body is given if it is a text, or why there is none. -/
def readResponse (reply : Json) : HttpReply :=
  match nat? reply "status", text? reply "body" with
  | some status, some body => .response status body
  | some status, none => .binary status
  | none, _ => .failed ((text? reply "failed").getD "no reply")

/-- A reply to a call: a message, a status, or why the connection is no good. -/
def readCall (reply : Json) : GrpcReply :=
  match bytes? reply "message", nat? reply "code", text? reply "notReady" with
  | some bytes, _, _ => .message bytes
  | none, some code, _ => .refused ⟨.ofNumber code, (text? reply "text").getD ""⟩
  | none, none, some reason => .notReady reason
  | none, none, none => .notConnected

def readError : Option String → SystemError
  | some "permissionDenied" => .permissionDenied
  | some "notDirectory" => .notDirectory
  | some "nameTooLong" => .nameTooLong
  | some "nulByte" => .nulByte
  | _ => .notFound

/-- How a command ended: its exit code or signal, and what it printed. -/
def readOutput (reply : Json) : Except SystemError CommandOutput :=
  let ended (status : ExitStatus) : CommandOutput :=
    ⟨status, (bytes? reply "stdout").getD [], (bytes? reply "stderr").getD []⟩
  match nat? reply "exit", nat? reply "signal" with
  | some code, _ => .ok (ended (.exited code))
  | none, some signal => .ok (ended (.signalled signal))
  | none, none => .error (readError (text? reply "error"))

def readReply (request : NetworkRequest) (line : String) : network.Reply request :=
  let reply := (Json.parse? line).getD .null
  match request with
  | .post _ _ => readResponse reply
  | .call _ _ _ => readCall reply
  | .execute _ => readOutput reply

end Relay

end UpgradeDrill
