import UpgradeDrill.Json.Printer
import UpgradeDrill.Network.Interface
import UpgradeDrill.Rehearsal.Machine
import UpgradeDrill.Rehearsal.Source
import UpgradeDrill.Routine.Run
import UpgradeDrill.Text.Digits

/-!
# Rehearsals

A drill is rehearsed against an outside whose replies are laid down in advance: HTTP responses by
url and JSON-RPC method, gRPC replies by url and method, and the output of commands by their command
lines. A rehearsal keeps a log of what it was asked.
-/

namespace UpgradeDrill

/-- The body of a laid down response. -/
inductive PlannedBody where
  | text (body : String)
  /-- The application info of a chain that has a block more each block time. -/
  | chain (base since blockTime : Nat) (appVersion : Json)
  | failed (reason : String)

/-- A laid down response to an HTTP request. -/
structure PlannedResponse where
  status : Nat
  body : PlannedBody
  took : Nat

inductive PlannedConnection where
  | opened
  | refused
  | notReady (reason : String)

/-- What a gRPC call asks for: the url, the method, and the message sent if it matters. -/
structure CallKind where
  url : String
  path : String
  message : Option (List UInt8)
  deriving DecidableEq

/-- An outside with its replies laid down, and the log of what it was asked. -/
structure Rehearsal where
  machine : Machine
  /-- Responses by url and JSON-RPC method. -/
  responses : Sources (String × String) PlannedResponse := []
  /-- The urls that gRPC connections can be made to. -/
  hosts : List String := []
  connections : Sources String PlannedConnection := []
  replies : Sources CallKind GrpcReply := []
  rules : List CommandRule := []
  /-- What was asked, the latest first: requests that were sent and commands that were started. -/
  log : List NetworkRequest := []

namespace Rehearsal

def chainHeight (base since blockTime now : Nat) : Nat :=
  min (base + (now - since) / blockTime) maxUInt64

/-- A JSON-RPC response with a result or an error. -/
def envelope (key : String) (value : Json) : Json :=
  Json.ofMembers [("jsonrpc", .str "2.0"), ("id", Json.ofNat 1), (key, value)]

def chainInfo (height : Nat) (appVersion : Json) : Json :=
  Json.ofMembers
    [("response", Json.ofMembers
      [("last_block_height", .str (toString height)), ("app_version", appVersion)])]

/-- What arrives of a response that was laid down, at some time. -/
def arrival (response : PlannedResponse) (now : Nat) : HttpReply :=
  match response.body with
  | .failed reason => .failed reason
  | .text body => .response response.status body
  | .chain base since blockTime appVersion =>
    let info := chainInfo (chainHeight base since blockTime now) appVersion
    .response response.status (envelope "result" info).render

def methodOf (payload : Json) : String :=
  match payload.get? "method" with
  | some (.str method) => method
  | _ => ""

/-- Posts a request. Nothing answers where no response is laid down. -/
def post (rehearsal : Rehearsal) (now : Nat) (url : String) (payload : Json) :
    HttpReply × Nat × Rehearsal :=
  let (response, responses) := Sources.next (url, methodOf payload) now rehearsal.responses
  let rehearsal := { rehearsal with responses, log := .post url payload :: rehearsal.log }
  match response with
  | some response => (arrival response (now + response.took), response.took, rehearsal)
  | none => (.failed "unreachable", 0, rehearsal)

/-- Sends a message over a connection. A reply to the very message is preferred. -/
def send (rehearsal : Rehearsal) (now : Nat) (url path : String) (message : List UInt8) :
    GrpcReply × Nat × Rehearsal :=
  let (exact, replies) := Sources.next ⟨url, path, some message⟩ now rehearsal.replies
  let (reply, replies) :=
    match exact with
    | some reply => (some reply, replies)
    | none => Sources.next ⟨url, path, none⟩ now replies
  let rehearsal := { rehearsal with replies, log := .call url path message :: rehearsal.log }
  (reply.getD (.refused ⟨.unimplemented, "not scripted"⟩), 0, rehearsal)

/-- Connects and sends a message if the connection is good. -/
def call (rehearsal : Rehearsal) (now : Nat) (url path : String) (message : List UInt8) :
    GrpcReply × Nat × Rehearsal :=
  if rehearsal.hosts.contains url then
    let (connection, connections) := Sources.next url now rehearsal.connections
    let rehearsal := { rehearsal with connections }
    match connection.getD .opened with
    | .opened => rehearsal.send now url path message
    | .refused => (.notConnected, 0, rehearsal)
    | .notReady reason => (.notReady reason, 0, rehearsal)
  else (.notConnected, 0, rehearsal)

def execute (rehearsal : Rehearsal) (command : Command) :
    Except SystemError CommandOutput × Nat × Rehearsal :=
  match rehearsal.machine.startError? command with
  | some error => (.error error, 0, rehearsal)
  | none =>
    let (output, rules) := CommandRule.next command.line rehearsal.rules
    (.ok output, 0, { rehearsal with rules, log := .execute command :: rehearsal.log })

def world : World network Rehearsal where
  answer rehearsal now
    | .post url payload => rehearsal.post now url payload
    | .call url path message => rehearsal.call now url path message
    | .execute command => rehearsal.execute command

end Rehearsal

end UpgradeDrill
