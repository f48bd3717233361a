import UpgradeDrill.CommandLine.Program
import UpgradeDrill.Network.Relay

/-!
# The command line

Runs the program: requests go out as lines on the standard output, replies come in as lines on the
standard input, and waiting takes real time.
-/

namespace UpgradeDrill.Console

def relay (request : NetworkRequest) : IO (network.Reply request) := do
  let stdout ← IO.getStdout
  stdout.putStrLn request.toJson.render
  stdout.flush
  return Relay.readReply request (← (← IO.getStdin).getLine)

def waitUntil (time : Nat) : IO Unit := do
  let now ← IO.monoNanosNow
  if now < time then IO.sleep (Duration.wholeMillis (time - now) + 1).toUInt32

/-- Carries out a routine whose last wait ended at a time. The time that a reply took has passed
when it is there, so waiting for it ends at once. -/
def carryOut {α : Type} (time : Nat) : Routine network α → IO α
  | .done value => return value
  | .ask request next => do
    let asked ← IO.monoNanosNow
    let reply ← relay request
    let replied ← IO.monoNanosNow
    carryOut (max time asked) (next reply (replied - asked))
  | .wait pause next => do
    waitUntil (time + pause)
    carryOut (time + pause) next
  | .clock next => do
    let now ← IO.monoNanosNow
    carryOut time (next (max time now))

/-- The text in a file. A file that cannot be opened counts as missing, and bytes that are no text
as a text that is no configuration. -/
def readConfig (path : String) : IO (Except SystemError String) := do
  try
    let bytes ← IO.FS.readBinFile path
    return .ok ((Utf8.decode? bytes.toList).getD "")
  catch _ => return .error .notFound

def fileOf (invocation : Invocation) : IO (Except SystemError String) :=
  match invocation with
  | .run options => readConfig options.configPath
  | _ => return .error .notFound

def perform (arguments : List String) : IO UInt32 := do
  let invocation := CommandLine.read arguments
  let file ← fileOf invocation
  let ending ← carryOut (← IO.monoNanosNow) (Program.perform (fun _ => file) invocation)
  IO.print ending.output
  if ending.complaint ≠ "" then IO.eprintln ending.complaint
  return ending.exitCode.toUInt32

end UpgradeDrill.Console

def main (arguments : List String) : IO UInt32 := UpgradeDrill.Console.perform arguments
