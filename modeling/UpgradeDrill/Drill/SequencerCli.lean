import UpgradeDrill.Drill.Error
import UpgradeDrill.Network.Interface
import UpgradeDrill.Node.Participant
import UpgradeDrill.Query.Retry
import UpgradeDrill.Text.Blank
import UpgradeDrill.Text.Digits
import UpgradeDrill.Text.Utf8

/-!
# The command-line client of the sequencer

Actions on the sequencer are submitted, and balances read, by running its command-line client. A
command is retried with doubling delays until it succeeds; a balance is polled every second.
-/

namespace UpgradeDrill

structure SequencerCli where
  program : String
  /-- Arguments before those of the client itself. -/
  base : List String
  retryTimeout : Nat
  deriving DecidableEq, Repr

namespace SequencerCli

def defaultRetryTimeout : Nat := Duration.ofSecs 10

def image : String := "ghcr.io/astriaorg/astria-cli"

/-- The asset that fees are paid in and balances are given in. -/
def asset : String := "nria"

def chainArg : String := "--sequencer.chain-id=sequencer-test-chain-0"

/-- The account that funds are locked on to cross the bridge. -/
def bridgeAccount : String := "astria13ahqz4pjqfmynk9ylrqv4fwe4957x2p0h5782u"

def bridgeAccountKey : String := "dfa7108e38ab71f89f356c72afc38600d5758f11a8c337164713e4471411d2e0"

/-- The key of an account that has funds from the start. -/
def fundedAccountKey : String := "934ab488f9e1900f6a08f50605ce1409ca9d95ebdc400dafc2e8a4306419fd52"

/-- The key that may change the set of validators. -/
def sudoKey : String := "2bd806c97f0e00af1a1fc3328fa763a9269723c8db8fac4f93af71db186d6e90"

def ofProgram (program : String) (base : List String) : SequencerCli :=
  ⟨program, base, defaultRetryTimeout⟩

def docker (tag : String) : SequencerCli :=
  ofProgram "docker" ["run", "--rm", "--network", "host", image ++ ":" ++ tag]

def command (cli : SequencerCli) (participant : Participant) (args : List String) : Command where
  program := cli.program
  arguments :=
    cli.base ++ "sequencer" :: args ++ ["--sequencer-url=" ++ participant.rpcUrl]
  directory := none

def printed (bytes : List UInt8) : List Char := Utf8.decodeLossy bytes

/-- What a command printed, if it ended well. -/
def ofOutput (line : String) : Except SystemError CommandOutput → Except DrillError String
  | .error cause => .error (.io cause)
  | .ok output =>
    if output.status.success then .ok (String.ofList (printed output.stdout))
    else
      .error (.cliFailed line output.status (String.ofList (trimBlanks (printed output.stderr))))

/-- Runs a command once, and gives what it printed. -/
def tryExec (cli : SequencerCli) (participant : Participant) (args : List String) :
    Attempt network DrillError String := do
  let command := cli.command participant args
  let result ← Attempt.request (I := network) (.execute command)
  Attempt.ofExcept (ofOutput command.line result)

def execFrom (cli : SequencerCli) (participant : Participant) (args : List String)
    (session : Backoff) : Attempt network DrillError String := do
  let (outcome, took) ← (cli.tryExec participant args).timed
  match outcome with
  | .ok stdout => return stdout
  | .error error =>
    let session := session.pass took
    match _granted : session.wait with
    | .ok next => do
      Attempt.sleep session.delay
      execFrom cli participant args next
    | .error _ =>
      throw (.cliRetriesExhausted (cli.command participant args).line (session.waits + 1) error)
termination_by session.remaining
decreasing_by
  exact Nat.lt_of_lt_of_le (Backoff.remaining_lt_of_wait _granted) (Backoff.remaining_pass_le _ _)

/-- Runs a command until it succeeds, with doubling delays between the attempts. -/
def exec (cli : SequencerCli) (participant : Participant) (args : List String) :
    Attempt network DrillError String := do
  match Backoff.start (.doubling cli.retryTimeout) (← Attempt.readClock) with
  | .ok session => cli.execFrom participant args session
  | .error error => throw (.backoff error)

/-- Checks that a command fails, in whatever way it ends. -/
def ensureRejected (cli : SequencerCli) (participant : Participant) (args : List String) :
    Attempt network DrillError Unit := do
  match ← Attempt.outcome (cli.tryExec participant args) with
  | .ok _ => throw (.notRejected (cli.command participant args).line)
  | .error (.cliFailed ..) => return
  | .error error => throw error

def assetArgs : List String := ["--fee-asset=" ++ asset, "--asset=" ++ asset]

def initBridgeAccount (cli : SequencerCli) (participant : Participant) :
    Attempt network DrillError Unit := do
  let _ ← cli.exec participant
    (["init-bridge-account", "--rollup-name=astria", "--private-key=" ++ bridgeAccountKey, chainArg]
      ++ assetArgs)

def bridgeLock (cli : SequencerCli) (participant : Participant) (amount : Nat)
    (destination : String) : Attempt network DrillError Unit := do
  let _ ← cli.exec participant
    (["bridge-lock", bridgeAccount, s!"--amount={amount}",
        "--destination-chain-address=" ++ destination, "--private-key=" ++ fundedAccountKey,
        chainArg] ++ assetArgs)

/-- Names the validator with a public key, and sets its power. -/
def validatorUpdate (cli : SequencerCli) (participant : Participant) (pubKey : String)
    (power : Nat) : Attempt network DrillError Unit := do
  let _ ← cli.tryExec participant
    ["sudo", "validator-update", chainArg, "--validator-public-key=" ++ pubKey,
      "--private-key=" ++ sudoKey, s!"--power={power}", "--name=" ++ participant.name]

/-- The last line of a text; a line break at the end begins no line. -/
def lastLine (text : List Char) : List Char :=
  let reversed := text.reverse
  let reversed := if reversed.head? = some '\n' then reversed.tail else reversed
  (reversed.takeWhile (· ≠ '\n')).reverse

/-- A text without an ending; `none` if it does not end so. -/
def dropEnd? (ending text : List Char) : Option (List Char) :=
  if ending.isSuffixOf text then some (text.take (text.length - ending.length)) else none

/-- The balance on the last line of what the client printed: digits and the asset. -/
def parseBalance (stdout : String) : Option Nat :=
  (dropEnd? asset.toList (trimBlanks (lastLine stdout.toList))).bind (Digits.below? 10 uint128Size)

def balanceArgs (account : String) : List String := ["account", "balance", account]

def balance (cli : SequencerCli) (participant : Participant) (account : String) :
    Attempt network DrillError Nat := do
  let stdout ← cli.exec participant (balanceArgs account)
  match parseBalance stdout with
  | some balance => return balance
  | none => throw (.unexpectedOutput (cli.command participant (balanceArgs account)).line stdout)

def waitFrom (cli : SequencerCli) (participant : Participant) (account : String)
    (expected timeout : Nat) (last : Option Nat) (session : Backoff) :
    Attempt network DrillError Nat := do
  let (outcome, took) ← (cli.balance participant account).timed
  let session := session.pass took
  if outcome.toOption = some expected then return expected
  else
    let last := outcome.toOption.or last
    match _granted : session.wait with
    | .ok next => do
      Attempt.sleep session.delay
      waitFrom cli participant account expected timeout last next
    | .error _ => throw (.balanceUnsatisfied account expected timeout last)
termination_by session.remaining
decreasing_by
  exact Nat.lt_of_lt_of_le (Backoff.remaining_lt_of_wait _granted) (Backoff.remaining_pass_le _ _)

/-- Polls the balance of an account every second until it is the expected one. -/
def waitUntilBalance (cli : SequencerCli) (participant : Participant) (account : String)
    (expected timeout : Nat) : Attempt network DrillError Nat := do
  match Backoff.start (.fixed timeout Query.pollInterval) (← Attempt.readClock) with
  | .ok session => cli.waitFrom participant account expected timeout none session
  | .error error => throw (.backoff error)

end SequencerCli

end UpgradeDrill
