import UpgradeDrill.Chain.Messages
import UpgradeDrill.Node.Basic
import UpgradeDrill.Node.Participant
import UpgradeDrill.Query.Field
import UpgradeDrill.Query.GrpcCall
import UpgradeDrill.Query.JsonRpc
import UpgradeDrill.Text.Base64

/-!
# Sequencer nodes

A sequencer node reached over the network. Only the request itself is retried: a reply that was
received but lacks a field, or has a malformed one, fails the query at once.
-/

namespace UpgradeDrill

/-- A validator of the active set. -/
structure Validator where
  address : String
  votingPower : Nat
  deriving DecidableEq, Repr

/-- The identity that a node reports. -/
structure NodeInfo where
  moniker : String
  address : String
  /-- The public key in hexadecimal digits. -/
  pubKey : String
  votingPower : Nat
  deriving DecidableEq, Repr

namespace Sequencer

def rpcTimeout : Nat := Duration.ofSecs 30

def grpcTimeout : Nat := Duration.ofSecs 10

/-- How long the identity of a node is asked for: the node may still be starting. -/
def statusTimeout : Nat := Duration.ofSecs 600

def noParams : Json := .obj []

def rpc (participant : Participant) (method : String) (params : Json) (timeout : Nat) :
    Attempt network QueryError Json :=
  Query.retry participant.name method timeout (JsonRpc.call participant.rpcUrl method params)

def grpc {M N : Type} [Wire.Message M] [Wire.Message N] (participant : Participant)
    (operation path : String) (message : M) : Attempt network QueryError N :=
  Query.retry participant.name operation grpcTimeout
    (GrpcCall.unary participant.grpcUrl path message)

def heightIn (result : Json) : Except QueryError Nat :=
  result.uint64Field ["response", "last_block_height"]

def lastBlockHeight (participant : Participant) : Attempt network QueryError Nat := do
  let result ← rpc participant "abci_info" noParams rpcTimeout
  Attempt.ofExcept (heightIn result)

/-- The height from which vote extensions are enabled. The parameters of the chain are asked for at
the latest height, because asking for them without one may fail to find them. -/
def voteExtensionsEnableHeight (participant : Participant) : Attempt network QueryError Nat := do
  let height ← lastBlockHeight participant
  let params := Json.ofMembers [("height", .str (toString height))]
  let result ← rpc participant "consensus_params" params rpcTimeout
  Attempt.ofExcept
    (result.uint64Field ["consensus_params", "abci", "vote_extensions_enable_height"])

def node (participant : Participant) : Node network where
  name := participant.name
  tryLastBlockHeight := do
    let result ← JsonRpc.call participant.rpcUrl "abci_info" noParams
    Attempt.ofExcept (heightIn result)
  lastBlockHeight := lastBlockHeight participant
  currentAppVersion := do
    let result ← rpc participant "abci_info" noParams rpcTimeout
    Attempt.ofExcept (result.uint64Field ["response", "app_version"])
  genesisAppVersion := do
    let result ← rpc participant "genesis" noParams rpcTimeout
    Attempt.ofExcept (result.uint64Field ["genesis", "consensus_params", "version", "app"])
  voteExtensionsEnableHeight := voteExtensionsEnableHeight participant
  block height :=
    grpc participant s!"get sequencer block {height}" GrpcCall.getBlock (BlockRequest.mk height)
  upgradesInfo := grpc participant "get upgrades info" GrpcCall.getUpgradesInfo UpgradesRequest.mk

def validatorIn (item : Json) : Except QueryError Validator := do
  return {
    address := ← item.textField ["address"]
    votingPower := ← item.uint64Field ["voting_power"] }

def validatorsIn (result : Json) : Except QueryError (List Validator) := do
  match ← result.field ["validators"] with
  | .arr items => items.mapM validatorIn
  | other => throw (.invalidField "validators" other)

/-- The bytes that a base-64 text value spells. -/
def bytesIn? : Json → Option (List UInt8)
  | .str text => Base64.decode? text.toList
  | _ => none

/-- The identity in the result of a `status` request, which must have the expected moniker. -/
def nodeInfoIn (expected : String) (result : Json) : Except QueryError NodeInfo := do
  let moniker ← result.textField ["node_info", "moniker"]
  if moniker = expected then
    let key ← result.fieldAs bytesIn? ["validator_info", "pub_key", "value"]
    let address ← result.textField ["validator_info", "address"]
    let votingPower ← result.uint64Field ["validator_info", "voting_power"]
    return { moniker, address, pubKey := Hex.ofBytes key, votingPower }
  else throw (.unexpectedMoniker expected moniker)

def validators (participant : Participant) : Attempt network QueryError (List Validator) := do
  let result ← rpc participant "validators" noParams rpcTimeout
  Attempt.ofExcept (validatorsIn result)

def nodeInfo (participant : Participant) : Attempt network QueryError NodeInfo := do
  let result ← rpc participant "status" noParams statusTimeout
  Attempt.ofExcept (nodeInfoIn participant.name result)

/-- The name registered for the validator with an address, asked for once. -/
def validatorName (participant : Participant) (address : String) :
    Attempt network QueryError String := do
  let response : ValidatorName ←
    GrpcCall.unary participant.grpcUrl GrpcCall.getValidatorName
      (ValidatorNameRequest.mk (some ⟨address⟩))
  return response.name

end Sequencer

end UpgradeDrill
