import UpgradeDrill.Node.Sequencer
import UpgradeDrill.Proofs.Query.Settled

/-!
# Queries of sequencer nodes

How the retried queries of a sequencer node settle. A JSON-RPC query is retried until a result comes
and then reads its field, so a malformed field is not retried (`retrying_queries_settle`,
`malformed_field_not_retried`). A gRPC query is retried until a message can be decoded, and has
nothing left to read.
-/

namespace UpgradeDrill

open Attempt Query

/-- The error of a reading, if any, is that of a single attempt. -/
def Query.FailsOnce {α : Type} (reading : Except QueryError α) : Prop :=
  ∀ error, reading = .error error → error.isAttempt = true

section FailsOnce

variable {α β : Type}

lemma Query.failsOnce_ok (value : α) : FailsOnce (.ok value) := nofun

lemma Query.FailsOnce.bind {reading : Except QueryError α} {f : α → Except QueryError β}
    (first : FailsOnce reading) (second : ∀ value, FailsOnce (f value)) :
    FailsOnce (reading >>= f) := by
  intro error eq
  cases reading with
  | error error' =>
    cases eq
    exact first _ rfl
  | ok value => exact second value error eq

lemma Query.FailsOnce.mapM {f : α → Except QueryError β} (each : ∀ item, FailsOnce (f item))
    (items : List α) : FailsOnce (items.mapM f) := by
  induction items with
  | nil => exact failsOnce_ok []
  | cons item items ih =>
    rw [List.mapM_cons]
    exact (each item).bind fun _ => ih.bind fun _ => failsOnce_ok _

lemma Json.failsOnce_field (value : Json) (path : List String) : FailsOnce (value.field path) := by
  intro error eq
  unfold field at eq
  split at eq
  · cases eq
  · cases eq
    rfl

lemma Json.failsOnce_fieldAs (read? : Json → Option α) (value : Json) (path : List String) :
    FailsOnce (value.fieldAs read? path) := by
  intro error eq
  unfold fieldAs at eq
  split at eq
  · rename_i missing
    cases eq
    exact failsOnce_field value path _ missing
  · split at eq
    · cases eq
    · cases eq
      rfl

lemma Json.failsOnce_uint64Field (path : List String) (value : Json) :
    FailsOnce (value.uint64Field path) :=
  failsOnce_fieldAs toUInt64? value path

end FailsOnce

namespace Sequencer

lemma failsOnce_validatorsIn (result : Json) : FailsOnce (validatorsIn result) := by
  refine (Json.failsOnce_field _ _).bind fun found => ?_
  split
  · refine FailsOnce.mapM (fun item => ?_) _
    exact (Json.failsOnce_fieldAs _ _ _).bind fun _ =>
      (Json.failsOnce_fieldAs _ _ _).bind fun _ => failsOnce_ok _
  · intro error eq
    cases eq
    rfl

lemma failsOnce_nodeInfoIn (expected : String) (result : Json) :
    FailsOnce (nodeInfoIn expected result) := by
  refine (Json.failsOnce_fieldAs _ _ _).bind fun moniker => ?_
  split
  · exact (Json.failsOnce_fieldAs _ _ _).bind fun _ => (Json.failsOnce_fieldAs _ _ _).bind fun _ =>
      (Json.failsOnce_fieldAs _ _ _).bind fun _ => failsOnce_ok _
  · intro error eq
    cases eq
    rfl

/-- The app version in the result of an `abci_info` request. -/
def appVersionIn (result : Json) : Except QueryError Nat :=
  result.uint64Field ["response", "app_version"]

/-- The app version in the result of a `genesis` request. -/
def genesisVersionIn (result : Json) : Except QueryError Nat :=
  result.uint64Field ["genesis", "consensus_params", "version", "app"]

/-- The height in the result of a `consensus_params` request. -/
def enableHeightIn (result : Json) : Except QueryError Nat :=
  result.uint64Field ["consensus_params", "abci", "vote_extensions_enable_height"]

/-- The parameters that name a height. -/
def heightParams (height : Nat) : Json := Json.ofMembers [("height", .str (toString height))]

section Reads

variable {α : Type} (participant : Participant)

/-- A participant replied to a JSON-RPC request with a result that is read with an outcome. -/
def RpcReads (method : String) (params : Json) (read : Json → Except QueryError α) :
    Except QueryError α → Exchange network → Prop :=
  Reads (I := network) (.post participant.rpcUrl (JsonRpc.payload method params))
    (JsonRpc.ofReply method) read

/-- A participant replied to a gRPC call with a message. -/
def GrpcReads {M N : Type} [Wire.Message M] [Wire.Message N] (path : String) (message : M) :
    Except QueryError N → Exchange network → Prop :=
  Reads (I := network) (.call participant.grpcUrl path (Wire.encode message)) GrpcCall.ofReply .ok

end Reads

section Settle

variable {α : Type} {participant : Participant} {now finish : Nat} {es : List (Exchange network)}

/-- A retried request whose result is read settles. -/
lemma settled_rpc {method : String} {params : Json} {timeout : Nat}
    {read : Json → Except QueryError α} {outcome : Except QueryError α}
    (reading : ∀ result, FailsOnce (read result))
    (room : BackoffConfig.defaultInitialDelay < timeout)
    (path : Yields
      (do
        let result ← rpc participant method params timeout
        Attempt.ofExcept (read result))
      now es outcome finish) :
    Settled (RpcReads participant method params read) participant.name method timeout now es
      outcome finish :=
  settled_of_yields (JsonRpc.single_call ..) reading room path

/-- A retried call settles. -/
lemma settled_grpc {M N : Type} [Wire.Message M] [Wire.Message N] {operation path : String}
    {message : M} {outcome : Except QueryError N}
    (yields : (grpc participant operation path message : Attempt network QueryError N).Yields now es
      outcome finish) :
    Settled (GrpcReads participant path message) participant.name operation grpcTimeout now es
      outcome finish :=
  settled_of_retry (GrpcCall.single_unary ..) (by decide) yields

end Settle

/-- How the height from which vote extensions are enabled is asked for, in every run: first the
latest height settles, and if there is one, the parameters of the chain at it. -/
def EnableHeightSettles (participant : Participant) : Prop :=
  ∀ {σ : Type} (world : World network σ) (now : Nat) (state : σ),
    let query := (node participant).voteExtensionsEnableHeight.run
    let ending := query.run world now state
    ∃ first second latest time, query.exchanges world now state = first ++ second ∧
      Settled (RpcReads participant "abci_info" noParams heightIn) participant.name "abci_info"
        rpcTimeout now first latest time ∧
      match latest with
      | .error error => second = [] ∧ ending.value = .error error
      | .ok height =>
        Settled (RpcReads participant "consensus_params" (heightParams height) enableHeightIn)
          participant.name "consensus_params" rpcTimeout time second ending.value ending.time

lemma enableHeight_settles (participant : Participant) : EnableHeightSettles participant := by
  intro σ world now state
  have path := yields_run world (node participant).voteExtensionsEnableHeight now state
  -- Two queries in a row, each with a budget of its own.
  have latest {es outcome finish}
      (path : (lastBlockHeight participant).Yields now es outcome finish) :
      Settled (RpcReads participant "abci_info" noParams heightIn) participant.name "abci_info"
        rpcTimeout now es outcome finish :=
    settled_rpc (Json.failsOnce_uint64Field _) (by decide) path
  rcases Yields.bind_cases path with
    ⟨error, eq, left⟩ | ⟨first, second, height, time, eq, left, right⟩
  · exact ⟨_, [], .error error, _, (List.append_nil _).symm, latest left, rfl, eq⟩
  · refine ⟨first, second, .ok height, time, eq, latest left, ?_⟩
    exact settled_rpc (Json.failsOnce_uint64Field _) (by decide) right

/-- Every retrying query of a participant settles: it gives a value exactly if a well-formed reply
came, and unless a malformed field came it fails by exhaustion only. -/
theorem retrying_queries_settle (participant : Participant) (height : Nat) :
    Settles (node participant).lastBlockHeight
        (RpcReads participant "abci_info" noParams heightIn) participant.name "abci_info"
        rpcTimeout ∧
      Settles (node participant).currentAppVersion
        (RpcReads participant "abci_info" noParams appVersionIn) participant.name "abci_info"
        rpcTimeout ∧
      Settles (node participant).genesisAppVersion
        (RpcReads participant "genesis" noParams genesisVersionIn) participant.name "genesis"
        rpcTimeout ∧
      EnableHeightSettles participant ∧
      Settles (validators participant) (RpcReads participant "validators" noParams validatorsIn)
        participant.name "validators" rpcTimeout ∧
      Settles (nodeInfo participant)
        (RpcReads participant "status" noParams (nodeInfoIn participant.name)) participant.name
        "status" statusTimeout ∧
      Settles ((node participant).block height)
        (GrpcReads participant GrpcCall.getBlock (BlockRequest.mk height)) participant.name
        s!"get sequencer block {height}" grpcTimeout ∧
      Settles (node participant).upgradesInfo
        (GrpcReads participant GrpcCall.getUpgradesInfo UpgradesRequest.mk) participant.name
        "get upgrades info" grpcTimeout := by
  refine ⟨fun world now state => ?_, fun world now state => ?_, fun world now state => ?_,
    enableHeight_settles participant, fun world now state => ?_, fun world now state => ?_,
    fun world now state => ?_, fun world now state => ?_⟩
  · exact settled_rpc (Json.failsOnce_uint64Field _) (by decide) (yields_run ..)
  · exact settled_rpc (Json.failsOnce_uint64Field _) (by decide) (yields_run ..)
  · exact settled_rpc (Json.failsOnce_uint64Field _) (by decide) (yields_run ..)
  · exact settled_rpc failsOnce_validatorsIn (by decide) (yields_run ..)
  · exact settled_rpc (failsOnce_nodeInfoIn _) (by decide) (yields_run ..)
  · exact settled_grpc (yields_run ..)
  · exact settled_grpc (yields_run ..)

/-- A world in which the first reply to a request lacks the app version, as a node's may while it is
starting. The state counts requests. -/
def startingWorld : World network Nat where
  answer count _
    | .post _ _ =>
      let response := if count = 0 then "\x7b\x7d" else "\x7b\"app_version\":\"2\"\x7d"
      (.response 200 ("\x7b\"result\":\x7b\"response\":" ++ response ++ "\x7d\x7d"), 0, count + 1)
    | .call _ _ _ => (.notConnected, 0, count + 1)
    | .execute _ => (.error .notFound, 0, count + 1)

/-- A malformed reply ends a query although the next one would have been well-formed. -/
theorem malformed_field_not_retried :
    let query := (node (.validator "node1")).currentAppVersion.run
    (query.run startingWorld 0 0).value = .error (.missingField "response.app_version") ∧
      (query.run startingWorld 100 1).value = .ok 2 := by
  constructor
  · with_unfolding_all rfl
  · with_unfolding_all rfl

end Sequencer

end UpgradeDrill
