import UpgradeDrill.Proofs.Node.Sequencer

/-!
# What nodes report

A participant reports something in an exchange if it was asked there for it and its reply says so.
Every query of a node that gives a value got it from a report, which had arrived by the time the
query ended.
-/

namespace UpgradeDrill

open Attempt Query Sequencer

namespace Participant

variable (participant : Participant)

/-- The participant was asked for its latest height, at which it also tells its app version. -/
def AskedForHeight (e : Exchange network) : Prop :=
  e.request = .post participant.rpcUrl (JsonRpc.payload "abci_info" noParams)

def ReportsHeight (height : Nat) : Exchange network → Prop :=
  RpcReads participant "abci_info" noParams heightIn (.ok height)

/-- The app version in effect. -/
def ReportsVersion (version : Nat) : Exchange network → Prop :=
  RpcReads participant "abci_info" noParams appVersionIn (.ok version)

def ReportsGenesisVersion (version : Nat) : Exchange network → Prop :=
  RpcReads participant "genesis" noParams genesisVersionIn (.ok version)

/-- The block at a height. -/
def ReportsBlock (height : Nat) (block : Block) : Exchange network → Prop :=
  GrpcReads participant GrpcCall.getBlock (BlockRequest.mk height) (.ok block)

def ReportsUpgrades (info : UpgradesInfo) : Exchange network → Prop :=
  GrpcReads participant GrpcCall.getUpgradesInfo UpgradesRequest.mk (.ok info)

def ReportsIdentity (info : NodeInfo) : Exchange network → Prop :=
  RpcReads participant "status" noParams (nodeInfoIn participant.name) (.ok info)

end Participant

section Reports

variable {α : Type} {participant : Participant} {now finish : Nat} {es : List (Exchange network)}

/-- The value of a retried query of one exchange is that of the reply which ended it. -/
lemma Query.Single.retry_ok {I : Interface} {name operation : String} {timeout : Nat}
    {query : Attempt I QueryError α} {es : List (Exchange I)} {value : α}
    {Brings : Except QueryError α → Exchange I → Prop} (single : Single query Brings)
    (room : BackoffConfig.defaultInitialDelay < timeout)
    (path : (retry name operation timeout query).Yields now es (.ok value) finish) :
    ∃ e ∈ es, Brings (.ok value) e ∧ e.arrival = finish := by
  obtain ⟨session, _, way⟩ := Retried.of_retry room path
  obtain ⟨failed, e, rfl, _, brings, _, arrival⟩ := single.retried_ok way
  exact ⟨e, List.mem_append_right _ List.mem_cons_self, brings, arrival⟩

lemma reads_of_rpc {method : String} {params : Json} {timeout : Nat}
    {read : Json → Except QueryError α} {value : α}
    (room : BackoffConfig.defaultInitialDelay < timeout)
    (path : Yields
      (do
        let result ← rpc participant method params timeout
        Attempt.ofExcept (read result))
      now es (.ok value) finish) :
    ∃ e ∈ es, RpcReads participant method params read (.ok value) e ∧ e.arrival = finish := by
  obtain ⟨first, second, result, time, rfl, left, right⟩ := path.bind_ok
  obtain ⟨e, mem, brings, arrival⟩ := (JsonRpc.single_call ..).retry_ok room left
  obtain ⟨rfl, eq, rfl⟩ := yields_ofExcept_iff.1 right
  exact ⟨e, List.mem_append_left _ mem, ⟨result, brings, eq.symm⟩, arrival⟩

lemma reads_of_grpc {M N : Type} [Wire.Message M] [Wire.Message N] {operation path : String}
    {message : M} {value : N}
    (yields : (grpc participant operation path message : Attempt network QueryError N).Yields now es
      (.ok value) finish) :
    ∃ e ∈ es, GrpcReads participant path message (.ok value) e ∧ e.arrival = finish := by
  obtain ⟨e, mem, brings, arrival⟩ := (GrpcCall.single_unary ..).retry_ok (by decide) yields
  exact ⟨e, mem, ⟨value, brings, rfl⟩, arrival⟩

/-- What is read in any exchange of a call that gives a value is that value. -/
lemma eq_of_grpcReads {M N : Type} [Wire.Message M] [Wire.Message N] {operation path : String}
    {message : M} {value read : N} {e : Exchange network}
    (yields : (grpc participant operation path message : Attempt network QueryError N).Yields now es
      (.ok value) finish)
    (mem : e ∈ es) (reads : GrpcReads participant path message (.ok read) e) : value = read := by
  have settled := settled_of_retry (GrpcCall.single_unary ..) (by decide) yields
  exact Except.ok.inj ((settled.value read).2 ⟨e, mem, reads⟩)

lemma reportsHeight_of_lastBlockHeight {height : Nat}
    (path : (node participant).lastBlockHeight.Yields now es (.ok height) finish) :
    ∃ e ∈ es, participant.ReportsHeight height e ∧ e.arrival = finish :=
  reads_of_rpc (by decide) path

lemma reportsVersion_of_currentAppVersion {version : Nat}
    (path : (node participant).currentAppVersion.Yields now es (.ok version) finish) :
    ∃ e ∈ es, participant.ReportsVersion version e :=
  have ⟨e, mem, reads, _⟩ := reads_of_rpc (by decide) path
  ⟨e, mem, reads⟩

lemma reportsGenesisVersion_of_genesisAppVersion {version : Nat}
    (path : (node participant).genesisAppVersion.Yields now es (.ok version) finish) :
    ∃ e ∈ es, participant.ReportsGenesisVersion version e :=
  have ⟨e, mem, reads, _⟩ := reads_of_rpc (by decide) path
  ⟨e, mem, reads⟩

lemma reportsBlock_of_block {height : Nat} {block : Block}
    (path : ((node participant).block height).Yields now es (.ok block) finish) :
    ∃ e ∈ es, participant.ReportsBlock height block e :=
  have ⟨e, mem, reads, _⟩ := reads_of_grpc path
  ⟨e, mem, reads⟩

lemma reportsUpgrades_of_upgradesInfo {info : UpgradesInfo}
    (path : (node participant).upgradesInfo.Yields now es (.ok info) finish) :
    ∃ e ∈ es, participant.ReportsUpgrades info e :=
  have ⟨e, mem, reads, _⟩ := reads_of_grpc path
  ⟨e, mem, reads⟩

lemma Except.ok_of_bind {ε β : Type} {x : Except ε α} {f : α → Except ε β} {value : β}
    (eq : (x >>= f) = .ok value) : ∃ mid, x = .ok mid ∧ f mid = .ok value := by
  cases x with
  | error error => cases eq
  | ok mid => exact ⟨mid, rfl, eq⟩

/-- What the reply to a request for the height tells. -/
def heightOfReply (reply : HttpReply) : Except QueryError Nat :=
  (JsonRpc.ofReply "abci_info" reply).bind heightIn

/-- Asking for a height once is one request, whose reply is read. -/
lemma tryLastBlockHeight_eq (participant : Participant) :
    (node participant).tryLastBlockHeight = (do
      let reply ← Attempt.request (I := network)
        (.post participant.rpcUrl (JsonRpc.payload "abci_info" noParams))
      Attempt.ofExcept (heightOfReply reply)) := by
  refine (bind_assoc ..).trans (bind_congr fun reply => ?_)
  unfold heightOfReply
  cases JsonRpc.ofReply "abci_info" reply with
  | error error => rfl
  | ok result => rfl

lemma reportsHeight_iff {reply : HttpReply} {took height : Nat} :
    participant.ReportsHeight height
        ⟨now, .post participant.rpcUrl (JsonRpc.payload "abci_info" noParams), reply, took⟩ ↔
      heightOfReply reply = .ok height := by
  constructor
  · rintro ⟨result, ⟨_, _, _, eq, brings⟩, read⟩
    cases eq
    rw [heightOfReply, brings]
    exact read
  · intro eq
    unfold heightOfReply at eq
    cases brings : JsonRpc.ofReply "abci_info" reply with
    | error error =>
      rw [brings] at eq
      cases eq
    | ok result =>
      rw [brings] at eq
      exact ⟨result, ⟨now, reply, took, rfl, brings⟩, eq⟩

/-- A height that is asked for once was reported, if there is one. -/
lemma reportsHeight_of_tryLastBlockHeight {height : Nat}
    (path : (node participant).tryLastBlockHeight.Yields now es (.ok height) finish) :
    ∃ e, es = [e] ∧ participant.ReportsHeight height e ∧ e.arrival = finish := by
  rw [tryLastBlockHeight_eq] at path
  obtain ⟨reply, took, rfl, eq, rfl⟩ := yields_understand_iff.1 path
  exact ⟨_, rfl, reportsHeight_iff.2 eq.symm, rfl⟩

/-- A height that is polled until it reaches another was reported at last. -/
lemma reportsHeight_of_waitUntilHeight {height timeout : Nat} {poll : Poll Nat}
    (path : ((node participant).waitUntilHeight height timeout).Yields now es (.ok poll) finish) :
    height ≤ poll.value ∧
      ∃ e ∈ es, participant.ReportsHeight poll.value e ∧ e.arrival = finish := by
  obtain ⟨reached, before, after, time, rfl, _, _, path⟩ := value_of_pollUntil path
  obtain ⟨e, rfl, reports, arrival⟩ := reportsHeight_of_tryLastBlockHeight path
  exact ⟨of_decide_eq_true reached, e, List.mem_append_right _ List.mem_cons_self, reports,
    arrival⟩

end Reports

end UpgradeDrill
