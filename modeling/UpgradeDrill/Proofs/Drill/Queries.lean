import UpgradeDrill.Drill.Run
import UpgradeDrill.Proofs.Query.Field
import UpgradeDrill.Proofs.Upgrade.Asks

/-!
# What a drill asks besides deploying

`Config.Asks` lists the requests that a drill makes of validators and of the rollup: queries of the
nodes, commands of the sequencer's client, and calls of the rollup. Naming validators is apart. The
parts of a drill that deploy nothing ask nothing else, each of the validators that it is given, and
are quiet: they run neither `helm` nor `kubectl`.
-/

namespace UpgradeDrill

open Attempt

/-- The queries of a participant but that of its identity. Heights that are sent have 64 bits. -/
inductive Participant.Asked (participant : Participant) : NetworkRequest → Prop where
  | rpc {method : String} :
    method ≠ "status" →
    Asked participant (.post participant.rpcUrl (JsonRpc.payload method Sequencer.noParams))
  | params {height : Nat} :
    height ≤ maxUInt64 →
    Asked participant (.post participant.rpcUrl
      (JsonRpc.payload "consensus_params" (Json.ofMembers [("height", .str (toString height))])))
  | block {height : Nat} :
    height ≤ maxUInt64 →
    Asked participant
      (.call participant.grpcUrl GrpcCall.getBlock (Wire.encode (BlockRequest.mk height)))
  | upgrades :
    Asked participant
      (.call participant.grpcUrl GrpcCall.getUpgradesInfo (Wire.encode UpgradesRequest.mk))
  | name (address : String) :
    Asked participant (.call participant.grpcUrl GrpcCall.getValidatorName
      (Wire.encode (ValidatorNameRequest.mk (some ⟨address⟩))))

/-- The query of the identity of a participant. -/
def Participant.AskedIdentity (participant : Participant) (request : NetworkRequest) : Prop :=
  request = .post participant.rpcUrl (JsonRpc.payload "status" Sequencer.noParams)

namespace SequencerCli

/-- The arguments that name the validator with a public key, and set its power. -/
def updateArgs (name pubKey : String) (power : Nat) : List String :=
  ["sudo", "validator-update", chainArg, "--validator-public-key=" ++ pubKey,
    "--private-key=" ++ sudoKey, s!"--power={power}", "--name=" ++ name]

end SequencerCli

namespace Config

variable (config : Config) (validators : List ValidatorConfig)

/-- A request of one of some validators, or of the rollup, that neither asks for an identity nor
names a validator. -/
inductive Asks : NetworkRequest → Prop where
  | node {validator request} :
    validator ∈ validators →
    validator.participant.Asked request →
    Asks request
  | client {validator subcommand arguments} :
    validator ∈ validators →
    subcommand ≠ "sudo" →
    Asks (.execute ((SequencerCli.docker config.imageTag).command validator.participant
      (subcommand :: arguments)))
  | rollup {method : String} (params : Json) :
    method ≠ "status" →
    Asks (.post config.rollup.url (JsonRpc.payload method params))

/-- Names a validator at its own node, by the key and with the power in an identity. -/
def update (validator : ValidatorConfig) (info : NodeInfo) : Command :=
  (SequencerCli.docker config.imageTag).command validator.participant
    (SequencerCli.updateArgs validator.name info.pubKey info.votingPower)

/-- A request that asks one of some validators for its identity, or names it. -/
inductive Names : NetworkRequest → Prop where
  | identity {validator request} :
    validator ∈ validators →
    validator.participant.AskedIdentity request →
    Names request
  | update {validator} (info : NodeInfo) :
    validator ∈ validators →
    Names (.execute (config.update validator info))

end Config

lemma ValidatorConfig.participant_name (validator : ValidatorConfig) :
    validator.participant.name = validator.name := by
  show (Participant.validator validator.name).name = validator.name
  unfold Participant.validator
  split
  · rfl
  · rfl

/-- The numbers in fields have 64 bits. -/
lemma Json.le_of_uint64Field {value : Json} {path : List String} {number : Nat}
    (read : value.uint64Field path = .ok number) : number ≤ maxUInt64 := by
  obtain ⟨found, -, held⟩ := fieldAs_eq_ok_iff.1 read
  exact Nat.le_sub_one_of_lt (toUInt64?_eq_some_iff.1 held).2

section Requests

variable {K : NetworkRequest → Prop}

lemma JsonRpc.asksOnly_call {url method : String} {params : Json}
    (kind : K (.post url (payload method params))) : (call url method params).AsksOnly K :=
  (asksOnly_request kind).bind fun _ => asksOnly_ofExcept _

lemma GrpcCall.asksOnly_unary {M N : Type} [Wire.Message M] [Wire.Message N] {url path : String}
    {message : M} (kind : K (.call url path (Wire.encode message))) :
    (unary url path message : Attempt network QueryError N).AsksOnly K := by
  unfold unary
  split
  · exact (asksOnly_request kind).bind fun _ => asksOnly_ofExcept _
  · exact asksOnly_throw _

namespace Sequencer

variable {participant : Participant}

lemma asksOnly_rpc {method : String} {params : Json} {timeout : Nat} {α : Type}
    {read : Json → Except QueryError α}
    (kind : K (.post participant.rpcUrl (JsonRpc.payload method params))) :
    Attempt.AsksOnly K (do
      let result ← rpc participant method params timeout
      Attempt.ofExcept (read result)) :=
  (Query.asksOnly_retry _ _ _ (JsonRpc.asksOnly_call kind)).bind fun _ => asksOnly_ofExcept _

lemma asksOnly_grpc {M N : Type} [Wire.Message M] [Wire.Message N] {operation path : String}
    {message : M} (kind : K (.call participant.grpcUrl path (Wire.encode message))) :
    (grpc participant operation path message : Attempt network QueryError N).AsksOnly K :=
  Query.asksOnly_retry _ _ _ (GrpcCall.asksOnly_unary kind)

lemma returns_uint64Field {request : Attempt network QueryError Json} {path : List String} :
    Attempt.Returns (· ≤ maxUInt64) (do
      let result ← request
      Attempt.ofExcept (result.uint64Field path)) := by
  intro now es number finish path
  obtain ⟨_, _, _, _, rfl, _, path⟩ := path.bind_ok
  obtain ⟨_, eq, _⟩ := yields_ofExcept_iff.1 path
  exact Json.le_of_uint64Field eq.symm

lemma asksOnly_nodeInfo : (nodeInfo participant).AsksOnly participant.AskedIdentity :=
  asksOnly_rpc rfl

lemma asksOnly_validatorName (address : String) :
    (validatorName participant address).AsksOnly participant.Asked :=
  (GrpcCall.asksOnly_unary (.name address)).bind fun _ => asksOnly_pure _

/-- A node is asked nothing but queries. -/
lemma asks_node (participant : Participant) : (node participant).Asks participant.Asked where
  tryLastBlockHeight :=
    (JsonRpc.asksOnly_call (.rpc (by decide))).bind fun _ => asksOnly_ofExcept _
  lastBlockHeight := asksOnly_rpc (.rpc (by decide))
  heights := returns_uint64Field
  currentAppVersion := asksOnly_rpc (.rpc (by decide))
  genesisAppVersion := asksOnly_rpc (.rpc (by decide))
  voteExtensionsEnableHeight :=
    AsksOnly.bind_returns (asksOnly_rpc (.rpc (by decide))) returns_uint64Field fun _ fits =>
      asksOnly_rpc (.params fits)
  block _ fits := asksOnly_grpc (.block fits)
  upgradesInfo := asksOnly_grpc .upgrades

end Sequencer

namespace Rollup

variable {url : String}
  (kind : ∀ {method} params, method ≠ "status" → K (.post url (JsonRpc.payload method params)))
include kind

lemma asksOnly_balance (address : String) : (balance url address).AsksOnly K :=
  (JsonRpc.asksOnly_call (kind _ (by decide))).bind fun _ => asksOnly_ofExcept _

lemma asksOnly_finalizedHeight : (finalizedHeight url).AsksOnly K :=
  (JsonRpc.asksOnly_call (kind _ (by decide))).bind fun _ => asksOnly_ofExcept _

lemma asksOnly_sendRawTransaction (transaction : String) :
    (sendRawTransaction url transaction).AsksOnly K := by
  refine (JsonRpc.asksOnly_call (kind _ (by decide))).bind fun result => ?_
  split
  · exact asksOnly_pure _
  · exact asksOnly_throw _

lemma asksOnly_transactionBlockNumber (hash : String) :
    (transactionBlockNumber url hash).AsksOnly K :=
  (JsonRpc.asksOnly_call (kind _ (by decide))).bind fun _ => asksOnly_ofExcept _

end Rollup

namespace SequencerCli

variable {cli : SequencerCli} {participant : Participant}

section Exec

variable {args : List String} (kind : K (.execute (cli.command participant args)))
include kind

lemma asksOnly_tryExec : (cli.tryExec participant args).AsksOnly K :=
  (asksOnly_request kind).bind fun _ => asksOnly_ofExcept _

lemma asksOnly_execFrom (session : Backoff) :
    (cli.execFrom participant args session).AsksOnly K := by
  induction session using execFrom.induct with
  | case1 session ih =>
    rw [execFrom]
    refine (AsksOnly.timed (asksOnly_tryExec kind)).bind fun timed => ?_
    obtain ⟨outcome, took⟩ := timed
    cases outcome with
    | ok stdout => exact asksOnly_pure stdout
    | error error =>
      dsimp only
      split
      · rename_i next granted
        exact (asksOnly_sleep _).bind fun _ => ih took next granted
      · exact asksOnly_throw _

lemma asksOnly_exec : (cli.exec participant args).AsksOnly K := by
  refine AsksOnly.bind asksOnly_readClock fun now => ?_
  split
  · exact asksOnly_execFrom kind _
  · exact asksOnly_throw _

end Exec

section Balance

variable {account : String}
  (kind : K (.execute (cli.command participant (balanceArgs account))))
include kind

lemma asksOnly_balance : (cli.balance participant account).AsksOnly K := by
  refine (asksOnly_exec kind).bind fun stdout => ?_
  split
  · exact asksOnly_pure _
  · exact asksOnly_throw _

lemma asksOnly_waitFrom (expected timeout : Nat) (last : Option Nat) (session : Backoff) :
    (cli.waitFrom participant account expected timeout last session).AsksOnly K := by
  induction last, session using waitFrom.induct with
  | case1 last session ih =>
    rw [waitFrom]
    refine (AsksOnly.timed (asksOnly_balance kind)).bind fun timed => ?_
    obtain ⟨outcome, took⟩ := timed
    dsimp only
    split
    · exact asksOnly_pure _
    · split
      · rename_i next granted
        exact (asksOnly_sleep _).bind fun _ => ih outcome took next granted
      · exact asksOnly_throw _

lemma asksOnly_waitUntilBalance (expected timeout : Nat) :
    (cli.waitUntilBalance participant account expected timeout).AsksOnly K := by
  refine AsksOnly.bind asksOnly_readClock fun now => ?_
  split
  · exact asksOnly_waitFrom kind expected timeout _ _
  · exact asksOnly_throw _

end Balance

end SequencerCli

end Requests

namespace Drill

variable {config : Config} {validators : List ValidatorConfig}

lemma returns_validatorAt (place : Nat) : (validatorAt validators place).Returns
    fun validator => validators[place]? = some validator := by
  unfold validatorAt
  split
  · rename_i validator at'
    exact returns_pure at'
  · exact returns_throw _

lemma asksOnly_validatorAt {K : NetworkRequest → Prop} (place : Nat) :
    (validatorAt validators place).AsksOnly K := by
  unfold validatorAt
  split
  · exact asksOnly_pure _
  · exact asksOnly_throw _

lemma asksOnly_awaitRollupBalance (expected timeout : Nat) :
    (awaitRollupBalance config expected timeout).AsksOnly (config.Asks validators) := by
  refine (AsksOnly.widen _ ?_).bind fun _ => asksOnly_pure _
  exact Query.asksOnly_pollUntil _ _ _ _ _ (Rollup.asksOnly_balance .rollup _)

lemma asks_node {validator : ValidatorConfig} (mem : validator ∈ validators) :
    validator.node.Asks (config.Asks validators) :=
  (Sequencer.asks_node validator.participant).mono fun _ => .node mem

lemma asks_nodes : ∀ node ∈ validators.map (·.node), node.Asks (config.Asks validators) := by
  intro node mem
  obtain ⟨validator, listed, rfl⟩ := List.mem_map.1 mem
  exact asks_node listed

lemma asksOnly_agreedFirstBlock :
    (agreedFirstBlock (validators.map (·.node))).AsksOnly (config.Asks validators) :=
  AsksOnly.widen _ (Cohort.asksOnly_ensureConsistent fun node mem =>
    (asks_nodes node mem).block 1 (by decide))

lemma asksOnly_checkBefore :
    (checkBefore config validators).AsksOnly (config.Asks validators) := by
  have asks : ∀ node ∈ validators.map (·.node), node.Asks (config.Asks validators) := asks_nodes
  refine (AsksOnly.widen _ (asksOnly_joinAll fun attempt mem => ?_)).bind fun _ => ?_
  · obtain ⟨node, listed, rfl⟩ := List.mem_map.1 mem
    exact (asks node listed).waitUntilHeight _ _
  refine asksOnly_agreedFirstBlock.bind fun firstBlock => ?_
  refine (AsksOnly.widen _ (Cohort.asksOnly_ensureConsistent fun node mem =>
    (asks node mem).currentAppVersion)).bind fun appVersion => ?_
  refine (AsksOnly.widen _ (Cohort.asksOnly_ensureConsistent fun node mem =>
    (asks node mem).genesisAppVersion)).bind fun genesis => ?_
  split
  · refine (AsksOnly.widen _ ?_).bind fun _ => asksOnly_pure _
    unfold checkUpgradeBefore
    split
    · exact Aspen.asksOnly_assertBefore asks
    · exact asksOnly_throw _
  · exact asksOnly_throw _

variable (config validators) in
lemma asksOnly_checkAfter (registry : Registry) (before : Snapshot) (reference : ValidatorConfig) :
    (checkAfter registry before reference validators).AsksOnly (config.Asks validators) := by
  have asks : ∀ node ∈ validators.map (·.node), node.Asks (config.Asks validators) := asks_nodes
  have increased : (increasedVersion before.appVersion (validators.map (·.node))).AsksOnly
      (config.Asks validators) :=
    (AsksOnly.widen _ (Cohort.asksOnly_observe fun node mem =>
      (asks node mem).currentAppVersion)).bind fun _ => (asksOnly_ofExcept _).widen _
  refine increased.bind fun appVersion => ?_
  refine AsksOnly.bind ?_ fun _ => ?_
  · refine asksOnly_agreedFirstBlock.bind fun after => ?_
    split
    · exact asksOnly_pure _
    · exact asksOnly_throw _
  · refine (AsksOnly.widen _ (Cohort.asksOnly_ensureConsistent fun node mem =>
      (asks node mem).upgradesInfo)).bind fun info => ?_
    exact (asksOnly_ofExcept _).widen _

lemma asksOnly_checkUpgradeAfter (name : String) (activationHeight : Nat) :
    (checkUpgradeAfter name (validators.map (·.node)) activationHeight).AsksOnly
      (config.Asks validators) := by
  unfold checkUpgradeAfter
  split
  · exact Aspen.asksOnly_assertAfter asks_nodes activationHeight
  · exact asksOnly_throw _

lemma asksOnly_schedule {reference : ValidatorConfig} (mem : reference ∈ validators) :
    (schedule config reference).AsksOnly (config.Asks validators) := by
  refine (AsksOnly.widen _ (asks_node mem).lastBlockHeight).bind fun latest => ?_
  refine ((asksOnly_ofExcept _).widen _).bind fun height => ?_
  refine (asksOnly_ofExcept _).bind fun changes => ?_
  exact ((asksOnly_ofExcept _).widen _).bind fun registry => asksOnly_pure _

/-- Bridging in asks the validators in the second and the third place. -/
lemma asksOnly_bridgeIn
    (opener : ∀ validator, config.validators[1]? = some validator → validator ∈ validators)
    (locker : ∀ validator, config.validators[2]? = some validator → validator ∈ validators) :
    (bridgeIn config (.docker config.imageTag)).AsksOnly (config.Asks validators) := by
  refine AsksOnly.bind ?_ fun _ => ?_
  · refine (AsksOnly.widen _ (Rollup.asksOnly_balance .rollup _)).bind fun balance => ?_
    split
    · exact asksOnly_pure _
    · exact asksOnly_throw _
  refine (asksOnly_validatorAt _).bind_returns (returns_validatorAt _) fun first at' => ?_
  refine AsksOnly.bind ?_ fun _ => ?_
  · exact (SequencerCli.asksOnly_exec (.client (opener first at') (by decide))).bind fun _ =>
      asksOnly_pure _
  refine (asksOnly_validatorAt _).bind_returns (returns_validatorAt _) fun second at' => ?_
  refine AsksOnly.bind ?_ fun _ => ?_
  · exact (SequencerCli.asksOnly_exec (.client (locker second at') (by decide))).bind fun _ =>
      asksOnly_pure _
  exact asksOnly_awaitRollupBalance _ _

lemma asksOnly_bridgeOut :
    (bridgeOut config (.docker config.imageTag)).AsksOnly (config.Asks config.validators) := by
  refine (AsksOnly.widen _ (Rollup.asksOnly_sendRawTransaction .rollup _)).bind fun hash => ?_
  refine (asksOnly_awaitRollupBalance _ _).bind fun _ => ?_
  refine (asksOnly_validatorAt _).bind_returns (returns_validatorAt _) fun witness at' => ?_
  refine (SequencerCli.asksOnly_waitUntilBalance (.client (List.mem_of_getElem? at')
    (by decide)) _ _).bind fun _ => ?_
  refine (AsksOnly.widen _ (Rollup.asksOnly_transactionBlockNumber .rollup _)).bind fun block => ?_
  refine (AsksOnly.widen _ ?_).bind fun _ => asksOnly_pure _
  exact Query.asksOnly_pollUntil _ _ _ _ _ (Rollup.asksOnly_finalizedHeight .rollup)

variable (config) in
/-- Past its start, the joining validator is only asked for its height. -/
lemma asksOnly_passActivation {schedule : Schedule} {validator : ValidatorConfig} {info : NodeInfo}
    (mem : validator ∈ validators) :
    AsksOnly (config.Asks validators) (do
      let target ←
        (Attempt.ofExcept
          (Lifecycle.heightAfter schedule.activationHeight Lifecycle.restartMargin)).widen
            DrillError.upgrade
      let _ ← (validator.node.waitUntilHeight target joinTimeout).widen .query
      return info) := by
  refine ((asksOnly_ofExcept _).widen _).bind fun target => ?_
  exact (((asks_node mem).waitUntilHeight _ _).widen _).bind fun _ => asksOnly_pure _

lemma asksOnly_nameAll (infos : List (Option NodeInfo)) :
    (nameAll (.docker config.imageTag) validators infos).AsksOnly (config.Names validators) := by
  refine .forM fun (validator, info) pair => ?_
  have mem := (List.of_mem_zip pair).1
  refine AsksOnly.bind ?_ fun info => ?_
  · cases info with
    | none => exact AsksOnly.widen _ (Sequencer.asksOnly_nodeInfo.mono fun _ => .identity mem)
    | some info => exact asksOnly_pure info
  · refine (SequencerCli.asksOnly_tryExec ?_).bind fun _ => asksOnly_pure _
    rw [validator.participant_name]
    exact .update info mem

lemma asksOnly_awaitName {node : ValidatorConfig} (mem : node ∈ validators)
    (validator : ValidatorConfig) :
    (awaitName node validator).AsksOnly (config.Asks validators) := by
  refine (AsksOnly.widen _ ?_).bind fun _ => asksOnly_pure _
  exact Query.asksOnly_pollUntil _ _ _ _ _
    ((Sequencer.asksOnly_validatorName _).mono fun _ => .node mem)

end Drill

/-- A request that runs no program which deploys. -/
def NetworkRequest.Quiet : NetworkRequest → Prop
  | .execute command => command.program ≠ "helm" ∧ command.program ≠ "kubectl"
  | _ => True

/-- An attempt that deploys nothing. -/
def Attempt.Quiet {ε α : Type} (attempt : Attempt network ε α) : Prop :=
  attempt.AsksOnly NetworkRequest.Quiet

section Quiet

variable {config : Config} {validators : List ValidatorConfig} {request : NetworkRequest}

lemma SequencerCli.quiet_docker {tag : String} {participant : Participant}
    {arguments : List String} :
    NetworkRequest.Quiet (.execute ((docker tag).command participant arguments)) := by
  show "docker" ≠ "helm" ∧ "docker" ≠ "kubectl"
  decide

lemma Participant.Asked.quiet {participant : Participant} (asked : participant.Asked request) :
    request.Quiet := by
  cases asked with
  | rpc | params | block | upgrades | name => trivial

lemma Config.Asks.quiet (asks : config.Asks validators request) : request.Quiet := by
  cases asks with
  | node _ asked => exact asked.quiet
  | client => exact SequencerCli.quiet_docker
  | rollup => trivial

lemma Participant.AskedIdentity.quiet {participant : Participant}
    (identified : participant.AskedIdentity request) : request.Quiet := by
  rw [identified]
  trivial

lemma Config.Names.quiet (names : config.Names validators request) : request.Quiet := by
  cases names with
  | identity _ identified => exact identified.quiet
  | update => exact SequencerCli.quiet_docker

lemma Attempt.AsksOnly.quiet {ε α : Type} {attempt : Attempt network ε α}
    (only : attempt.AsksOnly (config.Asks validators)) : attempt.Quiet :=
  only.mono fun _ => Config.Asks.quiet

lemma Sequencer.quiet_node (participant : Participant) :
    (node participant).Asks NetworkRequest.Quiet :=
  (asks_node participant).mono fun _ => Participant.Asked.quiet

end Quiet

end UpgradeDrill
