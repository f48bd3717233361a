import UpgradeDrill.Proofs.Drill.Recovery
import UpgradeDrill.Rehearsal.Basic

/-!
# The order of a deployment

Whatever the world answers and whenever, a drill with a valid configuration follows the protocol of
its deployment, and has deployed everything if it ends well (`deployment_protocol`).
-/

namespace UpgradeDrill

open Attempt Routine

namespace Lineup

variable {config : Config} (lineup : Lineup config) (height : Nat) (es : List (Exchange network))

/-- No validator is installed or upgraded twice, the joining one is never upgraded, and every
exchange is permitted after those before it. -/
structure Followed : Prop where
  installs : ∀ validator ∈ config.validators,
    es.countP (Exchange.installs validator.component) ≤ 1
  upgrades : ∀ validator ∈ config.validators,
    es.countP (Exchange.upgrades validator.component) ≤ 1
  joining : es.countP (Exchange.upgrades lineup.joining.component) = 0
  order : ∀ before e after, es = before ++ e :: after → lineup.Permitted height before e

/-- Every validator was installed exactly once, every initial one was also upgraded exactly once,
and all that ended well. -/
structure Completed (finish : Nat) : Prop where
  installs : ∀ validator ∈ config.validators,
    es.countP (Exchange.installs validator.component) = 1
  upgrades : ∀ validator ∈ lineup.initial,
    es.countP (Exchange.upgrades validator.component) = 1
  joined : lineup.Joined height es finish

variable {lineup height es}

/-- The joining validator is never upgraded. -/
lemma Permitted.not_upgrades_joining {before : List (Exchange network)} {e : Exchange network}
    (permitted : lineup.Permitted height before e) :
    e.upgrades lineup.joining.component = false := by
  refine Bool.eq_false_iff.2 fun upgrades => ?_
  obtain ⟨⟨validator, mem, runs⟩, _⟩ := permitted.upgrade (Exchange.isHelm_of_runsAny upgrades)
  rw [Exchange.upgrades, runs.runsAny, Config.newUpgrade, Config.deploys_deployment_iff] at upgrades
  obtain rfl := lineup.eq_of_releaseName (lineup.mem_validators mem) lineup.joining_mem upgrades.2.2
  exact lineup.joining_notMem mem

/-- Exchanges that are allowed one after another follow the protocol. -/
theorem Followed.of_kept (kept : Rule.Kept (lineup.Allowed height) [] es) :
    lineup.Followed height es where
  installs _ _ := kept.countP_le_one fun _ _ allowed => allowed.first (.inl rfl)
  upgrades _ _ := kept.countP_le_one fun _ _ allowed => allowed.first (.inr rfl)
  joining := by
    refine List.countP_eq_zero.2 fun e mem => Bool.eq_false_iff.1 ?_
    obtain ⟨before, after, eq⟩ := List.append_of_mem mem
    have allowed : lineup.Allowed height before e := kept before e after eq
    exact allowed.permitted.not_upgrades_joining
  order before e after eq :=
    have allowed : lineup.Allowed height before e := kept before e after eq
    allowed.permitted

lemma countP_pos_of_done {subcommand : String} {component : Component} {release : Release}
    {finish : Nat} (done : Done (config.deployment subcommand component release) es finish) :
    0 < es.countP (Exchange.runsAny (Command.deploys subcommand component)) := by
  obtain ⟨e, mem, succeeds, _⟩ := done
  refine List.countP_pos_iff.2 ⟨e, mem, succeeds.runs.runsAny.trans ?_⟩
  exact Config.deploys_deployment_iff.2 ⟨rfl, rfl, rfl⟩

/-- If all is deployed in the end, it was deployed exactly once. -/
theorem Completed.of_joined {finish : Nat} (followed : lineup.Followed height es)
    (joined : lineup.Joined height es finish) : lineup.Completed height es finish where
  installs validator mem := by
    refine Nat.le_antisymm (followed.installs validator mem) ?_
    rw [lineup.validators_eq_initial] at mem
    rcases List.mem_append.1 mem with mem | mem
    · exact countP_pos_of_done (joined.1.1.installed validator mem)
    · rw [List.mem_singleton.1 mem]
      exact countP_pos_of_done joined.2
  upgrades validator mem :=
    Nat.le_antisymm (followed.upgrades validator (lineup.mem_validators mem))
      (countP_pos_of_done (joined.1.2 validator mem))
  joined := joined

end Lineup

namespace Drill

variable {config : Config} {lineup : Lineup config}

/-- Once the network is started, it is only asked until the upgrade is scheduled. -/
lemma quiet_survey (infos : List (Option NodeInfo)) :
    Quiet (do
      let before ← checkBefore config lineup.initial
      bridgeIn config (.docker config.imageTag)
      let schedule ← schedule config lineup.first
      return (⟨infos, before, schedule⟩ : Prepared)) := by
  have bridgeIn : (bridgeIn config (.docker config.imageTag)).Quiet :=
    (asksOnly_bridgeIn (fun _ => List.mem_of_getElem?) fun _ => List.mem_of_getElem?).quiet
  have schedule : (schedule config lineup.first).Quiet :=
    (asksOnly_schedule (List.mem_singleton_self lineup.first)).quiet
  refine Attempt.AsksOnly.bind asksOnly_checkBefore.quiet fun before => ?_
  refine Attempt.AsksOnly.bind bridgeIn fun _ => ?_
  exact Attempt.AsksOnly.bind schedule fun schedule => asksOnly_pure _

/-- Until the upgrade is scheduled, the protocol does not depend on its height. -/
lemma ensures_prepare (height : Nat) :
    Ensures (lineup.Allowed height) (fun history _ => history = []) (prepare lineup)
      fun _ => lineup.Started :=
  ensures_fetchCharts.bind fun _ => ensures_startNetwork.bind fun infos =>
    .of_quiet (quiet_survey infos) (Lineup.Started.steady lineup) fun _ _ idle => .idle idle

lemma ensures_carryOut (schedule : Schedule) :
    Ensures (lineup.Allowed schedule.activationHeight) lineup.Started (carryOut lineup schedule)
      fun _ => lineup.Joined schedule.activationHeight :=
  (ensures_upgradeAll rfl).bind fun _ => (ensures_recover rfl).bind fun _ => ensures_join rfl

/-- What follows naming asks validators and the rollup. -/
lemma asksOnly_afterNaming (schedule : Schedule) :
    AsksOnly (config.Asks config.validators) (do
      (checkUpgradeAfter config.upgradeName (config.validators.map (·.node))
        schedule.activationHeight).widen .upgrade
      config.validators.forM (awaitName lineup.first)
      bridgeOut config (.docker config.imageTag)) := by
  refine ((asksOnly_checkUpgradeAfter _ _).widen _).bind fun _ => ?_
  refine AsksOnly.bind (.forM fun validator _ => asksOnly_awaitName ?_ validator) fun _ => ?_
  · exact lineup.mem_validators (lineup.staged_mem List.mem_cons_self)
  · exact asksOnly_bridgeOut

lemma asksOnly_conclude (prepared : Prepared) (joiningInfo : NodeInfo) :
    (conclude lineup prepared joiningInfo).AsksOnly fun request =>
      config.Asks config.validators request ∨ config.Names config.validators request := by
  refine ((asksOnly_checkAfter _ _ _ _ _).mono fun _ => .inl).bind fun _ => ?_
  refine ((asksOnly_nameAll _).mono fun _ => .inr).bind fun _ => ?_
  exact (asksOnly_afterNaming prepared.schedule).mono fun _ => .inl

lemma quiet_conclude (prepared : Prepared) (joiningInfo : NodeInfo) :
    (conclude lineup prepared joiningInfo).Quiet := by
  refine (asksOnly_conclude prepared joiningInfo).mono fun request kind => ?_
  rcases kind with asks | names
  · exact asks.quiet
  · exact names.quiet

/-- Everything is deployed once the upgrade is scheduled. -/
lemma ensures_rest (prepared : Prepared) :
    Ensures (lineup.Allowed prepared.schedule.activationHeight) lineup.Started
      (carryOut lineup prepared.schedule >>= conclude lineup prepared)
      fun _ => lineup.Joined prepared.schedule.activationHeight :=
  (ensures_carryOut prepared.schedule).bind fun info =>
    .of_quiet (quiet_conclude prepared info) (Lineup.Joined.lasting lineup _).steady
      fun _ _ idle => .idle idle

/-- However a drill goes on, there is a height with which it keeps to the protocol. -/
theorem kept_of_reaches {now finish : Nat} {es : List (Exchange network)} {rest}
    (lineup : Lineup config) (path : Reaches (run config).run now es rest finish) :
    ∃ height, Rule.Kept (lineup.Allowed height) [] es ∧
      (rest = done (.ok ()) → lineup.Joined height es finish) := by
  rw [run_eq lineup] at path
  rcases reaches_bind_cases path with
    ⟨left, path, failed⟩ | ⟨first, second, prepared, time, rfl, left, right⟩
  · -- No upgrade was scheduled, and the height does not matter.
    refine ⟨0, (ensures_prepare 0 rfl path).1, fun eq => ?_⟩
    obtain ⟨error, eq, _⟩ := failed _ eq
    cases eq
  · obtain ⟨kept, started⟩ := ensures_prepare prepared.schedule.activationHeight rfl left
    obtain ⟨kept', joined⟩ := ensures_rest prepared (started prepared rfl) right
    exact ⟨_, kept.append kept', fun eq => joined () eq⟩

/-- A drill with a valid configuration follows the protocol of its deployment, however the world
answers it, and has deployed everything exactly once if it ends well. -/
theorem deployment_protocol {σ : Type} (valid : config.validate = .ok ()) (world : World network σ)
    (now : Nat) (state : σ) :
    ∃ (lineup : Lineup config) (height : Nat),
      lineup.Followed height ((run config).run.exchanges world now state) ∧
      (((run config).run.run world now state).value = .ok () →
        lineup.Completed height ((run config).run.exchanges world now state)
          ((run config).run.run world now state).time) := by
  obtain ⟨lineup⟩ := exists_lineup valid
  obtain ⟨height, kept, joined⟩ :=
    kept_of_reaches lineup (reaches_run world (run config).run now state)
  have followed := Lineup.Followed.of_kept kept
  refine ⟨lineup, height, followed, fun ok => .of_joined followed (joined ?_)⟩
  rw [ok]

end Drill

lemma Except.eq_ok_of_isOk {ε : Type} {outcome : Except ε Unit} (ok : outcome.isOk = true) :
    outcome = .ok () := by
  cases outcome with
  | error error => cases ok
  | ok => rfl

/-! A drill that ends well. -/

namespace Sample

/-- A validator that is reached by its name. -/
def validator (name : String) : ValidatorConfig where
  name
  address := name
  rpcUrl := some name
  grpcUrl := some ("http://" ++ name)

/-- A drill on four validators. -/
def config : Config where
  upgradeName := Aspen.name
  imageTag := "latest"
  preUpgradeImages := Config.standardPreUpgradeImages
  upgrades := Config.standardUpgrades
  validators := ["a", "b", "c", "d"].map validator
  activationOffset := 10
  concurrency := 2
  chartRoot := "."
  rollup := {}
  bridge := .standard

/-- How far a network has got that carries out an upgrade at height 30. -/
inductive Phase where
  | old
  /-- Funds were bridged in. -/
  | funded
  /-- One validator was upgraded. -/
  | begun
  /-- The third validator was not upgraded yet. -/
  | staged
  | upgraded
  /-- Funds were bridged out. -/
  | settled

namespace Phase

/-- The upgrade of one more validator. -/
def upgradeNext : Phase → Phase
  | funded => begun
  | begun => staged
  | staged => upgraded
  | phase => phase

/-- The response with a result. -/
def result (text : String) : HttpReply := .response 200 ("\x7b\"result\":" ++ text ++ "\x7d")

def info (fields : String) : HttpReply := result ("\x7b\"response\":\x7b" ++ fields ++ "\x7d\x7d")

def enableHeight (height : String) : HttpReply :=
  result ("\x7b\"consensus_params\":\x7b\"abci\":\x7b\"vote_extensions_enable_height\":\"" ++
    height ++ "\"\x7d\x7d\x7d")

/-- The response of a node at a url to a request. -/
def post (phase : Phase) (url : String) : (method : String) → HttpReply
  | "abci_info" =>
    match phase with
    | staged =>
      match url with
      | "c" => info "\"last_block_height\":\"29\""
      | _ => info "\"last_block_height\":\"40\""
    | upgraded | settled => info "\"last_block_height\":\"40\",\"app_version\":\"2\""
    | _ => info "\"last_block_height\":\"20\",\"app_version\":\"1\""
  | "genesis" =>
    result ("\x7b\"genesis\":\x7b\"consensus_params\":\x7b\"version\":" ++
      "\x7b\"app\":\"1\"\x7d\x7d\x7d\x7d")
  | "consensus_params" =>
    match phase with
    | upgraded => enableHeight "31"
    | _ => enableHeight "0"
  | "status" =>
    result ("\x7b\"node_info\":\x7b\"moniker\":\"" ++ url ++ "\"\x7d,\"validator_info\":\x7b" ++
      "\"address\":\"\",\"pub_key\":\x7b\"value\":\"\"\x7d,\"voting_power\":1\x7d\x7d")
  | "eth_getBalance" =>
    match phase with
    | old => result "\"0x0\""
    | settled => result "\"0x7ce66c50e2840000\""
    | _ => result "\"0x8ac7230489e80000\""
  | "eth_sendRawTransaction" => result "\"0x1\""
  | _ => result "\x7b\"number\":\"0x1\",\"blockNumber\":\"0x1\"\x7d"

end Phase

/-- The only change that is ever applied, of the three of the upgrade. -/
def applied : ChangeInfo := ⟨30, "price_feed_change", 2, ""⟩

/-- The reply of a node to a message. Blocks carry commit info once the upgrade is in effect. -/
def call (path : String) (message : List UInt8) : GrpcReply :=
  match path with
  | "/astria.sequencerblock.v1.SequencerService/GetSequencerBlock" =>
    match (Wire.decode? message : Option BlockRequest) with
    | some ⟨40⟩ => .message (Wire.encode { commitInfo := some ⟨[], []⟩ : Block })
    | _ => .message []
  | "/astria.sequencerblock.v1.SequencerService/GetUpgradesInfo" =>
    .message (Wire.encode (UpgradesInfo.mk [applied] []))
  | _ =>
    match (Wire.decode? message : Option ValidatorNameRequest) with
    | some ⟨some ⟨address⟩⟩ => .message (Wire.encode (ValidatorName.mk address))
    | _ => .notConnected

/-- A network on which every command ends well and replies arrive at once. -/
def world : World network Phase where
  answer phase _
    | .post url payload =>
      (phase.post url (Rehearsal.methodOf payload), 0,
        match Rehearsal.methodOf payload with
        | "eth_sendRawTransaction" => .settled
        | _ => phase)
    | .call _ path message => (call path message, 0, phase)
    | .execute command =>
      (.ok ⟨.exited 0, "1000000000nria".toUTF8.toList, []⟩, 0,
        match command.program, phase with
        | "docker", .old => .funded
        | _, _ => match command.arguments with | "upgrade" :: _ => phase.upgradeNext | _ => phase)

lemma valid : config.validate = .ok () := by with_unfolding_all rfl

lemma passes : ((Drill.run config).run.run world 0 .old).value = .ok () :=
  Except.eq_ok_of_isOk (by decide +kernel)

end Sample

theorem Drill.deployment_protocol_sample : Sample.config.validate = .ok () ∧
    ∃ (lineup : Lineup Sample.config) (height : Nat),
      lineup.Followed height ((run Sample.config).run.exchanges Sample.world 0 .old) ∧
      lineup.Completed height ((run Sample.config).run.exchanges Sample.world 0 .old)
        ((run Sample.config).run.run Sample.world 0 .old).time := by
  obtain ⟨lineup, height, followed, completed⟩ :=
    deployment_protocol Sample.valid Sample.world 0 .old
  exact ⟨Sample.valid, lineup, height, followed, completed Sample.passes⟩

end UpgradeDrill
