import UpgradeDrill.Proofs.Drill.Faults
import UpgradeDrill.Proofs.Drill.Tokens
import UpgradeDrill.Proofs.Routine.Plays
import UpgradeDrill.Proofs.Upgrade.Checks

/-!
# What the concurrency of a drill decides

A staged validator waits for its turn in a pool, and is checked only if it is short of activation
once it has restarted. So the concurrency of a drill decides when a validator is checked, and
whether it is checked at all. A drill that fails in the check of a validator passes with another
concurrency only if the validator was not asked the same there at the same time
(`Drill.concurrency_moves_checks`).
-/

namespace UpgradeDrill

open Attempt

namespace Config

/-- The same drill with another number of deployments that may be under way at once. -/
def withConcurrency (config : Config) (limit : Nat) : Config := { config with concurrency := limit }

/-- A validator is staged and activates its upgrade, through exchanges for each of the two. -/
inductive Activates (config : Config) (schedule : Drill.Schedule) (validator : ValidatorConfig) :
    (staging awaiting : List (Exchange network)) → Prop where
  | intro {token start staged begin ready up finish timeout poll staging rollout restart wait} :
    (Lifecycle.stage validator.node config.deployer validator.component
      (config.newRelease schedule.activationHeight validator)).Yields start staging (.ok token)
        staged →
    token.activationHeight = schedule.activationHeight →
    staged ≤ begin →
    (config.deployer.waitForRollout validator.component Lifecycle.rolloutTimeout).Yields begin
      rollout (.ok ()) ready →
    Lifecycle.Clears validator.node token schedule.registry ready restart up →
    (validator.node.waitUntilHeight schedule.activationHeight timeout).Yields up wait (.ok poll)
      finish →
    Activates config schedule validator staging (rollout ++ restart ++ wait)

end Config

/-- The check of a validator refuses what it reports in an exchange. -/
def Drill.Schedule.Refuses (schedule : Schedule) (validator : ValidatorConfig)
    (cause : UpgradeError) (e : Exchange network) : Prop :=
  ∃ info, validator.participant.ReportsUpgrades info e ∧
    schedule.registry.checkInfo validator.name info = .error cause

namespace Lineup

variable {config : Config} (lineup : Lineup config)

/-- The same parts in a drill of another concurrency. -/
def withConcurrency {limit : Nat} (room : 0 < limit) : Lineup (config.withConcurrency limit) :=
  { lineup with room }

/-- A run gets as far as scheduling the upgrade. -/
def Prepares (world : World network Unit) (now : Nat) (prepared : Drill.Prepared)
    (es : List (Exchange network)) (time : Nat) : Prop :=
  (Drill.prepare lineup).Plays world now () es (.ok prepared) time ()

/-- A run schedules the upgrade, and then the check of a staged validator fails. -/
structure FailsCheck (world : World network Unit) (now : Nat) (prepared : Drill.Prepared)
    (cause : UpgradeError) : Prop where
  check : cause.FromCheck
  fails : ∃ before time es finish, lineup.Prepares world now prepared before time ∧
    (Drill.upgradeAll config prepared.schedule lineup.staged).Plays world time () es
      (.error (.upgrade cause)) finish ()

end Lineup

section Asking

variable {participant : Participant} {info : UpgradesInfo}

/-- The request is a call of a service. -/
def NetworkRequest.IsCall : NetworkRequest → Prop
  | .call .. => True
  | _ => False

/-- What a participant reports of its upgrades is the reply to a call. -/
lemma Participant.ReportsUpgrades.isCall {e : Exchange network}
    (reports : participant.ReportsUpgrades info e) : NetworkRequest.IsCall e.request := by
  obtain ⟨_, ⟨_, _, _, rfl, _⟩, _⟩ := reports
  exact trivial

/-- A world that only depends on the time answers the same request at the same time alike. -/
lemma Participant.ReportsUpgrades.again {α β : Type} {world : World network Unit}
    {r : Routine network α} {r' : Routine network β} {now now' : Nat} {e e' : Exchange network}
    (reports : participant.ReportsUpgrades info e) (mem : e ∈ r.exchanges world now ())
    (mem' : e' ∈ r'.exchanges world now' ()) (request : e'.request = e.request)
    (time : e'.time = e.time) : participant.ReportsUpgrades info e' := by
  obtain ⟨_, answered⟩ := Routine.answered_of_mem_exchanges mem
  obtain ⟨_, answered'⟩ := Routine.answered_of_mem_exchanges mem'
  obtain ⟨time', request', reply', took'⟩ := e'
  cases request
  cases time
  obtain ⟨_, ⟨_, reply, _, rfl, brings⟩, read⟩ := reports
  have same : reply' = reply := answered'.trans answered.symm
  refine ⟨_, ⟨_, reply', _, rfl, ?_⟩, read⟩
  rw [same]
  exact brings

lemma Sequencer.not_isCall_tryLastBlockHeight :
    (node participant).tryLastBlockHeight.AsksOnly (¬ NetworkRequest.IsCall ·) :=
  (JsonRpc.asksOnly_call id).bind fun _ => asksOnly_ofExcept _

lemma Sequencer.not_isCall_lastBlockHeight :
    (node participant).lastBlockHeight.AsksOnly (¬ NetworkRequest.IsCall ·) :=
  asksOnly_rpc id

/-- What a node reports on the way past its check is accepted. -/
lemma Lifecycle.Clears.accepts {staged : Staged} {registry : Registry} {now finish : Nat}
    {es : List (Exchange network)} {e : Exchange network}
    (clears : Clears (Sequencer.node participant) staged registry now es finish) (mem : e ∈ es)
    (reports : participant.ReportsUpgrades info e) :
    registry.checkInfo participant.name info = .ok () := by
  have standing {captured now es outcome finish}
      (path : (standing (Sequencer.node participant) captured).Yields now es outcome finish) :
      e ∉ es := fun mem =>
    asksOnly_standing _ Sequencer.not_isCall_tryLastBlockHeight
      Sequencer.not_isCall_lastBlockHeight captured path e mem reports.isCall
  cases clears with
  | stopped => cases mem
  | close _ stands _ => exact (standing stands mem).elim
  | checked _ stands _ told accepted =>
    rcases List.mem_append.1 mem with mem | mem
    · exact (standing stands mem).elim
    · cases eq_of_grpcReads told mem reports
      exact accepted

end Asking

namespace Drill

variable {config : Config} {lineup : Lineup config} {schedule : Schedule}
  {validator : ValidatorConfig} {now finish : Nat} {es : List (Exchange network)}

/-- What a validator reports on its way to activation is accepted. -/
lemma not_refuses_of_activates {staging awaiting : List (Exchange network)} {cause : UpgradeError}
    {e : Exchange network} (activates : config.Activates schedule validator staging awaiting)
    (mem : e ∈ awaiting) : ¬ schedule.Refuses validator cause e := by
  rintro ⟨info, reports, refused⟩
  cases activates with
  | intro _ _ _ rolled clears waited =>
    rcases List.mem_append.1 mem with mem | mem
    · rcases List.mem_append.1 mem with mem | mem
      · have only : (config.deployer.waitForRollout validator.component
            Lifecycle.rolloutTimeout).AsksOnly (¬ NetworkRequest.IsCall ·) :=
          Helm.asksOnly_execute id
        exact only rolled e mem reports.isCall
      · have accepted := clears.accepts mem reports
        rw [validator.participant_name, refused] at accepted
        cases accepted
    · exact Query.asksOnly_pollUntil _ _ _ _ _ Sequencer.not_isCall_tryLastBlockHeight waited e mem
        reports.isCall

/-- All validators activate if the upgrade of all does not fail. -/
lemma activates_of_upgradeAll (room : 0 < config.concurrency) {validators : List ValidatorConfig}
    (path : (upgradeAll config schedule validators).Yields now es (.ok ()) finish)
    (mem : validator ∈ validators) :
    ∃ staging awaiting, (staging ++ awaiting).Sublist es ∧
      config.Activates schedule validator staging awaiting := by
  obtain ⟨_, _, results, time, rfl, first, path⟩ := path.bind_ok
  obtain ⟨_, _, _, _, rfl, second, path⟩ := path.bind_ok
  obtain ⟨rfl, _, rfl⟩ := yields_pure_iff.1 path
  obtain ⟨log, rfl, gone⟩ := pool_gone room (yields_widen_ok.1 first)
  obtain ⟨log', rfl, gone'⟩ := pool_gone room (yields_widen_ok.1 second)
  obtain ⟨position, at'⟩ := List.getElem?_of_mem mem
  obtain ⟨token, start, staged, given, _, le, stages⟩ :=
    gone.yields.2 position _ (by rw [List.getElem?_map, at']; rfl)
  have pair : (validators.zip (inOrder results))[position]? = some (validator, token) :=
    List.getElem?_zip_eq_some.2 ⟨at', given⟩
  obtain ⟨_, begin, _, _, after, _, awaits⟩ :=
    gone'.yields.2 position _ (by rw [List.getElem?_map, pair]; rfl)
  obtain ⟨rollout, restart, wait, ready, up, timeout, poll, eq, rolled, clears, waited⟩ :=
    Lifecycle.clears_of_awaitActivation awaits
  have height : token.activationHeight = schedule.activationHeight :=
    (Option.some.inj (Lifecycle.activationHeight_of_stage stages)).symm
  rw [height] at waited
  refine ⟨_, _, ?_, .intro stages height (Nat.le_trans le after) rolled clears waited⟩
  rw [List.append_nil, ← eq]
  exact (Log.thread_sublist log position).append (Log.thread_sublist log' position)

/-- The upgrade of all fails with an error of the check only if a validator is refused. -/
lemma refuses_of_upgradeAll (room : 0 < config.concurrency) {validators : List ValidatorConfig}
    {cause : UpgradeError} (check : cause.FromCheck)
    (path : (upgradeAll config schedule validators).Yields now es (.error (.upgrade cause))
      finish) :
    ∃ validator ∈ validators, ∃ e ∈ es, schedule.Refuses validator cause e := by
  rcases path.bind_cases with ⟨_, eq, failed⟩ | ⟨_, _, results, _, rfl, _, path⟩
  · cases eq
    obtain ⟨_ | error, failed, eq⟩ := yields_widen_iff.1 failed
    all_goals cases eq
    exact ((technical_staging room schedule validators failed).not_fromCheck check).elim
  rcases path.bind_cases with ⟨_, eq, failed⟩ | ⟨_, _, _, _, _, _, path⟩
  · cases eq
    obtain ⟨_ | error, failed, eq⟩ := yields_widen_iff.1 failed
    all_goals cases eq
    obtain ⟨log, rfl, gone⟩ := pool_gone room failed
    obtain ⟨position, _, _, follows⟩ := gone.error _ rfl
    obtain ⟨attempt, _, listed, _, awaits⟩ := follows.attempt
    obtain ⟨⟨validator, token⟩, mem, rfl⟩ := List.mem_map.1 (List.mem_of_getElem? listed)
    obtain ⟨info, ⟨_, own, _, subset, told⟩, refused⟩ :=
      Lifecycle.refused_of_awaitActivation check (Helm.technical_deployer config.chartRoot) awaits
    obtain ⟨e, mem', reports⟩ := reportsUpgrades_of_upgradesInfo told
    refine ⟨validator, (List.of_mem_zip mem).1, e, ?_, info, reports, ?_⟩
    · exact List.mem_append_right _ (Log.thread_subset log position (subset mem'))
    · rw [← validator.participant_name]
      exact refused
  · obtain ⟨_, eq, _⟩ := yields_pure_iff.1 path
    cases eq

variable {world : World network Unit} {prepared : Prepared} {cause : UpgradeError}

/-- A drill in which the check of a staged validator fails ends with the error of the check. -/
lemma plays_of_failsCheck (failed : lineup.FailsCheck world now prepared cause) :
    ∃ before time es finish, lineup.Prepares world now prepared before time ∧
      (upgradeAll config prepared.schedule lineup.staged).Yields time es (.error (.upgrade cause))
        finish ∧
      (run config).Plays world now () (before ++ es) (.error (.upgrade cause)) finish () := by
  obtain ⟨before, time, es, finish, prepares, fails⟩ := failed.fails
  refine ⟨before, time, es, finish, prepares, fails.yields, ?_⟩
  rw [run_eq lineup]
  exact Plays.bind prepares ((fails.bind_error _).bind_error _)

/-- A drill that passes has scheduled its upgrade, which then has not failed for all staged
validators. -/
lemma prepares_of_passes (lineup : Lineup config)
    (passes : ((run config).run.run world now ()).value = .ok ()) :
    ∃ prepared before time es finish, lineup.Prepares world now prepared before time ∧
      (upgradeAll config prepared.schedule lineup.staged).Yields time es (.ok ()) finish ∧
      es.Sublist ((run config).run.exchanges world now ()) := by
  obtain ⟨_, _, plays⟩ := plays_of_value passes
  rw [run_eq lineup] at plays
  obtain ⟨_, eq, _⟩ | ⟨before, _, prepared, time, _, whole, prepares, plays⟩ := plays.bind_cases
  · cases eq
  obtain ⟨_, eq, _⟩ | ⟨_, rest, _, _, _, rfl, carried, _⟩ := plays.bind_cases
  · cases eq
  obtain ⟨_, eq, _⟩ | ⟨es, rest', _, until', _, rfl, upgraded, _⟩ := carried.bind_cases
  · cases eq
  refine ⟨prepared, before, time, es, until', prepares, upgraded.yields, ?_⟩
  rw [run_eq lineup, whole, List.append_assoc]
  exact (List.sublist_append_left es _).trans (List.sublist_append_right before _)

/-- If a drill fails in the check of a staged validator, it passes with another concurrency only if
that validator got to its activation without being asked the same at the same time about an upgrade
for the same height. -/
theorem concurrency_moves_checks (valid : config.validate = .ok ()) (world : World network Unit)
    (now : Nat) : Nonempty (Lineup config) ∧ ∀ (lineup : Lineup config) prepared cause,
      lineup.FailsCheck world now prepared cause →
      ((run config).run.run world now ()).value = .error (.upgrade cause) ∧
      ∀ (limit : Nat) (room : 0 < limit),
        ((run (config.withConcurrency limit)).run.run world now ()).value = .ok () →
        ∃ validator ∈ lineup.staged, ∃ e ∈ (run config).run.exchanges world now (),
          prepared.schedule.Refuses validator cause e ∧
          ∃ prepared' before time staging awaiting,
            (lineup.withConcurrency room).Prepares world now prepared' before time ∧
            (staging ++ awaiting).Sublist
              ((run (config.withConcurrency limit)).run.exchanges world now ()) ∧
            (config.withConcurrency limit).Activates prepared'.schedule validator staging awaiting ∧
            ∀ e' ∈ awaiting, e'.request = e.request → e'.time = e.time →
              prepared'.schedule.activationHeight ≠ prepared.schedule.activationHeight := by
  refine ⟨exists_lineup valid, fun lineup prepared cause failed => ?_⟩
  obtain ⟨before, _, es, _, prepares, fails, plays⟩ := plays_of_failsCheck failed
  refine ⟨plays.value, fun limit room passes => ?_⟩
  obtain ⟨validator, mem, e, inPart, refuses⟩ :=
    refuses_of_upgradeAll lineup.room failed.check fails
  have asked : e ∈ (run config).run.exchanges world now () :=
    plays.exchanges.symm ▸ List.mem_append_right before inPart
  obtain ⟨prepared', before', time', _, _, prepares', upgraded, part⟩ :=
    prepares_of_passes (lineup.withConcurrency room) passes
  obtain ⟨staging, awaiting, sublist, activates⟩ := activates_of_upgradeAll room upgraded mem
  refine ⟨validator, mem, e, asked, refuses, prepared', before', time', staging, awaiting,
    prepares', sublist.trans part, activates, fun e' mem' request time same => ?_⟩
  -- The same question about the same upgrade would have been answered and refused alike.
  obtain ⟨_, registry, _⟩ := baseline_of_prepare prepares.yields
  obtain ⟨_, registry', _⟩ := baseline_of_prepare prepares'.yields
  obtain ⟨info, reports, refused⟩ := refuses
  have asked' := part.subset (sublist.subset (List.mem_append_right staging mem'))
  have refuses' : prepared'.schedule.Refuses validator cause e' := by
    refine ⟨info, reports.again asked asked' request time, ?_⟩
    rw [registry', same]
    rw [registry] at refused
    exact refused
  exact not_refuses_of_activates activates mem' refuses'

end Drill

/-! A drill that fails in a check, but passes if fewer deployments may be under way at once. -/

namespace Sample

/-- The response of a node with a height and an app version, and of a rollup with a balance. -/
def respond (height version enable balance url : String) : (method : String) → HttpReply
  | "abci_info" =>
    Phase.info ("\"last_block_height\":\"" ++ height ++ "\",\"app_version\":\"" ++ version ++ "\"")
  | "consensus_params" => Phase.enableHeight enable
  | "eth_getBalance" => Phase.result ("\"" ++ balance ++ "\"")
  | method => Phase.old.post url method

/-- The response at a time. The upgrade is in effect after four seconds, and the third validator
stalls for the last one of them. -/
def postAt (url : String) : (seconds : Nat) → (method : String) → HttpReply
  | 0 => respond "20" "1" "0" "0x0" url
  | 1 => respond "21" "1" "0" "0x8ac7230489e80000" url
  | 2 => respond "23" "1" "0" "0x8ac7230489e80000" url
  | 3 => respond (if url = "c" then "30" else "40") "1" "0" "0x8ac7230489e80000" url
  | _ => respond "40" "2" "32" "0x7ce66c50e2840000" url

def scheduled : ChangeInfo := ⟨31, "price_feed_change", 2, ""⟩

/-- The reply of a node at a time. The second validator has scheduled nothing. -/
def callAt (url : String) (seconds : Nat) (path : String) (message : List UInt8) : GrpcReply :=
  match path with
  | "/astria.sequencerblock.v1.SequencerService/GetSequencerBlock" =>
    match (Wire.decode? message : Option BlockRequest) with
    | some ⟨height⟩ =>
      .message (if height < 32 then [] else Wire.encode { commitInfo := some ⟨[], []⟩ : Block })
    | none => .notConnected
  | "/astria.sequencerblock.v1.SequencerService/GetUpgradesInfo" =>
    .message (Wire.encode
      (if 4 ≤ seconds then UpgradesInfo.mk [scheduled] []
      else UpgradesInfo.mk [] (if url = "http://b" then [] else [scheduled])))
  | _ => call path message

/-- A network whose replies arrive at once, and depend on the time only. -/
def clockwork : World network Unit where
  answer _ now
    | .post url payload =>
      (postAt url (Duration.wholeSecs now) (Rehearsal.methodOf payload), 0, ())
    | .call url path message => (callAt url (Duration.wholeSecs now) path message, 0, ())
    | .execute _ => (.ok ⟨.exited 0, "1000000000nria".toUTF8.toList, []⟩, 0, ())

def lineup : Lineup config where
  first := validator "a"
  others := [validator "b"]
  withheld := validator "c"
  joining := validator "d"
  images := ⟨"2.0.0", "1.0.1"⟩
  changes := Aspen.changes
  validators_eq := rfl
  nodup := by decide
  images_eq := rfl
  changes_eq := rfl
  room := by decide

/-- Both staged validators are awaited at once, so the second one is still short of activation. -/
lemma refused_together : (match (Drill.prepare lineup).run.run clockwork 0 () with
    | ⟨.ok prepared, time, state⟩ =>
      match ((Drill.upgradeAll config prepared.schedule lineup.staged).run.run clockwork time
        state).value with
      | .error (.upgrade .noChangeInfos) => true
      | _ => false
    | _ => false) = true := by decide +kernel

lemma failsCheck : ∃ prepared, lineup.FailsCheck clockwork 0 prepared .noChangeInfos := by
  have refused := refused_together
  split at refused
  · rename_i prepared time _ prepares
    split at refused
    · rename_i fails
      obtain ⟨finish, _, plays⟩ := plays_of_value fails
      exact ⟨prepared, trivial, _, time, _, finish, ⟨rfl, prepares⟩, plays⟩
    · cases refused
  · cases refused

/-- The second validator is awaited after the first one, when the upgrade is in effect. -/
lemma passes_alone : ((Drill.run (config.withConcurrency 1)).run.run clockwork 0 ()).value =
    .ok () :=
  Except.eq_ok_of_isOk (by decide +kernel)

end Sample

namespace Drill

theorem concurrency_moves_checks_sample : Sample.config.validate = .ok () ∧
    ∃ prepared, Sample.lineup.FailsCheck Sample.clockwork 0 prepared .noChangeInfos ∧
      ((run (Sample.config.withConcurrency 1)).run.run Sample.clockwork 0 ()).value = .ok () ∧
      ∃ validator ∈ Sample.lineup.staged,
        ∃ e ∈ (run Sample.config).run.exchanges Sample.clockwork 0 (),
          prepared.schedule.Refuses validator .noChangeInfos e ∧
          ∃ (prepared' : Prepared) (staging awaiting : List (Exchange network)),
            (Sample.config.withConcurrency 1).Activates prepared'.schedule validator staging
              awaiting ∧
            ∀ e' ∈ awaiting, e'.request = e.request → e'.time = e.time →
              prepared'.schedule.activationHeight ≠ prepared.schedule.activationHeight := by
  obtain ⟨prepared, failed⟩ := Sample.failsCheck
  have ⟨_, moves⟩ := concurrency_moves_checks Sample.valid Sample.clockwork 0
  obtain ⟨_, moved⟩ := moves _ _ _ failed
  obtain ⟨validator, mem, e, asked, refuses, prepared', _, _, staging, awaiting, _, _, activates,
    apart⟩ := moved 1 Nat.one_pos Sample.passes_alone
  exact ⟨Sample.valid, prepared, failed, Sample.passes_alone, validator, mem, e, asked, refuses,
    prepared', staging, awaiting, activates, apart⟩

/-- A drill with enough room for all staged validators fails in the check of one of them, but passes
with less room. -/
theorem less_concurrency_skips_check : Sample.config.validate = .ok () ∧
    Sample.lineup.staged.length ≤ Sample.config.concurrency ∧
    (∃ prepared, Sample.lineup.FailsCheck Sample.clockwork 0 prepared .noChangeInfos) ∧
    ((run Sample.config).run.run Sample.clockwork 0 ()).value = .error (.upgrade .noChangeInfos) ∧
    ((run (Sample.config.withConcurrency 1)).run.run Sample.clockwork 0 ()).value = .ok () := by
  obtain ⟨prepared, failed⟩ := Sample.failsCheck
  obtain ⟨_, _, _, _, _, _, plays⟩ := plays_of_failsCheck failed
  exact ⟨Sample.valid, by decide, ⟨prepared, failed⟩, plays.value, Sample.passes_alone⟩

end Drill

end UpgradeDrill
