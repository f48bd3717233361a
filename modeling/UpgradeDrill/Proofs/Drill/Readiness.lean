import UpgradeDrill.Proofs.Drill.Failures
import UpgradeDrill.Proofs.Drill.Order
import UpgradeDrill.Proofs.Drill.Sending

/-!
# Validators are ready before they are asked

`Config.Orderly` is the rule that nothing but a command of the deployer is sent to validators that
are not ready: each of them must have been installed, and its rollout must have ended well. A drill
with a valid configuration keeps it. Together with `Drill.blameless_run` this is what a valid
configuration is good for (`Drill.validation_suffices`).
-/

namespace UpgradeDrill

open Attempt Routine

/-- A request is sent to a participant, at one of its urls or by the client of the sequencer. -/
def Participant.Addressed (participant : Participant) : NetworkRequest → Prop
  | .post url _ => url = participant.rpcUrl
  | .call url _ _ => url = participant.grpcUrl
  | .execute command => command.program = "docker" ∧
    command.arguments.getLast? = some ("--sequencer-url=" ++ participant.rpcUrl)

namespace Config

variable (config : Config)

/-- No two nodes are reached at the same url. -/
structure Distinct : Prop where
  rpcUrls : (config.rollup.url :: config.validators.map (·.participant.rpcUrl)).Nodup
  grpcUrls : (config.validators.map (·.participant.grpcUrl)).Nodup

instance : Decidable config.Distinct :=
  decidable_of_iff (_ ∧ _) ⟨fun both => ⟨both.1, both.2⟩, fun distinct => ⟨distinct.1, distinct.2⟩⟩

/-- A validator was installed, and its rollout has ended well. -/
def Ready (validator : ValidatorConfig) : State network :=
  fun history now => ∃ release, config.Installed validator.component release history now

/-- Some validators of the configuration are ready. -/
def AllReady (validators : List ValidatorConfig) : State network :=
  fun history now => ∀ validator ∈ validators,
    validator ∈ config.validators ∧ config.Ready validator history now

/-- Only validators that are ready are asked or named. -/
inductive Orderly (before : List (Exchange network)) (e : Exchange network) : Prop where
  | deploys :
    config.Deploys e.request ∨ config.AwaitsRollout e.request →
    Orderly before e
  | asks {ready} :
    config.AllReady ready before e.time →
    config.Asks ready e.request →
    Orderly before e
  | names {ready} :
    config.AllReady ready before e.time →
    config.Names ready e.request →
    Orderly before e

end Config

section Rule

variable {config : Config} {validators : List ValidatorConfig} {validator : ValidatorConfig}
  {history history' : List (Exchange network)} {now later : Nat} {e : Exchange network}
  {request : NetworkRequest}

namespace Config

lemma Ready.mono (sublist : history.Sublist history') (le : now ≤ later) :
    config.Ready validator history now → config.Ready validator history' later :=
  fun ⟨release, installed⟩ => ⟨release, installed.mono sublist le⟩

lemma AllReady.mono (sublist : history.Sublist history') (le : now ≤ later)
    (ready : config.AllReady validators history now) :
    config.AllReady validators history' later :=
  fun validator mem => ⟨(ready validator mem).1, (ready validator mem).2.mono sublist le⟩

variable (config validators) in
lemma AllReady.lasting : State.Lasting (config.AllReady validators) :=
  fun _ _ _ _ le => AllReady.mono (List.sublist_append_left ..) le

lemma Orderly.mono (sublist : history.Sublist history') (orderly : config.Orderly history e) :
    config.Orderly history' e := by
  cases orderly with
  | deploys deploys => exact .deploys deploys
  | asks ready asks => exact .asks (ready.mono sublist (Nat.le_refl _)) asks
  | names ready names => exact .names (ready.mono sublist (Nat.le_refl _)) names

lemma Orderly.sends (orderly : config.Orderly history e) : config.Sends e.request := by
  cases orderly with
  | deploys deploys => exact .inl (deploys.imp .inl id)
  | asks ready asks => exact .inl (.inl (.inr (asks.mono fun v mem => (ready v mem).1)))
  | names ready names => exact .inr (names.mono fun v mem => (ready v mem).1)

/-- The deployer addresses no participant. -/
lemma not_addressed_of_deploys {participant : Participant}
    (deploys : config.Deploys request ∨ config.AwaitsRollout request) :
    ¬ participant.Addressed request := by
  intro addressed
  rcases deploys with deploys | ⟨_, rfl⟩
  swap
  · have same : "kubectl" = "docker" := addressed.1
    exact absurd same (by decide)
  cases deploys with
  | fetch | release =>
    have same : "helm" = "docker" := addressed.1
    exact absurd same (by decide)
  | restart | rollout =>
    have same : "kubectl" = "docker" := addressed.1
    exact absurd same (by decide)

namespace Distinct

variable (distinct : config.Distinct) {other : ValidatorConfig}
include distinct

lemma eq_of_rpcUrl (mem : validator ∈ config.validators) (mem' : other ∈ config.validators)
    (same : validator.participant.rpcUrl = other.participant.rpcUrl) : validator = other :=
  List.inj_on_of_nodup_map (List.nodup_cons.1 distinct.rpcUrls).2 mem mem' same

lemma eq_of_grpcUrl (mem : validator ∈ config.validators) (mem' : other ∈ config.validators)
    (same : validator.participant.grpcUrl = other.participant.grpcUrl) : validator = other :=
  List.inj_on_of_nodup_map distinct.grpcUrls mem mem' same

lemma rollup_ne (mem : validator ∈ config.validators) :
    config.rollup.url ≠ validator.participant.rpcUrl :=
  fun same => (List.nodup_cons.1 distinct.rpcUrls).1 (same ▸ List.mem_map_of_mem mem)

/-- The client of the sequencer is told the url of one validator. -/
lemma eq_of_client {arguments : List String} (mem : validator ∈ config.validators)
    (mem' : other ∈ config.validators)
    (addressed : validator.participant.Addressed (.execute
      ((SequencerCli.docker config.imageTag).command other.participant arguments))) :
    validator = other := by
  obtain ⟨_, last⟩ := addressed
  unfold SequencerCli.command at last
  dsimp only at last
  rw [List.getLast?_concat, Option.some_inj, String.append_right_inj] at last
  exact distinct.eq_of_rpcUrl mem mem' last.symm

/-- A request that is made of some validators is sent to one of them only. -/
lemma mem_of_asks (among : ∀ v ∈ validators, v ∈ config.validators)
    (mem : validator ∈ config.validators) (asks : config.Asks validators request)
    (addressed : validator.participant.Addressed request) : validator ∈ validators := by
  cases asks with
  | node listed asked =>
    cases asked with
    | rpc | params => exact distinct.eq_of_rpcUrl (among _ listed) mem addressed ▸ listed
    | block | upgrades | name =>
      exact distinct.eq_of_grpcUrl (among _ listed) mem addressed ▸ listed
  | client listed => exact distinct.eq_of_client mem (among _ listed) addressed ▸ listed
  | rollup => exact (distinct.rollup_ne mem addressed).elim

lemma mem_of_names (among : ∀ v ∈ validators, v ∈ config.validators)
    (mem : validator ∈ config.validators) (names : config.Names validators request)
    (addressed : validator.participant.Addressed request) : validator ∈ validators := by
  cases names with
  | identity listed identified =>
    rw [identified] at addressed
    exact distinct.eq_of_rpcUrl mem (among _ listed) addressed.symm ▸ listed
  | update _ listed => exact distinct.eq_of_client mem (among _ listed) addressed ▸ listed

end Distinct

/-- A validator that something is sent to in order is ready. -/
theorem Orderly.ready (orderly : config.Orderly history e) (distinct : config.Distinct)
    (mem : validator ∈ config.validators) (addressed : validator.participant.Addressed e.request) :
    config.Ready validator history e.time := by
  cases orderly with
  | deploys deploys => exact (not_addressed_of_deploys deploys addressed).elim
  | asks ready asks =>
    exact (ready _ (distinct.mem_of_asks (fun v mem => (ready v mem).1) mem asks addressed)).2
  | names ready names =>
    exact (ready _ (distinct.mem_of_names (fun v mem => (ready v mem).1) mem names addressed)).2

end Config

end Rule

section Order

variable {config : Config} {lineup : Lineup config} {validators : List ValidatorConfig}

namespace Config

/-- What handles validators that are ready leaves them ready. -/
lemma ensures_of_handles {ε α : Type} {attempt : Attempt network ε α}
    (only : attempt.AsksOnly (config.Handles validators)) :
    Ensures config.Orderly (config.AllReady validators) attempt
      fun _ => config.AllReady validators :=
  .of_lasting (AllReady.lasting config validators) only fun _ _ ready kind =>
    match kind with
    | .inl (.inl deploys) => .deploys (.inl deploys)
    | .inl (.inr asks) => .asks ready asks
    | .inr awaits => .deploys (.inr awaits)

lemma ensures_of_asks {ε α : Type} {attempt : Attempt network ε α}
    (only : attempt.AsksOnly (config.Asks validators)) :
    Ensures config.Orderly (config.AllReady validators) attempt
      fun _ => config.AllReady validators :=
  ensures_of_handles (only.mono fun _ asks => .inl (.inr asks))

end Config

namespace Drill

/-- A validator is ready once it has started. -/
lemma orderly_start {P : State network} {validator : ValidatorConfig} {release : Release}
    (mem : validator ∈ config.validators)
    (fits : ∀ height, release.activationHeight = some height → height ≤ maxUInt64) :
    Ensures config.Orderly P (start config validator release)
      fun _ => config.Ready validator := by
  refine (ensures_start ?_ ?_ ?_).mono (fun _ _ => id) fun _ _ _ installed => ⟨release, installed⟩
  · exact fun history e _ runs => .deploys (.inl (runs ▸ .release fits))
  · exact fun history e runs => .deploys (.inl (runs ▸ .rollout _))
  · intro history e installed identified
    have ready : config.AllReady [validator] history e.time := by
      intro v listed
      rw [List.mem_singleton.1 listed]
      exact ⟨mem, release, installed⟩
    exact .names ready (.identity List.mem_cons_self identified)

lemma orderly_startRollup {P : State network} :
    Ensures config.Orderly P (startRollup config) fun _ _ _ => True := by
  refine (ensures_install (P := P) ?_ ?_).bind fun _ => .pure fun _ _ _ => trivial
  · exact fun history e _ runs => .deploys (.inl (runs ▸ .release nofun))
  · exact fun history e runs => .deploys (.inl (runs ▸ .rollout _))

/-- Once the network is started, all validators of it are ready. -/
lemma orderly_startNetwork {P : State network} :
    Ensures config.Orderly P (startNetwork config lineup.images lineup.initial)
      fun _ => config.AllReady lineup.initial := by
  refine Ensures.bind (Q := fun _ => config.AllReady lineup.initial)
    (Ensures.of_pool (fun _ => config.Orderly) (fun position _ own now => ∀ validator,
      lineup.initial[position]? = some validator → config.Ready validator own now) lineup.room
      ?_ ?_ ?_) fun _ => .pure fun _ _ => id
  · intro position attempt listed
    rcases lineup.starts_cases listed with ⟨validator, at', rfl⟩ | ⟨last, rfl⟩
    · have mem := lineup.mem_validators (List.mem_of_getElem? at')
      refine .map _ ((orderly_start mem (oldRelease_fits config _ _)).mono (fun _ _ => id) ?_)
      intro info own now ready other at''
      cases at'.symm.trans at''
      exact ready
    · refine orderly_startRollup.mono (fun _ _ => id) fun _ own now _ validator at' => ?_
      rw [List.getElem?_eq_none (Nat.le_of_eq last.symm)] at at'
      cases at'
  · -- What a member has seen, the whole history has seen.
    intro history now before position e _ _ _ orderly
    exact orderly.mono ((before.thread_sublist position).trans (List.sublist_append_right ..))
  · intro history now log results finish _ _ _ ends validator mem
    obtain ⟨position, lt, rfl⟩ := List.getElem_of_mem mem
    have listed : position < lineup.starts.length := by
      rw [Lineup.starts, List.length_append, List.length_map]
      exact Nat.lt_add_right _ lt
    obtain ⟨_, time, _, le, ready⟩ := ends position _ (List.getElem?_eq_getElem listed)
    refine ⟨lineup.mem_validators mem, (ready _ (List.getElem?_eq_getElem lt)).mono ?_ le⟩
    exact (log.thread_sublist position).trans (List.sublist_append_right ..)

/-- All initial validators are handled before the last one joins. -/
lemma orderly_carryOut {schedule : Schedule} (fits : schedule.activationHeight ≤ maxUInt64) :
    Ensures config.Orderly (config.AllReady lineup.initial) (carryOut lineup schedule)
      fun _ => config.AllReady config.validators := by
  have staged : (upgradeAll config schedule lineup.staged).AsksOnly
      (config.Handles lineup.initial) :=
    (asksOnly_upgradeAll fits lineup.room).mono fun _ =>
      Config.Handles.mono fun _ => lineup.staged_mem
  refine (Config.ensures_of_handles staged).bind fun _ => ?_
  refine (Config.ensures_of_handles (asksOnly_recover fits lineup.withheld_mem
    (lineup.staged_mem List.mem_cons_self))).bind fun _ => ?_
  have started := orderly_start (P := fun _ _ => True) lineup.joining_mem
    (newRelease_fits config fits lineup.joining)
  have joined := started.frame (Config.AllReady.lasting config lineup.initial)
  -- The others are still ready once the last one has joined.
  refine (joined.mono (fun _ _ ready => ⟨trivial, ready⟩) ?_).bind fun info =>
    Config.ensures_of_asks (asksOnly_passActivation config lineup.joining_mem)
  rintro _ history now ⟨ready, before⟩ validator mem
  rw [lineup.validators_eq_initial] at mem
  rcases List.mem_append.1 mem with mem | mem
  · exact before validator mem
  · rw [List.mem_singleton.1 mem]
    exact ⟨lineup.joining_mem, ready⟩

/-- The validators in the second and the third place are initial ones. -/
lemma mem_initial (enough : Config.minValidators ≤ config.validators.length) {place : Nat}
    (lt : place < 3) {validator : ValidatorConfig}
    (at' : config.validators[place]? = some validator) : validator ∈ lineup.initial := by
  unfold Config.minValidators at enough
  -- The joining validator is the last of at least four.
  rw [lineup.validators_eq_initial, List.length_append, List.length_singleton] at enough
  rw [lineup.validators_eq_initial, List.getElem?_append_left (by omega)] at at'
  exact List.mem_of_getElem? at'

lemma orderly_prepare (enough : Config.minValidators ≤ config.validators.length) :
    Ensures config.Orderly (fun history _ => history = []) (prepare lineup)
      fun _ => config.AllReady lineup.initial := by
  refine Ensures.bind (Q := fun _ _ _ => True) (.of_asksOnly asksOnly_fetchCharts ?_
    fun _ _ _ => trivial) fun _ => ?_
  · rintro history e ⟨chart, eq⟩
    exact .deploys (.inl (eq ▸ .fetch chart))
  refine orderly_startNetwork.bind fun infos => ?_
  refine (Config.ensures_of_asks asksOnly_checkBefore).bind fun before => ?_
  refine (Config.ensures_of_asks (asksOnly_bridgeIn (fun _ => mem_initial enough (by decide))
    fun _ => mem_initial enough (by decide))).bind fun _ => ?_
  refine (Config.ensures_of_asks (asksOnly_schedule (lineup.staged_mem
    List.mem_cons_self))).bind fun schedule => ?_
  exact .pure fun _ _ => id

/-- However a drill with a valid configuration goes on, it keeps the order. -/
theorem orderly_run (valid : config.validate = .ok ()) :
    Ensures config.Orderly (fun history _ => history = []) (run config) fun _ _ _ => True := by
  obtain ⟨_, _, enough, _⟩ := Config.of_validate valid
  obtain ⟨lineup⟩ := exists_lineup valid
  rw [run_eq lineup]
  refine ((orderly_prepare enough).returning returns_prepare).bind fun prepared =>
    .of_fact fun fits => ?_
  refine (orderly_carryOut fits).bind fun info => ?_
  refine .mono (.of_lasting (Config.AllReady.lasting config config.validators)
    (asksOnly_conclude prepared info) fun _ _ ready kind => ?_) (fun _ _ => id)
    fun _ _ _ _ => trivial
  exact kind.elim (.asks ready) (.names ready)

/-- A valid configuration is good for the whole drill, however the world answers it. The drill never
blames its configuration and misses no validator, no wait for blocks is beyond the clock, all
heights that are sent have 64 bits, and nothing is sent to a validator before it was installed and
its rollout has ended well. -/
theorem validation_suffices {σ : Type} (valid : config.validate = .ok ())
    (world : World network σ) (now : Nat) (state : σ) :
    (∀ error, ((run config).run.run world now state).value = .error error →
        ¬ error.BlamesConfig) ∧
      (∀ blocks, Lifecycle.blockWait blocks < Backoff.clockLimit) ∧
      ∀ before e after, (run config).run.exchanges world now state = before ++ e :: after →
        config.Sends e.request ∧
        (config.Distinct → ∀ validator ∈ config.validators,
          validator.participant.Addressed e.request → config.Ready validator before e.time) := by
  have path := yields_run world (run config) now state
  refine ⟨fun error failed => ?_, Lifecycle.blockWait_lt_clockLimit, ?_⟩
  · rw [failed] at path
    exact blameless_run valid path
  · intro before e after eq
    have orderly : config.Orderly before e := (orderly_run valid rfl path).1 before e after eq
    exact ⟨orderly.sends, fun distinct validator mem addressed =>
      orderly.ready distinct mem addressed⟩

theorem validation_suffices_sample : Sample.config.validate = .ok () ∧ Sample.config.Distinct ∧
    (∀ error, ((run Sample.config).run.run Sample.world 0 .old).value = .error error →
        ¬ error.BlamesConfig) ∧
      (∀ blocks, Lifecycle.blockWait blocks < Backoff.clockLimit) ∧
      ∀ before e after,
        (run Sample.config).run.exchanges Sample.world 0 .old = before ++ e :: after →
        Sample.config.Sends e.request ∧
        (Sample.config.Distinct → ∀ validator ∈ Sample.config.validators,
          validator.participant.Addressed e.request →
            Sample.config.Ready validator before e.time) :=
  ⟨Sample.valid, by decide, validation_suffices Sample.valid Sample.world 0 .old⟩

end Drill

end Order

end UpgradeDrill
