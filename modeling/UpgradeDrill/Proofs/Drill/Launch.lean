import UpgradeDrill.Proofs.Drill.Protocol

/-!
# The launch of a network

The first phase of a drill keeps to the protocol, and brings the history from a state in which
nothing is deployed to one in which everything runs. The members of the pool that starts the network
install one component each, so that none is installed twice.
-/

namespace UpgradeDrill

open Attempt

lemma Done.mono {command : Command} {history history' : List (Exchange network)} {now later : Nat}
    (subset : history ⊆ history') (le : now ≤ later) :
    Done command history now → Done command history' later :=
  fun ⟨e, mem, succeeds, arrival⟩ => ⟨e, subset mem, succeeds, Nat.le_trans arrival le⟩

lemma Done.lasting (command : Command) : State.Lasting (Done command) :=
  fun _ _ _ _ le => Done.mono (List.subset_append_left ..) le

/-- A component was installed, and was ready after that. -/
def Config.Installed (config : Config) (component : Component) (release : Release) :
    State network :=
  fun history now => ∃ i r, [i, r].Sublist history ∧
    i.Succeeds (config.deployment "install" component release) ∧ i.arrival ≤ r.time ∧
    r.Succeeds (config.installRollout component) ∧ r.arrival ≤ now

namespace Config.Installed

variable {config : Config} {component : Component} {release : Release}
  {history history' : List (Exchange network)} {now later : Nat}

lemma mono (sublist : history.Sublist history') (le : now ≤ later) :
    config.Installed component release history now →
      config.Installed component release history' later :=
  fun ⟨i, r, both, installed, after, ready, arrival⟩ =>
    ⟨i, r, both.trans sublist, installed, after, ready, Nat.le_trans arrival le⟩

variable (config component release) in
lemma lasting : State.Lasting (config.Installed component release) :=
  fun _ _ _ _ le => mono (List.sublist_append_left ..) le

lemma done (installed : config.Installed component release history now) :
    Done (config.deployment "install" component release) history now ∧
      Done (config.installRollout component) history now := by
  obtain ⟨i, r, both, installed, after, ready, arrival⟩ := installed
  refine ⟨⟨i, both.subset List.mem_cons_self, installed, ?_⟩,
    ⟨r, both.subset (List.mem_cons_of_mem _ List.mem_cons_self), ready, arrival⟩⟩
  exact Nat.le_trans after (Nat.le_trans r.time_le_arrival arrival)

end Config.Installed

/-- What holds of a history still does after exchanges that are idle. -/
def State.Steady (steady : State network) : Prop :=
  ∀ ⦃history now later⦄ (es : List (Exchange network)), now ≤ later → (∀ e ∈ es, e.Idle) →
    steady history now → steady (history ++ es) later

namespace State

lemma Lasting.steady {lasts : State network} (lasting : Lasting lasts) : Steady lasts :=
  fun _ _ _ es le _ holds => lasting es le holds

lemma Lasting.forall {β : Type} {list : List β} {lasts : β → State network}
    (lasting : ∀ item, Lasting (lasts item)) :
    Lasting fun history now => ∀ item ∈ list, lasts item history now :=
  fun _ _ _ es le holds item mem => lasting item es le (holds item mem)

lemma Steady.and {first second : State network} (left : Steady first) (right : Steady second) :
    Steady fun history now => first history now ∧ second history now :=
  fun _ _ _ es le idle holds => ⟨left es le idle holds.1, right es le idle holds.2⟩

lemma Without.steady {kind : Exchange network → Bool}
    (idle : ∀ e : Exchange network, e.Idle → kind e = false) : Steady (Without kind) :=
  fun _ _ _ _ _ rest none => List.forall_mem_append.2 ⟨none, fun e mem => idle e (rest e mem)⟩

end State

namespace Lineup

variable {config : Config} (lineup : Lineup config) (height : Nat)

lemma Running.lasting : State.Lasting lineup.Running := by
  intro history now later es le running
  exact ⟨fun v mem => Done.lasting _ es le (running.installed v mem),
    fun v mem => Done.lasting _ es le (running.ready v mem),
    Done.lasting _ es le running.rollupInstalled, Done.lasting _ es le running.rollupReady⟩

/-- Nothing was deployed yet. -/
def Unused : State network := fun history now =>
  State.Without (Exchange.runsAny (Command.isHelm "install")) history now ∧
    State.Without (Exchange.runsAny (Command.isHelm "upgrade")) history now

/-- Everything that runs before the upgrade has been started, and nothing else was done. -/
def Started : State network := fun history now =>
  (State.Without (Exchange.runsAny (Command.isHelm "upgrade")) history now ∧
      State.Without (Exchange.installs lineup.joining.component) history now) ∧
    lineup.Running history now

/-- The joining validator was not installed, and the upgrade was deployed to some validators while
everything ran. -/
def Upgrading (validators : List ValidatorConfig) : State network := fun history now =>
  State.Without (Exchange.installs lineup.joining.component) history now ∧
    lineup.Running history now ∧
    ∀ validator ∈ validators, Done (config.newUpgrade height validator) history now

lemma Started.steady : State.Steady lineup.Started :=
  ((State.Without.steady fun _ idle => idle.upgrade).and
    (State.Without.steady fun _ idle => idle.not_deploys (.inl rfl))).and
    (Running.lasting lineup).steady

lemma Upgrading.steady (validators : List ValidatorConfig) :
    State.Steady (lineup.Upgrading height validators) :=
  (State.Without.steady fun _ idle => idle.not_deploys (.inl rfl)).and
    ((Running.lasting lineup).steady.and
      (State.Lasting.forall fun _ => Done.lasting _).steady)

end Lineup

section Quiet

variable {config : Config} {lineup : Lineup config} {height : Nat} {ε α : Type}
  {attempt : Attempt network ε α} {rule : Rule network} {P : State network}

/-- A quiet attempt leaves what is steady as it is. -/
lemma Attempt.Ensures.of_quiet (quiet : attempt.Quiet) (steady : State.Steady P)
    (allowed : ∀ history e, e.Idle → rule history e) :
    Ensures rule P attempt fun _ => P :=
  .of_asksOnly quiet (fun history e kind => allowed history e (Exchange.idle_of_quiet kind))
    fun pre kinds path => steady _ path.le (fun e mem => Exchange.idle_of_quiet (kinds e mem)) pre

end Quiet

section Start

variable {config : Config} {lineup : Lineup config} {height : Nat} {component : Component}
  {release : Release} {rule : Rule network} {P : State network}

lemma Helm.asksOnly_execute {K : NetworkRequest → Prop} {root program : String}
    {arguments : List String} (kind : K (.execute ⟨program, arguments, some root⟩)) :
    (execute root program arguments).AsksOnly K := by
  rw [execute_eq]
  exact (asksOnly_request kind).bind fun _ => asksOnly_ofExcept _

lemma Drill.asksOnly_fetchCharts : (fetchCharts config).AsksOnly fun request : NetworkRequest =>
    ∃ chart, request = .execute (config.fetch chart) :=
  .forM fun chart _ => .widen _ (Helm.asksOnly_execute ⟨chart, rfl⟩)

lemma Drill.ensures_fetchCharts :
    Ensures (lineup.Allowed height) (fun history _ => history = []) (fetchCharts config)
      fun _ => Lineup.Unused := by
  have idle {e : Exchange network} (fetches : ∃ chart, e.request = .execute (config.fetch chart)) :
      e.Idle :=
    have ⟨_, runs⟩ := fetches
    Exchange.idle_of_fetch runs
  refine .of_asksOnly asksOnly_fetchCharts (fun history e fetches => .idle (idle fetches)) ?_
  rintro history now es value finish rfl fetches path
  exact ⟨fun e mem => (idle (fetches e mem)).install, fun e mem => (idle (fetches e mem)).upgrade⟩

/-- An installation is followed by a wait for the component to be ready. -/
lemma Drill.ensures_install
    (allowed : ∀ history e, P history e.time →
      e.Runs (config.deployment "install" component release) → rule history e)
    (wait : ∀ history e, e.Runs (config.installRollout component) → rule history e) :
    Ensures rule P (install config component release)
      fun _ => config.Installed component release := by
  refine ((Ensures.of_makes (Helm.makes_execute ..) allowed).widen).bind fun _ => ?_
  refine Ensures.mono (Ensures.widen (Ensures.of_makes (Helm.makes_execute ..) ?_))
    (fun _ _ => id) ?_
  · exact fun history e _ runs => wait history e runs
  · rintro _ history now ⟨_, r, rfl, ⟨earlier, i, rfl, _, _, installed, ended⟩, _, ready, arrival⟩
    refine ⟨i, r, ?_, installed, Nat.le_of_eq ended, ready, Nat.le_of_eq arrival⟩
    rw [List.append_assoc]
    exact List.sublist_append_right ..

/-- A validator is asked for its identity once it is installed. -/
lemma Drill.ensures_start {validator : ValidatorConfig}
    (allowed : ∀ history e, P history e.time →
      e.Runs (config.deployment "install" validator.component release) → rule history e)
    (wait : ∀ history e, e.Runs (config.installRollout validator.component) → rule history e)
    (ask : ∀ history e, config.Installed validator.component release history e.time →
      validator.participant.AskedIdentity e.request → rule history e) :
    Ensures rule P (start config validator release)
      fun _ => config.Installed validator.component release :=
  (ensures_install allowed wait).bind fun _ =>
    (Ensures.of_lasting (Config.Installed.lasting _ _ _) Sequencer.asksOnly_nodeInfo ask).widen

end Start

section StartNetwork

variable {config : Config} (lineup : Lineup config) (height : Nat)

/-- What the member of a pool that starts a part of the network may do after its own exchanges. -/
inductive Lineup.Starts (position : Nat) : List (Exchange network) → Exchange network → Prop where
  | idle {own e} :
    e.Idle →
    Starts position own e
  | validator {own e validator} :
    lineup.initial[position]? = some validator →
    own = [] →
    e.Runs (lineup.oldInstall validator) →
    Starts position own e
  | rollup {own e} :
    position = lineup.initial.length →
    own = [] →
    e.Runs config.rollupInstall →
    Starts position own e

namespace Lineup.Starts

variable {lineup} {height} {position : Nat} {own : List (Exchange network)} {e : Exchange network}

lemma notUpgrade (starts : lineup.Starts position own e) :
    e.runsAny (Command.isHelm "upgrade") = false := by
  cases starts with
  | idle idle => exact idle.upgrade
  | validator _ _ runs => exact runs.runsAny.trans Config.isHelm_deployment
  | rollup _ _ runs => exact runs.runsAny.trans Config.isHelm_deployment

/-- The member in a position starts one component only. -/
lemma of_installs {component : Component} (starts : lineup.Starts position own e)
    (installs : e.installs component = true) :
    (∃ validator, lineup.initial[position]? = some validator ∧
        validator.component.releaseName = component.releaseName) ∨
      position = lineup.initial.length ∧ Component.rollup.releaseName = component.releaseName := by
  cases starts with
  | idle idle =>
    rw [Exchange.installs, idle.not_deploys (.inl rfl)] at installs
    cases installs
  | validator listed _ runs =>
    rw [Exchange.installs, runs.runsAny, oldInstall, Config.deploys_deployment_iff] at installs
    exact .inl ⟨_, listed, installs.2.2⟩
  | rollup last _ runs =>
    rw [Exchange.installs, runs.runsAny, Config.rollupInstall,
      Config.deploys_deployment_iff] at installs
    exact .inr ⟨last, installs.2.2⟩

lemma notJoining (starts : lineup.Starts position own e) :
    e.installs lineup.joining.component = false := by
  refine Bool.eq_false_iff.2 fun installs => ?_
  rcases starts.of_installs installs with ⟨validator, listed, same⟩ | ⟨_, same⟩
  · have mem := List.mem_of_getElem? listed
    obtain rfl := lineup.eq_of_releaseName (lineup.mem_validators mem) lineup.joining_mem same
    exact lineup.joining_notMem mem
  · exact ValidatorConfig.releaseName_ne_rollup same.symm

end Lineup.Starts

namespace Lineup

/-- What the member of a pool in a position has started when it ends. -/
def HasStarted (position : Nat) : State network := fun own now =>
  (∀ validator, lineup.initial[position]? = some validator →
      Done (lineup.oldInstall validator) own now ∧
        Done (config.installRollout validator.component) own now) ∧
    (position = lineup.initial.length →
      Done config.rollupInstall own now ∧ Done (config.installRollout .rollup) own now)

/-- The members of the pool that starts the network. -/
def starts : List (Attempt network DrillError (Option NodeInfo)) :=
  lineup.initial.map (fun validator =>
    some <$> Drill.start config validator (config.oldRelease lineup.images validator)) ++
      [Drill.startRollup config]

/-- The first members start the validators in their order, and the last one the rollup. -/
lemma starts_cases {position : Nat} {attempt : Attempt network DrillError (Option NodeInfo)}
    (listed : lineup.starts[position]? = some attempt) :
    (∃ validator, lineup.initial[position]? = some validator ∧ attempt =
        some <$> Drill.start config validator (config.oldRelease lineup.images validator)) ∨
      position = lineup.initial.length ∧ attempt = Drill.startRollup config := by
  rcases Nat.lt_or_ge position lineup.initial.length with lt | ge
  · rw [starts, List.getElem?_append_left (by rwa [List.length_map]), List.getElem?_map] at listed
    obtain ⟨validator, at', rfl⟩ := Option.map_eq_some_iff.1 listed
    exact .inl ⟨validator, at', rfl⟩
  · rw [starts, List.getElem?_append_right (by rwa [List.length_map]), List.length_map,
      List.getElem?_singleton] at listed
    split at listed
    · rename_i last
      cases listed
      exact .inr ⟨Nat.le_antisymm (Nat.le_of_sub_eq_zero last) ge, rfl⟩
    · cases listed

lemma ensures_starts {position : Nat} {attempt : Attempt network DrillError (Option NodeInfo)}
    (listed : lineup.starts[position]? = some attempt) :
    Ensures (lineup.Starts position) (fun own _ => own = []) attempt
      fun _ => lineup.HasStarted position := by
  rcases lineup.starts_cases listed with ⟨validator, at', rfl⟩ | ⟨last, rfl⟩
  · have lt := (List.getElem?_eq_some_iff.1 at').1
    refine .map _ (.mono (Drill.ensures_start (P := fun own _ => own = []) ?_ ?_ ?_)
      (fun _ _ => id) ?_)
    · exact fun own e none runs => .validator at' none runs
    · exact fun own e runs => .idle (Exchange.idle_of_rollout runs)
    · exact fun own e _ identified => .idle (Exchange.idle_of_quiet identified.quiet)
    · rintro _ own now installed
      refine ⟨fun other at'' => ?_, fun last => absurd lt (Nat.not_lt.2 (Nat.le_of_eq last.symm))⟩
      cases at'.symm.trans at''
      exact installed.done
  · refine (Drill.ensures_install (P := fun own _ => own = []) ?_ ?_).bind fun _ => .pure ?_
    · exact fun own e none runs => .rollup last none runs
    · exact fun own e runs => .idle (Exchange.idle_of_rollout runs)
    · rintro own now installed
      refine ⟨fun validator at' => ?_, fun _ => installed.done⟩
      rw [List.getElem?_eq_none (Nat.le_of_eq last.symm)] at at'
      cases at'

variable {lineup height}

lemma Unused.withoutInstalls {component : Component} {history : List (Exchange network)} {now : Nat}
    (unused : Unused history now) : State.Without (Exchange.installs component) history now :=
  fun d mem => Exchange.not_deploys_of_not_isHelm (unused.1 d mem)

/-- The members of the pool start different components. -/
lemma Starts.position_eq {component : Component} {first second : Nat}
    {own own' : List (Exchange network)} {e e' : Exchange network}
    (starts : lineup.Starts first own e) (installs : e.installs component = true)
    (starts' : lineup.Starts second own' e') (installs' : e'.installs component = true) :
    first = second := by
  rcases starts.of_installs installs with ⟨validator, at', name⟩ | ⟨rfl, name⟩
  · rcases starts'.of_installs installs' with ⟨other, at'', name'⟩ | ⟨rfl, name'⟩
    · obtain rfl := lineup.eq_of_releaseName (lineup.mem_validators (List.mem_of_getElem? at'))
        (lineup.mem_validators (List.mem_of_getElem? at'')) (name.trans name'.symm)
      have lt := (List.getElem?_eq_some_iff.1 at').1
      exact (List.getElem?_inj lt lineup.nodup_initial).1 (at'.trans at''.symm)
    · exact absurd (name.trans name'.symm) ValidatorConfig.releaseName_ne_rollup
  · rcases starts'.of_installs installs' with ⟨other, at'', name'⟩ | ⟨rfl, name'⟩
    · exact absurd (name'.trans name.symm) ValidatorConfig.releaseName_ne_rollup
    · rfl

lemma Starts.allowed {position now : Nat} {history : List (Exchange network)}
    {before : Log network} {e : Exchange network} (unused : Unused history now)
    (keeps : before.Keeps lineup.Starts now)
    (starts : lineup.Starts position (before.thread position) e) :
    lineup.Allowed height (history ++ before.map (·.2)) e := by
  have first {component : Component} {command : Command} (runs : e.Runs command)
      (deploys : command.deploys "install" component = true)
      (own : before.thread position = []) :
      State.Without (Exchange.installs component) (history ++ before.map (·.2)) now := by
    have installs : e.installs component = true := runs.runsAny.trans deploys
    have none : ∀ d ∈ before.thread position, d.installs component = false := by
      rw [own]
      exact nofun
    refine List.forall_mem_append.2
      ⟨unused.withoutInstalls, Log.without none fun entry mem installs' => ?_⟩
    obtain ⟨own', _, starts'⟩ := keeps.entry mem
    exact starts'.position_eq installs' starts installs
  cases starts with
  | idle idle => exact .idle idle
  | validator at' own runs =>
    refine .deploy runs (first runs ?_ own) (.initial (List.mem_of_getElem? at'))
    exact Config.deploys_deployment_iff.2 ⟨rfl, rfl, rfl⟩
  | rollup last own runs =>
    refine .deploy runs (first runs ?_ own) .rollup
    exact Config.deploys_deployment_iff.2 ⟨rfl, rfl, rfl⟩

/-- Everything runs once all members of the pool have ended. -/
lemma Running.of_hasStarted {history : List (Exchange network)} {log : Log network} {finish : Nat}
    (ends : ∀ position < lineup.starts.length, ∃ time, time ≤ finish ∧
      lineup.HasStarted position (log.thread position) time) :
    lineup.Running (history ++ log.map (·.2)) finish := by
  have lasts {command : Command} {position time : Nat} (le : time ≤ finish) :
      Done command (log.thread position) time → Done command (history ++ log.map (·.2)) finish :=
    Done.mono (fun d mem => List.mem_append_right _ (log.thread_subset position mem)) le
  have length : lineup.starts.length = lineup.initial.length + 1 := by
    rw [starts, List.length_append, List.length_map]
    rfl
  have validators : ∀ validator ∈ lineup.initial,
      Done (lineup.oldInstall validator) (history ++ log.map (·.2)) finish ∧
        Done (config.installRollout validator.component) (history ++ log.map (·.2)) finish := by
    intro validator mem
    obtain ⟨position, lt, rfl⟩ := List.getElem_of_mem mem
    obtain ⟨time, le, has, _⟩ := ends position (by omega)
    have has := has _ (List.getElem?_eq_getElem lt)
    exact ⟨lasts le has.1, lasts le has.2⟩
  obtain ⟨time, le, _, rollup⟩ := ends lineup.initial.length (by omega)
  exact ⟨fun v mem => (validators v mem).1, fun v mem => (validators v mem).2,
    lasts le (rollup rfl).1, lasts le (rollup rfl).2⟩

end Lineup

variable {lineup height}

/-- The network is started from nothing. -/
theorem Drill.ensures_startNetwork :
    Ensures (lineup.Allowed height) Lineup.Unused
      (startNetwork config lineup.images lineup.initial) fun _ => lineup.Started := by
  refine Ensures.bind (Q := fun _ => lineup.Started) (Ensures.of_pool lineup.Starts
    (fun position _ => lineup.HasStarted position) lineup.room ?_ ?_ ?_) fun _ =>
      .pure fun _ _ => id
  · exact fun position attempt listed => lineup.ensures_starts listed
  · exact fun unused keeps _ starts => starts.allowed unused keeps
  · intro history now log results finish unused keeps le ends
    refine ⟨⟨List.forall_mem_append.2 ⟨unused.2, fun d mem => ?_⟩,
      List.forall_mem_append.2 ⟨unused.withoutInstalls, fun d mem => ?_⟩⟩,
      Lineup.Running.of_hasStarted fun position lt => ?_⟩
    · obtain ⟨position, own, starts⟩ := keeps.exists_own mem
      exact starts.notUpgrade
    · obtain ⟨position, own, starts⟩ := keeps.exists_own mem
      exact starts.notJoining
    · obtain ⟨_, time, _, le, has⟩ := ends position _ (List.getElem?_eq_getElem lt)
      exact ⟨time, le, has⟩

end StartNetwork

end UpgradeDrill
