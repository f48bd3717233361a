import UpgradeDrill.Proofs.Drill.Launch

/-!
# The staging of an upgrade

The second phase of a drill: the upgrade is deployed to all validators that are staged, and each of
them reports a height from which on it is in effect. Each member of the first pool upgrades a
validator of its own, and the second pool is idle.
-/

namespace UpgradeDrill

open Attempt

lemma Participant.AskedForHeight.idle {participant : Participant} {e : Exchange network}
    (asked : participant.AskedForHeight e) : e.Idle := by
  refine Exchange.idle_of_quiet ?_
  rw [asked]
  trivial

section Await

variable {config : Config} {participant : Participant} {component : Component} {staged : Staged}
  {registry : Registry}

/-- A request of a node, or a wait for a component to be ready. -/
def Config.Awaits (config : Config) (request : NetworkRequest) : Prop :=
  request.Quiet ∨ ∃ component timeout, request = .execute (config.rollout component timeout)

lemma Config.Awaits.idle {e : Exchange network} (awaits : config.Awaits e.request) : e.Idle := by
  rcases awaits with quiet | ⟨component, timeout, runs⟩
  · exact Exchange.idle_of_quiet quiet
  · exact Exchange.idle_of_rollout runs

lemma Lifecycle.asksOnly_awaitActivation :
    (awaitActivation (Sequencer.node participant) config.deployer component staged
      registry).AsksOnly config.Awaits := by
  have asks : (Sequencer.node participant).Asks config.Awaits :=
    (Sequencer.quiet_node participant).mono fun _ => .inl
  exact asks.awaitActivation (Helm.asksOnly_execute (.inr ⟨component, _, rfl⟩)) staged registry

/-- A node that has activated the upgrade has reported a height from which on it is in effect. -/
lemma Lifecycle.reports_of_awaitActivation {now finish : Nat} {es : List (Exchange network)}
    {activated : UpgradeDrill.Activated}
    (path : (awaitActivation (Sequencer.node participant) config.deployer component staged
      registry).Yields now es (.ok activated) finish) :
    ∃ e ∈ es, ∃ reached, participant.ReportsHeight reached e ∧ staged.activationHeight ≤ reached ∧
      e.arrival = finish := by
  obtain ⟨es₁, rest, _, time, rfl, _, path⟩ := path.bind_ok
  obtain ⟨es₂, rest, restarted, time, rfl, _, path⟩ := path.bind_ok
  obtain ⟨es₃, rest, poll, time, rfl, path, right⟩ := path.bind_ok
  obtain ⟨rfl, _, rfl⟩ := yields_pure_iff.1 right
  obtain ⟨le, e, mem, reports, arrival⟩ :=
    reportsHeight_of_waitUntilHeight (yields_widen_ok.1 path)
  exact ⟨e, List.mem_append_right _ (List.mem_append_right _ (List.mem_append_left _ mem)), _,
    reports, le, arrival⟩

end Await

section Staging

variable {config : Config} (lineup : Lineup config) (height : Nat)

namespace Lineup

/-- The upgrade was deployed to all validators that are staged, and not to the withheld one. -/
def Staging : State network := fun history now =>
  State.Without (Exchange.upgrades lineup.withheld.component) history now ∧
    lineup.Upgrading height lineup.staged history now

lemma Staging.steady : State.Steady (lineup.Staging height) :=
  (State.Without.steady fun _ idle => idle.not_deploys (.inr rfl)).and
    (Upgrading.steady lineup height lineup.staged)

/-- The upgrade is in effect on all validators that are staged. -/
def StagedAll : State network := fun history now =>
  lineup.Staging height history now ∧
    ∀ validator ∈ lineup.staged, config.Activated height validator history now

/-- What the member of a pool that stages a validator may do after its own exchanges. -/
inductive Stages (position : Nat) : List (Exchange network) → Exchange network → Prop where
  | idle {own e} :
    e.Idle →
    Stages position own e
  | upgrade {own e validator} :
    lineup.staged[position]? = some validator →
    State.Without (Exchange.upgrades validator.component) own e.time →
    e.Runs (config.newUpgrade height validator) →
    Stages position own e
  | restart {own e validator} :
    lineup.staged[position]? = some validator →
    e.Runs (config.restart validator.component) →
    Stages position own e

variable {lineup height}

lemma Started.notDeployed {component : Component} {history : List (Exchange network)} {now : Nat}
    (started : lineup.Started history now) :
    State.Without (Exchange.upgrades component) history now :=
  fun d mem => Exchange.not_deploys_of_not_isHelm (started.1.1 d mem)

/-- The members of the pool upgrade different validators. -/
lemma Stages.of_upgrades {position : Nat} {validator : ValidatorConfig}
    {own : List (Exchange network)} {e : Exchange network}
    (stages : lineup.Stages height position own e) (mem : validator ∈ lineup.initial)
    (upgrades : e.upgrades validator.component = true) :
    lineup.staged[position]? = some validator := by
  cases stages with
  | idle idle =>
    rw [Exchange.upgrades, idle.not_deploys (.inr rfl)] at upgrades
    cases upgrades
  | upgrade at' _ runs =>
    rw [Exchange.upgrades, runs.runsAny, Config.newUpgrade,
      Config.deploys_deployment_iff] at upgrades
    have mem' := lineup.staged_mem (List.mem_of_getElem? at')
    obtain rfl := lineup.eq_of_releaseName (lineup.mem_validators mem') (lineup.mem_validators mem)
      upgrades.2.2
    exact at'
  | restart _ runs =>
    rw [Exchange.upgrades, runs.runsAny, Config.deploys_restart] at upgrades
    cases upgrades

lemma Stages.notInstalls {position : Nat} {component : Component} {own : List (Exchange network)}
    {e : Exchange network} (stages : lineup.Stages height position own e) :
    e.installs component = false := by
  cases stages with
  | idle idle => exact idle.not_deploys (.inl rfl)
  | upgrade _ _ runs =>
    exact runs.runsAny.trans (Config.deploys_deployment_of_ne (by decide))
  | restart _ runs => exact runs.runsAny.trans Config.deploys_restart

lemma Stages.allowed {position now : Nat} {history : List (Exchange network)}
    {before : Log network} {e : Exchange network} (started : lineup.Started history now)
    (keeps : before.Keeps (lineup.Stages height) now) (le : now ≤ e.time)
    (stages : lineup.Stages height position (before.thread position) e) :
    lineup.Allowed height (history ++ before.map (·.2)) e := by
  have withheld {validator : ValidatorConfig} (at' : lineup.staged[position]? = some validator) :
      validator ≠ lineup.withheld := by
    rintro rfl
    exact lineup.withheld_notMem (List.mem_of_getElem? at')
  cases stages with
  | idle idle => exact .idle idle
  | @upgrade validator at' own runs =>
    have mem := lineup.staged_mem (List.mem_of_getElem? at')
    -- Only this member upgrades the validator, as none is staged twice.
    have others : ∀ entry ∈ before, entry.2.upgrades validator.component = true →
        entry.1 = position := by
      intro entry listed upgrades
      obtain ⟨own', _, stages⟩ := keeps.entry listed
      have at'' := stages.of_upgrades mem upgrades
      have lt := (List.getElem?_eq_some_iff.1 at'').1
      exact (List.getElem?_inj lt lineup.nodup_staged).1 (at''.trans at'.symm)
    have none : State.Without (Exchange.upgrades validator.component)
        (history ++ before.map (·.2)) e.time :=
      List.forall_mem_append.2 ⟨started.notDeployed, Log.without own others⟩
    have running : lineup.Running (history ++ before.map (·.2)) e.time :=
      Running.lasting lineup _ le started.2
    exact .deploy runs none (.upgrade mem running fun eq => (withheld at' eq).elim)
  | restart at' runs =>
    exact .restart runs (lineup.staged_mem (List.mem_of_getElem? at')) fun eq =>
      (withheld at' eq).elim

/-- What the member of the pool that stages a validator ensures. -/
lemma ensures_stage {validator : ValidatorConfig} {position : Nat}
    (at' : lineup.staged[position]? = some validator) :
    Ensures (lineup.Stages height position) (fun own _ => own = [])
      (Lifecycle.stage validator.node config.deployer validator.component
        (config.newRelease height validator))
      fun staged own now => staged.activationHeight = height ∧
        Done (config.newUpgrade height validator) own now := by
  refine (Lifecycle.ensures_stage rfl ?_ ?_ ?_).mono (fun _ _ => id) ?_
  · exact fun own e _ asked => .idle asked.idle
  · rintro _ e ⟨earlier, c, rfl, rfl, asked, _⟩ runs
    refine .upgrade at' (fun d mem => ?_) runs
    rw [List.mem_singleton.1 mem]
    exact asked.idle.not_deploys (.inr rfl)
  · exact fun own e _ runs => .restart at' runs
  · rintro staged _ now ⟨activationHeight, _, time, restarts, rfl, le, ⟨earlier, u, rfl, before⟩, _⟩
    exact ⟨activationHeight, u, List.mem_append_left _ (List.mem_append_right _ List.mem_cons_self),
      before.2.1, before.2.2 ▸ le⟩

end Lineup

variable {lineup height}

/-- The upgrade is deployed to all validators that are staged. -/
lemma Drill.ensures_staging :
    Ensures (lineup.Allowed height) lineup.Started
      (pool config.concurrency (lineup.staged.map fun validator =>
        Lifecycle.stage validator.node config.deployer validator.component
          (config.newRelease height validator)))
      fun results history now =>
        (∀ (position : Nat) validator, lineup.staged[position]? = some validator →
          ∃ staged : Staged, (inOrder results)[position]? = some staged ∧
            staged.activationHeight = height) ∧
        lineup.Staging height history now := by
  refine Ensures.of_pool (lineup.Stages height)
    (fun position staged own now => ∀ validator, lineup.staged[position]? = some validator →
      staged.activationHeight = height ∧ Done (config.newUpgrade height validator) own now)
    lineup.room ?_ ?_ ?_
  · intro position attempt listed
    rw [List.getElem?_map] at listed
    obtain ⟨validator, at', rfl⟩ := Option.map_eq_some_iff.1 listed
    refine (Lineup.ensures_stage at').mono (fun _ _ => id) fun staged own now ensured => ?_
    intro other at''
    cases at'.symm.trans at''
    exact ensured
  · exact fun started keeps le stages => stages.allowed started keeps le
  · intro history now log results finish started keeps le ends
    have staged {position validator} (at' : lineup.staged[position]? = some validator) :
        ∃ staged time, (inOrder results)[position]? = some staged ∧ time ≤ finish ∧
          staged.activationHeight = height ∧
          Done (config.newUpgrade height validator) (log.thread position) time := by
      obtain ⟨staged, time, given, le, has⟩ := ends position _ (by rw [List.getElem?_map, at']; rfl)
      exact ⟨staged, time, given, le, has validator at'⟩
    refine ⟨fun position validator at' => ?_,
      List.forall_mem_append.2 ⟨started.notDeployed, fun d mem => ?_⟩,
      List.forall_mem_append.2 ⟨started.1.2, fun d mem => ?_⟩,
      Lineup.Running.lasting lineup _ le started.2, fun validator mem => ?_⟩
    · obtain ⟨staged, _, given, _, activationHeight, _⟩ := staged at'
      exact ⟨staged, given, activationHeight⟩
    · obtain ⟨position, own, stages⟩ := keeps.exists_own mem
      refine Bool.eq_false_iff.2 fun upgrades => lineup.withheld_notMem ?_
      exact List.mem_of_getElem? (stages.of_upgrades lineup.withheld_mem upgrades)
    · obtain ⟨position, own, stages⟩ := keeps.exists_own mem
      exact stages.notInstalls
    · obtain ⟨position, at'⟩ := List.getElem?_of_mem mem
      obtain ⟨_, time, _, le, _, done⟩ := staged at'
      exact done.mono (fun d mem => List.mem_append_right _ (log.thread_subset position mem)) le

/-- All validators that are staged get to the activation height. -/
lemma Drill.ensures_activations {registry : Registry} {staged : List Staged}
    (heights : ∀ (position : Nat) validator, lineup.staged[position]? = some validator →
      ∃ item : Staged, staged[position]? = some item ∧ item.activationHeight = height) :
    Ensures (lineup.Allowed height) (lineup.Staging height)
      (pool config.concurrency ((lineup.staged.zip staged).map fun (validator, item) =>
        Lifecycle.awaitActivation validator.node config.deployer validator.component item registry))
      fun _ => lineup.StagedAll height := by
  refine Ensures.of_pool (fun _ _ e => e.Idle)
    (fun position _ own now => ∀ validator, lineup.staged[position]? = some validator →
      ∃ r ∈ own, ∃ reached, validator.participant.ReportsHeight reached r ∧ height ≤ reached ∧
        r.arrival ≤ now)
    lineup.room ?_ ?_ ?_
  · intro position attempt listed
    rw [List.getElem?_map] at listed
    obtain ⟨⟨validator, item⟩, pair, rfl⟩ := Option.map_eq_some_iff.1 listed
    obtain ⟨at', given⟩ := List.getElem?_zip_eq_some.1 pair
    obtain ⟨item', given', activationHeight⟩ := heights position validator at'
    cases given.symm.trans given'
    refine .of_asksOnly Lifecycle.asksOnly_awaitActivation (fun _ e awaits => awaits.idle) ?_
    rintro own now es activated finish rfl _ path other at''
    cases at'.symm.trans at''
    obtain ⟨r, mem, reached, reports, le, arrival⟩ := Lifecycle.reports_of_awaitActivation path
    exact ⟨r, mem, reached, reports, activationHeight ▸ le, Nat.le_of_eq arrival⟩
  · exact fun _ _ _ idle => .idle idle
  · intro history now log results finish staging keeps le ends
    have idle : ∀ d ∈ log.map (·.2), d.Idle := by
      intro d mem
      obtain ⟨_, _, idle⟩ := keeps.exists_own mem
      exact idle
    refine ⟨Lineup.Staging.steady lineup height _ le idle staging, fun validator mem => ?_⟩
    obtain ⟨u, listed, succeeds, before⟩ := staging.2.2.2 validator mem
    obtain ⟨position, at'⟩ := List.getElem?_of_mem mem
    obtain ⟨item, given, _⟩ := heights position validator at'
    have pair : (lineup.staged.zip staged)[position]? = some (validator, item) :=
      List.getElem?_zip_eq_some.2 ⟨at', given⟩
    obtain ⟨_, time, _, le, reports⟩ := ends position _ (by rw [List.getElem?_map, pair]; rfl)
    obtain ⟨r, own, reached, reports, enough, arrival⟩ := reports validator at'
    -- The upgrade was deployed before this pool, and all that happens in it is watching.
    refine ⟨history, log.map (·.2), rfl, fun d mem => ⟨?_, ?_⟩, u, listed, r,
      log.thread_subset position own, reached, succeeds, ?_, reports, enough,
      Nat.le_trans arrival le⟩
    · exact (idle d mem).not_deploys (.inr rfl)
    · exact (idle d mem).deletesPod _
    · exact Nat.le_trans before (keeps.time _ (Log.mem_thread.1 own))

/-- The upgrade takes effect on all validators that are staged. -/
theorem Drill.ensures_upgradeAll {schedule : Schedule}
    (chosen : schedule.activationHeight = height) :
    Ensures (lineup.Allowed height) lineup.Started (upgradeAll config schedule lineup.staged)
      fun _ => lineup.StagedAll height := by
  subst chosen
  refine (ensures_staging.widen).bind fun results => ?_
  refine Ensures.bind (Q := fun _ => lineup.StagedAll schedule.activationHeight)
    (Ensures.widen (.of_fact fun heights => ensures_activations heights)) fun _ => ?_
  exact .pure fun _ _ => id

end Staging

end UpgradeDrill
