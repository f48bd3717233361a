import UpgradeDrill.Proofs.Drill.Order
import UpgradeDrill.Proofs.Upgrade.Cohort
import UpgradeDrill.Proofs.Upgrade.Registry

/-!
# What a drill that ends well has seen

The checks of a drill are spread over the time before the upgrade and the time after it. A drill
that ends well has seen all initial validators agree before, all validators agree after, and both
agree with each other and with the upgrade that was scheduled (`upgrade_agreement`).
-/

namespace UpgradeDrill

open Attempt

variable {config : Config}

namespace Lineup

variable (lineup : Lineup config)

/-- What was reported in exchanges before an upgrade that is scheduled for a height. -/
structure Baseline (height version : Nat) (block : Block) (es : List (Exchange network)) :
    Prop where
  notUpgraded : ∀ e ∈ es, e.runsAny (Command.isHelm "upgrade") = false
  /-- The height is some blocks after one that the first validator reported. -/
  offset : ∃ latest, height = latest + config.activationOffset ∧ height ≤ maxUInt64 ∧
    ∃ e ∈ es, lineup.first.participant.ReportsHeight latest e
  versions : ∀ validator ∈ lineup.initial,
    ∃ e ∈ es, validator.participant.ReportsVersion version e
  genesisVersions : ∀ validator ∈ lineup.initial,
    ∃ e ∈ es, validator.participant.ReportsGenesisVersion version e
  blocks : ∀ validator ∈ lineup.initial, ∃ e ∈ es, validator.participant.ReportsBlock 1 block e

/-- What was reported in exchanges after the upgrade. -/
structure Outcome (height version : Nat) (block : Block) (info : UpgradesInfo)
    (es : List (Exchange network)) : Prop where
  idle : ∀ e ∈ es, e.Idle
  versions : ∀ validator ∈ config.validators,
    ∃ e ∈ es, validator.participant.ReportsVersion version e
  blocks : ∀ validator ∈ config.validators, ∃ e ∈ es, validator.participant.ReportsBlock 1 block e
  infos : ∀ validator ∈ config.validators,
    ∃ e ∈ es, validator.participant.ReportsUpgrades info e
  unscheduled : info.scheduled = []
  known : ∀ change ∈ info.applied,
    change.name ∈ lineup.changes ∧ change.activationHeight = height
  /-- Some change was applied, and the last one brought the app version. -/
  last : ∃ change, info.applied.getLast? = some change ∧ change.appVersion = version

end Lineup

section Gave

variable {ε α : Type} {validators : List ValidatorConfig} {es : List (Exchange network)}
  {Reports : Participant → Exchange network → Prop}

lemma reported_mono {Reports : ValidatorConfig → Exchange network → Prop}
    {part : List (Exchange network)} (subset : part ⊆ es)
    (reported : ∀ validator ∈ validators, ∃ e ∈ part, Reports validator e) :
    ∀ validator ∈ validators, ∃ e ∈ es, Reports validator e := by
  intro validator mem
  obtain ⟨e, mem, reports⟩ := reported validator mem
  exact ⟨e, subset mem, reports⟩

/-- What all nodes of validators gave, they reported. -/
lemma reports_of_gave {ask : Node network → Attempt network ε α} {value : α}
    (gave : ∀ node ∈ validators.map (·.node), (ask node).Gave es value)
    (reports : ∀ {participant now own finish},
      (ask (Sequencer.node participant)).Yields now own (.ok value) finish →
        ∃ e ∈ own, Reports participant e) :
    ∀ validator ∈ validators, ∃ e ∈ es, Reports validator.participant e := by
  intro validator mem
  obtain ⟨start, own, finish, subset, path⟩ := gave _ (List.mem_map_of_mem mem)
  obtain ⟨e, mem, reported⟩ := reports path
  exact ⟨e, subset mem, reported⟩

end Gave

namespace Drill

variable {validators : List ValidatorConfig} {now finish : Nat} {es : List (Exchange network)}

lemma reports_of_agreedFirstBlock {block : Block}
    (path : (agreedFirstBlock (validators.map (·.node))).Yields now es (.ok block) finish) :
    ∀ validator ∈ validators, ∃ e ∈ es, validator.participant.ReportsBlock 1 block e :=
  reports_of_gave (Cohort.gave_of_ensureConsistent (yields_widen_ok.1 path))
    reportsBlock_of_block

/-- All validators agree on what is seen before the upgrade. -/
lemma reports_of_checkBefore {before : Snapshot}
    (path : (checkBefore config validators).Yields now es (.ok before) finish) :
    (∀ validator ∈ validators,
        ∃ e ∈ es, validator.participant.ReportsVersion before.appVersion e) ∧
      (∀ validator ∈ validators,
        ∃ e ∈ es, validator.participant.ReportsGenesisVersion before.appVersion e) ∧
      ∀ validator ∈ validators,
        ∃ e ∈ es, validator.participant.ReportsBlock 1 before.firstBlock e := by
  obtain ⟨_, _, _, _, rfl, _, path⟩ := path.bind_ok
  obtain ⟨_, _, block, _, rfl, first, path⟩ := path.bind_ok
  obtain ⟨_, _, appVersion, _, rfl, second, path⟩ := path.bind_ok
  obtain ⟨_, _, genesis, _, rfl, third, path⟩ := path.bind_ok
  split at path
  · rename_i same
    obtain ⟨_, _, _, _, rfl, _, path⟩ := path.bind_ok
    obtain ⟨rfl, eq, _⟩ := yields_pure_iff.1 path
    cases eq
    subst same
    have blocks := reports_of_agreedFirstBlock first
    have versions := reports_of_gave (Cohort.gave_of_ensureConsistent (yields_widen_ok.1 second))
      reportsVersion_of_currentAppVersion
    have genesis := reports_of_gave (Cohort.gave_of_ensureConsistent (yields_widen_ok.1 third))
      reportsGenesisVersion_of_genesisAppVersion
    refine ⟨reported_mono ?_ versions, reported_mono ?_ genesis, reported_mono ?_ blocks⟩
    · exact fun e mem => by simp [mem]
    · exact fun e mem => by simp [mem]
    · exact fun e mem => by simp [mem]
  · obtain ⟨_, eq, _⟩ := yields_throw_iff.1 path
    cases eq

/-- The upgrade is scheduled relative to a height that was reported. -/
lemma reports_of_schedule {reference : ValidatorConfig} {changes : List String}
    {scheduled : Schedule} (known : config.changes = .ok changes)
    (path : (schedule config reference).Yields now es (.ok scheduled) finish) :
    (∃ latest, scheduled.activationHeight = latest + config.activationOffset ∧
        scheduled.activationHeight ≤ maxUInt64 ∧
        ∃ e ∈ es, reference.participant.ReportsHeight latest e) ∧
      scheduled.registry = ⟨[⟨config.upgradeName, changes, scheduled.activationHeight⟩]⟩ ∧
      changes.Nodup := by
  obtain ⟨_, _, latest, _, rfl, first, path⟩ := path.bind_ok
  obtain ⟨_, _, height, _, rfl, second, path⟩ := path.bind_ok
  obtain ⟨_, _, _, _, rfl, third, path⟩ := path.bind_ok
  obtain ⟨_, _, registry, _, rfl, fourth, path⟩ := path.bind_ok
  obtain ⟨rfl, eq, _⟩ := yields_pure_iff.1 path
  cases eq
  obtain ⟨rfl, sum, _⟩ := yields_ofExcept_iff.1 (yields_widen_ok.1 second)
  obtain ⟨rfl, eq, _⟩ := yields_ofExcept_iff.1 third
  obtain ⟨rfl, made, _⟩ := yields_ofExcept_iff.1 (yields_widen_ok.1 fourth)
  cases eq.trans known
  obtain ⟨e, mem, reports, _⟩ := reportsHeight_of_lastBlockHeight (yields_widen_ok.1 first)
  obtain ⟨rfl, nodup⟩ := Registry.of_ofGroups_single made.symm
  refine ⟨⟨latest, ?_⟩, rfl, nodup⟩
  unfold Lifecycle.heightAfter at sum
  split at sum
  · rename_i fits
    cases sum
    exact ⟨rfl, fits, e, List.mem_append_left _ mem, reports⟩
  · cases sum

/-- All validators have the same app version, which is above the one before. -/
lemma reports_of_increasedVersion {before version : Nat} (some : validators ≠ [])
    (path : (increasedVersion before (validators.map (·.node))).Yields now es (.ok version)
      finish) :
    before < version ∧
      ∀ validator ∈ validators, ∃ e ∈ es, validator.participant.ReportsVersion version e := by
  obtain ⟨own, _, state, _, rfl, observed, path⟩ := path.bind_ok
  obtain ⟨rfl, eq, _⟩ := yields_ofExcept_iff.1 (yields_widen_ok.1 path)
  cases increased : state.observations.forM (checkIncreased before) with
  | error error =>
    rw [increased] at eq
    cases eq
  | ok =>
    rw [increased] at eq
    -- All nodes gave the version that is agreed on, so it is enough that one of them is above.
    have agreed : state.agreed toString currentVersion = .ok version := eq.symm
    have gave : ∀ node ∈ validators.map (·.node), (node.name, version) ∈ state.observations ∧
        node.currentAppVersion.Gave own version := by
      intro node mem
      obtain ⟨value, listed, gave⟩ :=
        Cohort.gave_of_observe (yields_widen_ok.1 observed) node mem
      obtain rfl : value = version := CohortState.eq_of_agreed agreed _ listed
      exact ⟨listed, gave⟩
    obtain ⟨first, rest, rfl⟩ := List.exists_cons_of_ne_nil some
    constructor
    · have checked := Except.forM_ok_iff.1 increased _ (gave _ List.mem_cons_self).1
      unfold checkIncreased at checked
      dsimp only at checked
      split at checked
      · rename_i above
        exact above
      · cases checked
    · rw [List.append_nil]
      exact reports_of_gave (fun node mem => (gave node mem).2) reportsVersion_of_currentAppVersion

/-- The first block is still what it was. -/
lemma reports_of_checkHistory {block : Block} {value : Unit}
    (path : (checkHistory block (validators.map (·.node))).Yields now es (.ok value) finish) :
    ∀ validator ∈ validators, ∃ e ∈ es, validator.participant.ReportsBlock 1 block e := by
  obtain ⟨_, _, after, _, rfl, first, path⟩ := path.bind_ok
  split at path
  · rename_i same
    obtain ⟨rfl, _⟩ := yields_pure_iff.1 path
    rw [List.append_nil, ← same]
    exact reports_of_agreedFirstBlock first
  · obtain ⟨_, eq, _⟩ := yields_throw_iff.1 path
    cases eq

/-- What was seen before the upgrade is scheduled. -/
lemma baseline_of_prepare {lineup : Lineup config} {prepared : Prepared}
    (path : (prepare lineup).Yields now es (.ok prepared) finish) :
    lineup.Baseline prepared.schedule.activationHeight prepared.before.appVersion
        prepared.before.firstBlock es ∧
      prepared.schedule.registry =
        ⟨[⟨config.upgradeName, lineup.changes, prepared.schedule.activationHeight⟩]⟩ ∧
      lineup.changes.Nodup := by
  have started : lineup.Started ([] ++ es) finish := (ensures_prepare 0 rfl path).2 prepared rfl
  obtain ⟨_, _, _, _, rfl, _, path⟩ := path.bind_ok
  obtain ⟨_, _, infos, _, rfl, _, path⟩ := path.bind_ok
  obtain ⟨_, _, before, _, rfl, first, path⟩ := path.bind_ok
  obtain ⟨_, _, _, _, rfl, _, path⟩ := path.bind_ok
  obtain ⟨_, _, scheduled, _, rfl, second, path⟩ := path.bind_ok
  obtain ⟨rfl, eq, _⟩ := yields_pure_iff.1 path
  cases eq
  obtain ⟨versions, genesis, blocks⟩ := reports_of_checkBefore first
  obtain ⟨⟨latest, sum, fits, r, mem, reports⟩, registry, nodup⟩ :=
    reports_of_schedule lineup.changes_eq second
  refine ⟨⟨started.1.1, ⟨latest, sum, fits, r, by simp [mem], reports⟩, reported_mono ?_ versions,
    reported_mono ?_ genesis, reported_mono ?_ blocks⟩, registry, nodup⟩
  · exact fun e mem => by simp [mem]
  · exact fun e mem => by simp [mem]
  · exact fun e mem => by simp [mem]

/-- What was seen once all validators are upgraded. -/
lemma outcome_of_checkAfter {lineup : Lineup config} {height : Nat} {before : Snapshot}
    {value : Unit}
    (path : (checkAfter ⟨[⟨config.upgradeName, lineup.changes, height⟩]⟩ before lineup.first
      config.validators).Yields now es (.ok value) finish) :
    ∃ version info, lineup.Outcome height version before.firstBlock info es ∧
      before.appVersion < version := by
  have only := asksOnly_checkAfter config config.validators
    ⟨[⟨config.upgradeName, lineup.changes, height⟩]⟩ before lineup.first
  have idle : ∀ e ∈ es, e.Idle := fun e mem => Exchange.idle_of_quiet (only path e mem).quiet
  have some : config.validators ≠ [] := by
    rw [lineup.validators_eq]
    exact nofun
  obtain ⟨_, _, version, _, rfl, first, path⟩ := path.bind_ok
  obtain ⟨_, _, _, _, rfl, second, path⟩ := path.bind_ok
  obtain ⟨_, _, info, _, rfl, third, path⟩ := path.bind_ok
  obtain ⟨rfl, eq, _⟩ := yields_ofExcept_iff.1 (yields_widen_ok.1 path)
  obtain ⟨above, versions⟩ := reports_of_increasedVersion some first
  have blocks := reports_of_checkHistory second
  have infos := reports_of_gave (Cohort.gave_of_ensureConsistent (yields_widen_ok.1 third))
    reportsUpgrades_of_upgradesInfo
  unfold checkApplied at eq
  split at eq
  · rename_i unscheduled
    obtain ⟨known, last⟩ := Registry.checkChanges_ok_iff.1 eq.symm
    refine ⟨version, info, ⟨idle, reported_mono ?_ versions, reported_mono ?_ blocks,
      reported_mono ?_ infos, List.isEmpty_iff.1 unscheduled, fun change mem => ?_, last⟩, above⟩
    · exact fun e mem => by simp [mem]
    · exact fun e mem => by simp [mem]
    · exact fun e mem => by simp [mem]
    · obtain ⟨group, claimed, same⟩ := Registry.checkChange_ok_iff.1 (known change mem)
      obtain ⟨rfl, mem⟩ := Registry.of_groupOf?_single claimed
      exact ⟨mem, same⟩
  · cases eq

end Drill

namespace Lineup

variable (lineup : Lineup config)

/-- What a drill that ends well has seen before the upgrade and once all validators have it. -/
structure Passed (height oldVersion version : Nat) (block : Block) (info : UpgradesInfo)
    (before during after : List (Exchange network)) (time : Nat) : Prop where
  baseline : lineup.Baseline height oldVersion block before
  joined : lineup.Joined height (before ++ during) time
  later : ∀ e ∈ after, time ≤ e.time
  outcome : lineup.Outcome height version block info after
  increased : oldVersion < version

end Lineup

namespace Drill

/-- A drill passes only if it has seen all that it is to check. -/
theorem passed_of_yields (lineup : Lineup config) {now finish : Nat} {es : List (Exchange network)}
    (path : (run config).Yields now es (.ok ()) finish) :
    lineup.changes.Nodup ∧ ∃ height oldVersion version block info before during after rest time,
      es = before ++ during ++ after ++ rest ∧
        lineup.Passed height oldVersion version block info before during after time := by
  rw [run_eq lineup] at path
  obtain ⟨before, _, prepared, _, rfl, first, path⟩ := path.bind_ok
  obtain ⟨during, _, joiningInfo, time, rfl, second, path⟩ := path.bind_ok
  obtain ⟨after, rest, _, _, rfl, third, _⟩ := path.bind_ok
  obtain ⟨baseline, registry, nodup⟩ := baseline_of_prepare first
  have started : lineup.Started ([] ++ before) _ := (ensures_prepare 0 rfl first).2 prepared rfl
  have joined := (ensures_carryOut prepared.schedule started second).2 joiningInfo rfl
  rw [registry] at third
  obtain ⟨version, info, outcome, increased⟩ := outcome_of_checkAfter third
  refine ⟨nodup, _, _, version, _, info, before, during, after, rest, time, ?_, baseline, joined,
    fun e mem => (third.time_mem mem).1, outcome, increased⟩
  rw [List.append_assoc, List.append_assoc]

/-- A drill with a valid configuration that ends well has seen all validators agree on the upgrade:
on the app version, which has increased, on the first block, which is what it was, and on the
applied changes, which are known and take effect at the scheduled height. -/
theorem upgrade_agreement {σ : Type} (valid : config.validate = .ok ()) (world : World network σ)
    (now : Nat) (state : σ) (ok : ((run config).run.run world now state).value = .ok ()) :
    ∃ (lineup : Lineup config) (height oldVersion version : Nat) (block : Block)
      (info : UpgradesInfo) (before during after rest : List (Exchange network)) (time : Nat),
      (run config).run.exchanges world now state = before ++ during ++ after ++ rest ∧
        lineup.Passed height oldVersion version block info before during after time := by
  obtain ⟨lineup⟩ := exists_lineup valid
  have path := yields_run world (run config) now state
  rw [ok] at path
  exact ⟨lineup, (passed_of_yields lineup path).2⟩

theorem upgrade_agreement_sample : Sample.config.validate = .ok () ∧
    ((run Sample.config).run.run Sample.world 0 .old).value = .ok () ∧
    ∃ (lineup : Lineup Sample.config) (height oldVersion version : Nat) (block : Block)
      (info : UpgradesInfo) (before during after rest : List (Exchange network)) (time : Nat),
      (run Sample.config).run.exchanges Sample.world 0 .old = before ++ during ++ after ++ rest ∧
        lineup.Passed height oldVersion version block info before during after time :=
  ⟨Sample.valid, Sample.passes, upgrade_agreement Sample.valid Sample.world 0 .old Sample.passes⟩

end Drill

end UpgradeDrill
