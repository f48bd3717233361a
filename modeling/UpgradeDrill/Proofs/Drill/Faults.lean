import UpgradeDrill.Proofs.Drill.Agreement
import UpgradeDrill.Proofs.Drill.Failures

/-!
# When a drill finds a fault

A valid configuration may still have a faulty upgrade: one of a name for which there are no checks,
or one that lists a change twice. No drill passes with such an upgrade, but none tells the fault
before all that runs before the upgrade is deployed (`late_faults`).
-/

namespace UpgradeDrill

open Attempt

namespace Drill

section Fault

variable {config : Config} {now finish : Nat} {es : List (Exchange network)}

/-- The checks before an upgrade pass only if there are some. -/
lemma name_of_checkBefore {validators : List ValidatorConfig} {before : Snapshot}
    (path : (checkBefore config validators).Yields now es (.ok before) finish) :
    config.upgradeName = Aspen.name := by
  obtain ⟨_, _, _, _, rfl, _, path⟩ := path.bind_ok
  obtain ⟨_, _, block, _, rfl, _, path⟩ := path.bind_ok
  obtain ⟨_, _, appVersion, _, rfl, _, path⟩ := path.bind_ok
  obtain ⟨_, _, genesis, _, rfl, _, path⟩ := path.bind_ok
  split at path
  · obtain ⟨_, _, _, _, rfl, checked, _⟩ := path.bind_ok
    have checked := yields_widen_ok.1 checked
    unfold checkUpgradeBefore at checked
    split at checked
    · assumption
    · obtain ⟨_, eq, _⟩ := yields_throw_iff.1 checked
      cases eq
  · obtain ⟨_, eq, _⟩ := yields_throw_iff.1 path
    cases eq

/-- An upgrade is scheduled only if there is no fault in it. -/
lemma not_fault_of_prepare {lineup : Lineup config} {prepared : Prepared}
    (path : (prepare lineup).Yields now es (.ok prepared) finish) (error : DrillError) :
    ¬ config.Fault error := by
  intro fault
  cases fault with
  | unknown unknown =>
    obtain ⟨_, _, _, _, rfl, _, path⟩ := path.bind_ok
    obtain ⟨_, _, infos, _, rfl, _, path⟩ := path.bind_ok
    obtain ⟨_, _, before, _, rfl, checked, _⟩ := path.bind_ok
    exact unknown (name_of_checkBefore checked)
  | repeated known twice =>
    obtain ⟨_, _, nodup⟩ := baseline_of_prepare path
    cases known.symm.trans lineup.changes_eq
    exact List.nodup_iff_forall_not_duplicate.1 nodup _ twice

/-- A drill that has not scheduled its upgrade, and blames it, has started the network. -/
lemma started_of_prepare {lineup : Lineup config} {error : DrillError}
    (path : (prepare lineup).Yields now es (.error error) finish) (blames : error.BlamesUpgrade) :
    lineup.Started es finish := by
  rcases path.bind_cases with ⟨_, eq, failed⟩ | ⟨_, rest, _, _, rfl, fetched, path⟩
  · cases eq
    exact absurd blames (faultless_fetchCharts failed).2
  rcases path.bind_cases with ⟨_, eq, failed⟩ | ⟨_, rest, infos, time, rfl, launched, path⟩
  · cases eq
    exact absurd blames (faultless_startNetwork lineup.room _ _ failed).2
  · -- The protocol does not depend on a height until the network is started.
    have unused := ((@ensures_fetchCharts config lineup 0) rfl fetched).2 () rfl
    have started := ((@ensures_startNetwork config lineup 0) unused launched).2 infos rfl
    have idle : ∀ e ∈ rest, e.Idle := fun e mem =>
      Exchange.idle_of_quiet (quiet_survey infos path e mem)
    rw [← List.append_assoc]
    exact Lineup.Started.steady lineup rest path.le idle started

/-- A drill that blames its upgrade has started the network, and there is a fault in the upgrade. -/
lemma fault_of_yields (valid : config.validate = .ok ()) (lineup : Lineup config)
    {error : DrillError} (path : (run config).Yields now es (.error error) finish)
    (blames : error.BlamesUpgrade) : config.Fault error ∧ lineup.Started es finish := by
  have fault := (explained_run valid path).fault blames
  rw [run_eq lineup] at path
  rcases path.bind_cases with ⟨_, eq, unprepared⟩ | ⟨_, _, prepared, _, _, prepares, _⟩
  · cases eq
    exact ⟨fault, started_of_prepare unprepared blames⟩
  · exact (not_fault_of_prepare prepares error fault).elim

/-- A drill that blames its upgrade has installed the rollup, among others. -/
lemma installs_of_blames {σ : Type} {world : World network σ} {state : σ} {error : DrillError}
    (valid : config.validate = .ok ())
    (failed : ((run config).run.run world now state).value = .error error)
    (blames : error.BlamesUpgrade) : ∃ e ∈ (run config).run.exchanges world now state,
      e.runsAny (Command.isHelm "install") = true := by
  obtain ⟨lineup⟩ := exists_lineup valid
  have path := yields_run world (run config) now state
  rw [failed] at path
  obtain ⟨_, _, running⟩ := fault_of_yields valid lineup path blames
  obtain ⟨e, mem, succeeds, _⟩ := running.rollupInstalled
  exact ⟨e, mem, succeeds.runs.runsAny.trans Config.isHelm_deployment⟩

/-- No drill with a valid configuration passes if there is a fault in its upgrade. It blames the
upgrade only for a fault in it, and only once all that runs before the upgrade has been deployed,
before anything is upgraded. -/
theorem late_faults {σ : Type} (valid : config.validate = .ok ()) (world : World network σ)
    (now : Nat) (state : σ) :
    (((run config).run.run world now state).value = .ok () → ∀ error, ¬ config.Fault error) ∧
      ∃ lineup : Lineup config, ∀ error,
        ((run config).run.run world now state).value = .error error → error.BlamesUpgrade →
          config.Fault error ∧
            lineup.Started ((run config).run.exchanges world now state)
              ((run config).run.run world now state).time := by
  obtain ⟨lineup⟩ := exists_lineup valid
  have path := yields_run world (run config) now state
  refine ⟨fun ok => ?_, lineup, fun error failed => ?_⟩
  · rw [ok, run_eq lineup] at path
    obtain ⟨_, _, prepared, _, _, prepares, _⟩ := path.bind_ok
    exact not_fault_of_prepare prepares
  · rw [failed] at path
    exact fault_of_yields valid lineup path

end Fault

end Drill

/-! Faulty upgrades that are found once the network is deployed. -/

namespace Sample

/-- A drill with an upgrade for which there are no checks. -/
def unchecked : Config :=
  { config with
    upgradeName := "birch"
    preUpgradeImages := [("birch", ⟨"3", "4"⟩)]
    upgrades := [("birch", ["birch_change"])] }

/-- A drill with an upgrade that lists a change twice. -/
def repeating : Config :=
  { config with upgrades := [(Aspen.name, ["price_feed_change", "price_feed_change"])] }

lemma valid_unchecked : unchecked.validate = .ok () := by with_unfolding_all rfl

lemma valid_repeating : repeating.validate = .ok () := by with_unfolding_all rfl

lemma name_unchecked : (match ((Drill.run unchecked).run.run world 0 .old).value with
    | .error (.upgrade (.unknownUpgrade name)) => some name
    | _ => none) = some "birch" := by decide +kernel

lemma fails_unchecked : ((Drill.run unchecked).run.run world 0 .old).value =
    .error (.upgrade (.unknownUpgrade "birch")) := by
  have found := name_unchecked
  split at found
  · rename_i eq
    cases found
    exact eq
  · cases found

lemma claims_repeating : (match ((Drill.run repeating).run.run world 0 .old).value with
    | .error (.upgrade (.ambiguousChange change first second)) => some (change, first, second)
    | _ => none) = some ("price_feed_change", Aspen.name, Aspen.name) := by decide +kernel

lemma fails_repeating : ((Drill.run repeating).run.run world 0 .old).value =
    .error (.upgrade (.ambiguousChange "price_feed_change" Aspen.name Aspen.name)) := by
  have found := claims_repeating
  split at found
  · rename_i eq
    cases found
    exact eq
  · cases found

end Sample

namespace Drill

theorem late_faults_unchecked : Sample.unchecked.validate = .ok () ∧
    ((run Sample.unchecked).run.run Sample.world 0 .old).value =
      .error (.upgrade (.unknownUpgrade "birch")) ∧
    ∃ lineup : Lineup Sample.unchecked,
      Sample.unchecked.Fault (.upgrade (.unknownUpgrade "birch")) ∧
        lineup.Started ((run Sample.unchecked).run.exchanges Sample.world 0 .old)
          ((run Sample.unchecked).run.run Sample.world 0 .old).time := by
  obtain ⟨_, lineup, told⟩ := late_faults Sample.valid_unchecked Sample.world 0 .old
  exact ⟨Sample.valid_unchecked, Sample.fails_unchecked, lineup,
    told _ Sample.fails_unchecked trivial⟩

/-- Both faults pass the validation, and are told after components were installed. -/
theorem valid_faults_after_installs :
    (Sample.unchecked.validate = .ok () ∧
      ((run Sample.unchecked).run.run Sample.world 0 .old).value =
        .error (.upgrade (.unknownUpgrade "birch")) ∧
      ∃ e ∈ (run Sample.unchecked).run.exchanges Sample.world 0 .old,
        e.runsAny (Command.isHelm "install") = true) ∧
    Sample.repeating.validate = .ok () ∧
      ((run Sample.repeating).run.run Sample.world 0 .old).value =
        .error (.upgrade (.ambiguousChange "price_feed_change" Aspen.name Aspen.name)) ∧
      ∃ e ∈ (run Sample.repeating).run.exchanges Sample.world 0 .old,
        e.runsAny (Command.isHelm "install") = true :=
  ⟨⟨Sample.valid_unchecked, Sample.fails_unchecked,
      installs_of_blames Sample.valid_unchecked Sample.fails_unchecked trivial⟩,
    Sample.valid_repeating, Sample.fails_repeating,
      installs_of_blames Sample.valid_repeating Sample.fails_repeating trivial⟩

end Drill

end UpgradeDrill
