import Mathlib.Data.List.Nodup
import UpgradeDrill.Drill.Run
import UpgradeDrill.Proofs.Routine.Attempt

/-!
# The line-up of a drill

The parts that the validators of a configuration play, in their order: all but the last two are
upgraded while they run, the next one is upgraded only after it has stalled, and the last one joins.
A valid configuration has a line-up (`exists_lineup`), and `run_eq` is the drill in its terms.
-/

namespace UpgradeDrill

/-- The validators of a configuration by their parts. -/
structure Lineup (config : Config) where
  /-- The validator that the others are compared with. -/
  first : ValidatorConfig
  others : List ValidatorConfig
  withheld : ValidatorConfig
  joining : ValidatorConfig
  images : PreUpgradeImages
  changes : List String
  validators_eq : config.validators = first :: others ++ [withheld, joining]
  nodup : (config.validators.map (·.name)).Nodup
  images_eq : config.preUpgrade = .ok images
  changes_eq : config.changes = .ok changes
  room : 0 < config.concurrency

namespace Config

lemma nodup_of_repeated {names seen : List String} (none : repeated? seen names = none) :
    names.Nodup ∧ ∀ name ∈ names, name ∉ seen := by
  induction names generalizing seen with
  | nil => exact ⟨List.nodup_nil, nofun⟩
  | cons name names ih =>
    rw [repeated?] at none
    split at none
    · cases none
    · rename_i fresh
      obtain ⟨nodup, absent⟩ := ih none
      rw [List.contains_iff_mem] at fresh
      refine ⟨List.nodup_cons.2 ⟨fun mem => absent name mem List.mem_cons_self, nodup⟩, ?_⟩
      intro other mem
      rcases List.mem_cons.1 mem with rfl | mem
      · exact fresh
      · exact fun old => absent other mem (List.mem_cons_of_mem _ old)

/-- What a valid configuration is checked for. -/
lemma of_validate {config : Config} (valid : config.validate = .ok ()) :
    (∃ changes, config.changes = .ok changes) ∧ (∃ images, config.preUpgrade = .ok images) ∧
      minValidators ≤ config.validators.length ∧ (config.validators.map (·.name)).Nodup ∧
      0 < config.concurrency := by
  unfold validate at valid
  simp only [bind, Except.bind] at valid
  split at valid
  · cases valid
  rename_i changes changes_eq
  split at valid
  · cases valid
  rename_i images images_eq
  split at valid
  · cases valid
  rename_i enough
  split at valid
  · cases valid
  rename_i none
  split at valid
  · cases valid
  rename_i room
  exact ⟨⟨changes, changes_eq⟩, ⟨images, images_eq⟩, Nat.le_of_not_lt enough,
    (nodup_of_repeated none).1, Nat.pos_of_ne_zero room⟩

end Config

/-- The parts are given out in the order of the validators. -/
theorem exists_lineup {config : Config} (valid : config.validate = .ok ()) :
    Nonempty (Lineup config) := by
  obtain ⟨⟨changes, changes_eq⟩, ⟨images, images_eq⟩, enough, nodup, room⟩ :=
    Config.of_validate valid
  unfold Config.minValidators at enough
  obtain ⟨first, rest, eq⟩ :=
    List.exists_cons_of_length_pos (by omega : 0 < config.validators.length)
  have long : 3 ≤ rest.length := by
    rw [eq, List.length_cons] at enough
    omega
  -- The last two are what is left after all others.
  have last : (rest.drop (rest.length - 2)).length = 2 := by
    rw [List.length_drop]
    omega
  obtain ⟨withheld, joining, two⟩ := List.length_eq_two.1 last
  have split : config.validators = first :: rest.take (rest.length - 2) ++ [withheld, joining] := by
    rw [eq, ← two, List.cons_append, List.take_append_drop]
  exact ⟨⟨first, _, withheld, joining, images, changes, split, nodup, images_eq, changes_eq, room⟩⟩

namespace Lineup

variable {config : Config} (lineup : Lineup config)

/-- The validators that are upgraded while they run. -/
def staged : List ValidatorConfig := lineup.first :: lineup.others

/-- The validators that are there before the upgrade. -/
def initial : List ValidatorConfig := lineup.staged ++ [lineup.withheld]

lemma validators_eq_initial : config.validators = lineup.initial ++ [lineup.joining] := by
  rw [lineup.validators_eq, initial, staged, List.append_assoc]
  rfl

lemma mem_validators {validator : ValidatorConfig} (mem : validator ∈ lineup.initial) :
    validator ∈ config.validators := by
  rw [lineup.validators_eq_initial]
  exact List.mem_append_left _ mem

lemma joining_mem : lineup.joining ∈ config.validators := by
  rw [lineup.validators_eq_initial]
  exact List.mem_append_right _ List.mem_cons_self

lemma withheld_mem : lineup.withheld ∈ lineup.initial :=
  List.mem_append_right _ List.mem_cons_self

lemma staged_mem {validator : ValidatorConfig} (mem : validator ∈ lineup.staged) :
    validator ∈ lineup.initial :=
  List.mem_append_left _ mem

include lineup

/-- The names of the validators tell them apart. -/
lemma eq_of_name {validator other : ValidatorConfig} (mem : validator ∈ config.validators)
    (mem' : other ∈ config.validators) (same : validator.name = other.name) : validator = other :=
  List.inj_on_of_nodup_map lineup.nodup mem mem' same

lemma nodup_validators : (lineup.initial ++ [lineup.joining]).Nodup := by
  rw [← lineup.validators_eq_initial]
  exact List.Nodup.of_map _ lineup.nodup

lemma nodup_initial : (lineup.staged ++ [lineup.withheld]).Nodup :=
  (List.nodup_append.1 lineup.nodup_validators).1

lemma nodup_staged : lineup.staged.Nodup := (List.nodup_append.1 lineup.nodup_initial).1

lemma joining_notMem : lineup.joining ∉ lineup.initial :=
  fun mem => (List.nodup_append.1 lineup.nodup_validators).2.2 _ mem _ List.mem_cons_self rfl

lemma withheld_notMem : lineup.withheld ∉ lineup.staged :=
  fun mem => (List.nodup_append.1 lineup.nodup_initial).2.2 _ mem _ List.mem_cons_self rfl

end Lineup

namespace Drill

lemma splitLast_append {α : Type} (list : List α) (last : α) :
    splitLast? (list ++ [last]) = some (list, last) := by
  rw [splitLast?, List.getLast?_concat, Option.map_some, List.dropLast_concat]

variable {config : Config} (lineup : Lineup config)

/-- What is seen of a network on which an upgrade is about to be carried out. -/
structure Prepared where
  infos : List (Option NodeInfo)
  before : Snapshot
  schedule : Schedule

/-- The drill up to the schedule of the upgrade. -/
def prepare : Attempt network DrillError Prepared := do
  fetchCharts config
  let infos ← startNetwork config lineup.images lineup.initial
  let before ← checkBefore config lineup.initial
  bridgeIn config (.docker config.imageTag)
  let schedule ← schedule config lineup.first
  return ⟨infos, before, schedule⟩

/-- The upgrade of all validators. Gives the identity of the one that joins. -/
def carryOut (schedule : Schedule) : Attempt network DrillError NodeInfo := do
  upgradeAll config schedule lineup.staged
  recover config schedule lineup.withheld lineup.first
  join config schedule lineup.joining

/-- What follows once all validators are upgraded. -/
def conclude (prepared : Prepared) (joiningInfo : NodeInfo) : Attempt network DrillError Unit := do
  let cli := SequencerCli.docker config.imageTag
  checkAfter prepared.schedule.registry prepared.before lineup.first config.validators
  nameAll cli config.validators (prepared.infos ++ [some joiningInfo])
  (checkUpgradeAfter config.upgradeName (config.validators.map (·.node))
    prepared.schedule.activationHeight).widen .upgrade
  config.validators.forM (awaitName lineup.first)
  bridgeOut config cli

/-- A drill with a line-up goes through its three parts. -/
theorem run_eq : run config = (do
    let prepared ← prepare lineup
    let info ← carryOut lineup prepared.schedule
    conclude lineup prepared info) := by
  have images : (Attempt.ofExcept config.preUpgrade : Attempt network DrillError _) =
      pure lineup.images := by
    rw [lineup.images_eq]
    rfl
  have parts : splitLast? config.validators = some (lineup.initial, lineup.joining) := by
    rw [lineup.validators_eq_initial, splitLast_append]
  have upgraded : splitLast? lineup.initial = some (lineup.staged, lineup.withheld) :=
    splitLast_append ..
  have atInitial : validatorAt lineup.initial 0 = pure lineup.first := rfl
  have atStaged : validatorAt lineup.staged 0 = pure lineup.first := rfl
  unfold run prepare carryOut conclude
  simp only [images, parts, upgraded, atInitial, atStaged, bind_assoc, pure_bind]

end Drill

end UpgradeDrill
