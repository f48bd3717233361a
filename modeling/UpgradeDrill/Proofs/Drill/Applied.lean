import Mathlib.Data.List.Dedup
import Mathlib.Data.List.Perm.Subperm
import UpgradeDrill.Proofs.Drill.Agreement

/-!
# Which changes were applied

A drill checks that the changes which nodes report are among those of its upgrade. It does not check
that all of them are reported, so this holds exactly if as many different changes were applied as
the upgrade has (`applied_changes`), and a drill may end well without it.
-/

namespace UpgradeDrill

open Attempt

/-- Items among others are all of them exactly if there are as many different ones. -/
lemma subset_iff_length_dedup {α : Type} [DecidableEq α] {some all : List α}
    (nodup : all.Nodup) (subset : some ⊆ all) :
    all ⊆ some ↔ some.dedup.length = all.length := by
  have among : some.dedup.Subperm all :=
    List.subperm_of_subset (List.nodup_dedup some) fun item mem => subset (List.mem_dedup.1 mem)
  constructor
  · intro covered
    have back : all.Subperm some.dedup :=
      List.subperm_of_subset nodup fun item mem => List.mem_dedup.2 (covered mem)
    exact Nat.le_antisymm (List.Subperm.length_le among) (List.Subperm.length_le back)
  · intro same item mem
    have perm := List.Subperm.perm_of_length_le among (Nat.le_of_eq same.symm)
    exact List.mem_dedup.1 (perm.mem_iff.2 mem)

namespace Drill

/-- After a drill that ends well nothing is left scheduled, and some changes were applied, all of
which belong to the upgrade. They are all changes of the upgrade exactly if there are as many
different ones. -/
theorem applied_changes {config : Config} {σ : Type} (valid : config.validate = .ok ())
    (world : World network σ) (now : Nat) (state : σ)
    (ok : ((run config).run.run world now state).value = .ok ()) :
    ∃ (changes : List String) (info : UpgradesInfo) (during after rest : List (Exchange network)),
      config.changes = .ok changes ∧
      (run config).run.exchanges world now state = during ++ after ++ rest ∧
      (∀ validator ∈ config.validators,
        ∃ e ∈ after, validator.participant.ReportsUpgrades info e) ∧
      info.scheduled = [] ∧ info.applied ≠ [] ∧ info.applied.map (·.name) ⊆ changes ∧
      (changes ⊆ info.applied.map (·.name) ↔
        (info.applied.map (·.name)).dedup.length = changes.length) := by
  obtain ⟨lineup⟩ := exists_lineup valid
  have path := yields_run world (run config) now state
  rw [ok] at path
  obtain ⟨nodup, height, _, version, _, info, before, during, after, rest, _, eq, passed⟩ :=
    passed_of_yields lineup path
  have known : info.applied.map (·.name) ⊆ lineup.changes := by
    intro name mem
    obtain ⟨change, listed, rfl⟩ := List.mem_map.1 mem
    exact (passed.outcome.known change listed).1
  have some : info.applied ≠ [] := by
    obtain ⟨last, is, _⟩ := passed.outcome.last
    exact List.ne_nil_of_mem (List.mem_of_getLast? is)
  exact ⟨lineup.changes, info, before ++ during, after, rest, lineup.changes_eq, eq,
    passed.outcome.infos, passed.outcome.unscheduled, some, known,
    subset_iff_length_dedup nodup known⟩

theorem applied_changes_sample : Sample.config.validate = .ok () ∧
    ((run Sample.config).run.run Sample.world 0 .old).value = .ok () ∧
    ∃ (changes : List String) (info : UpgradesInfo) (during after rest : List (Exchange network)),
      Sample.config.changes = .ok changes ∧
      (run Sample.config).run.exchanges Sample.world 0 .old = during ++ after ++ rest ∧
      (∀ validator ∈ Sample.config.validators,
        ∃ e ∈ after, validator.participant.ReportsUpgrades info e) ∧
      info.scheduled = [] ∧ info.applied ≠ [] ∧ info.applied.map (·.name) ⊆ changes ∧
      (changes ⊆ info.applied.map (·.name) ↔
        (info.applied.map (·.name)).dedup.length = changes.length) :=
  ⟨Sample.valid, Sample.passes, applied_changes Sample.valid Sample.world 0 .old Sample.passes⟩

end Drill

/-- In the sample, a node never reports another list of changes. -/
lemma Sample.reportsUpgrades {participant : Participant} {info : UpgradesInfo}
    {e : Exchange network}
    (mem : e ∈ (Drill.run config).run.exchanges world 0 .old)
    (reports : participant.ReportsUpgrades info e) : info = ⟨[applied], []⟩ := by
  obtain ⟨result, ⟨time, reply, took, rfl, brings⟩, read⟩ := reports
  -- Whatever the phase, the world has the same answer to this call.
  obtain ⟨phase, answer⟩ := Routine.answered_of_mem_exchanges mem
  have replied : reply = .message (Wire.encode (UpgradesInfo.mk [applied] [])) := answer
  have decoded : GrpcCall.ofReply (.message (Wire.encode (UpgradesInfo.mk [applied] []))) =
      .ok (UpgradesInfo.mk [applied] []) := by
    with_unfolding_all rfl
  rw [replied, decoded] at brings
  cases brings
  cases read
  rfl

/-- A drill may end well although all validators report that a change was not applied. -/
theorem Drill.passes_without_change : Sample.config.validate = .ok () ∧
    ((run Sample.config).run.run Sample.world 0 .old).value = .ok () ∧
    ∃ changes info, Sample.config.changes = .ok changes ∧
      (∃ change ∈ changes, change ∉ info.applied.map (·.name) ∧
        change ∉ info.scheduled.map (·.name)) ∧
      ∀ validator ∈ Sample.config.validators,
        (∃ e ∈ (run Sample.config).run.exchanges Sample.world 0 .old,
          validator.participant.ReportsUpgrades info e) ∧
        ∀ e ∈ (run Sample.config).run.exchanges Sample.world 0 .old, ∀ other,
          validator.participant.ReportsUpgrades other e → other = info := by
  refine ⟨Sample.valid, Sample.passes, Aspen.changes, ⟨[Sample.applied], []⟩, rfl,
    ⟨"validator_update_action_change", ?_, ?_, ?_⟩, fun validator mem => ⟨?_, ?_⟩⟩
  · exact List.mem_cons_of_mem _ List.mem_cons_self
  · decide
  · exact nofun
  · obtain ⟨lineup⟩ := exists_lineup Sample.valid
    have path := yields_run Sample.world (run Sample.config) 0 .old
    rw [Sample.passes] at path
    obtain ⟨_, _, _, _, _, info, before, during, after, rest, _, eq, passed⟩ :=
      passed_of_yields lineup path
    obtain ⟨e, listed, reports⟩ := passed.outcome.infos validator mem
    have listed : e ∈ (run Sample.config).run.exchanges Sample.world 0 .old := by
      rw [eq]
      exact List.mem_append_left _ (List.mem_append_right _ listed)
    obtain rfl := Sample.reportsUpgrades listed reports
    exact ⟨e, listed, reports⟩
  · exact fun e listed other reports => Sample.reportsUpgrades listed reports

end UpgradeDrill
