import UpgradeDrill.Proofs.Routine.Pool
import UpgradeDrill.Upgrade.Cohort

/-!
# What a cohort agrees on

The state of a cohort is made of what each of its nodes yielded, and a value that is agreed on was
yielded by every one of them.
-/

namespace UpgradeDrill

open Attempt

variable {I : Interface} {α : Type} [DecidableEq α] {cohort : List (Node I)}
  {ask : Node I → Attempt I QueryError α} {now finish : Nat} {es : List (Exchange I)}

/-- On the way through some exchanges, an attempt gave a value. -/
def Attempt.Gave {ε β : Type} (attempt : Attempt I ε β) (es : List (Exchange I)) (value : β) :
    Prop :=
  ∃ start own time, own ⊆ es ∧ attempt.Yields start own (.ok value) time

lemma CohortState.observations_of_ofObservations {observations : List (String × α)}
    {state : CohortState α} (eq : ofObservations? observations = some state) :
    state.observations = observations := by
  obtain ⟨_, _, rfl⟩ := Option.map_eq_some_iff.1 eq
  rfl

/-- All have one value if no observation is another than the reference. -/
lemma CohortState.agreed_eq_ok_iff {inspect : α → String} {what : String} {state : CohortState α}
    {value : α} : state.agreed inspect what = .ok value ↔
      value = state.reference ∧ ∀ observation ∈ state.observations, observation.2 = value := by
  unfold agreed
  split
  · rename_i none
    have same : ∀ observation ∈ state.observations, observation.2 = state.reference := by
      intro observation mem
      have := List.find?_eq_none.1 none observation mem
      rwa [decide_eq_true_iff, not_not] at this
    constructor
    · intro eq
      cases eq
      exact ⟨rfl, same⟩
    · rintro ⟨rfl, _⟩
      rfl
  · rename_i found
    refine ⟨nofun, ?_⟩
    rintro ⟨rfl, same⟩
    have differs := List.find?_some found
    rw [decide_eq_true_iff] at differs
    exact absurd (same _ (List.mem_of_find?_eq_some found)) differs

/-- All observations have the value that is agreed on. -/
lemma CohortState.eq_of_agreed {inspect : α → String} {what : String} {state : CohortState α}
    {value : α} (agreed : state.agreed inspect what = .ok value) :
    ∀ observation ∈ state.observations, observation.2 = value :=
  (agreed_eq_ok_iff.1 agreed).2

/-- Each node of a cohort gave a value, which is its observation. -/
lemma Cohort.gave_of_observe {state : CohortState α}
    (path : (observe cohort ask).Yields now es (.ok state) finish) :
    ∀ node ∈ cohort, ∃ value, (node.name, value) ∈ state.observations ∧
      (ask node).Gave es value := by
  obtain ⟨first, second, values, time, rfl, left, right⟩ := path.bind_ok
  obtain ⟨length, yields⟩ := joinAll_yields (yields_widen_ok.1 left)
  have observations : state.observations = (cohort.map (·.name)).zip values := by
    split at right
    · rename_i observed
      obtain ⟨_, eq, _⟩ := yields_pure_iff.1 right
      cases eq
      exact CohortState.observations_of_ofObservations observed
    · obtain ⟨_, eq, _⟩ := yields_throw_iff.1 right
      cases eq
  intro node mem
  obtain ⟨position, at'⟩ := List.getElem?_of_mem mem
  obtain ⟨value, start, own, after, listed, _, _, subset, path⟩ :=
    yields position (ask node) (by rw [List.getElem?_map, at']; rfl)
  have observed : ((cohort.map (·.name)).zip values)[position]? = some (node.name, value) := by
    rw [List.getElem?_zip_eq_some, List.getElem?_map, at']
    exact ⟨rfl, listed⟩
  refine ⟨value, ?_, start, own, after, fun e mem => List.mem_append_left _ (subset mem), path⟩
  rw [observations]
  exact List.mem_of_getElem? observed

/-- A value that a cohort agrees on was given by each of its nodes. -/
theorem Cohort.gave_of_ensureConsistent {inspect : α → String} {what : String} {value : α}
    (path : (ensureConsistent inspect what cohort ask).Yields now es (.ok value) finish) :
    ∀ node ∈ cohort, (ask node).Gave es value := by
  obtain ⟨first, second, state, time, rfl, left, right⟩ := path.bind_ok
  obtain ⟨rfl, agreed, _⟩ := yields_ofExcept_iff.1 right
  intro node mem
  obtain ⟨own, observed, gave⟩ := gave_of_observe left node mem
  obtain rfl : own = value := CohortState.eq_of_agreed agreed.symm _ observed
  rw [List.append_nil]
  exact gave

end UpgradeDrill
