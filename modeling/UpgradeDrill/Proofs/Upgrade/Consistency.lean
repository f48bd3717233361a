import UpgradeDrill.Proofs.Routine.Join
import UpgradeDrill.Proofs.Upgrade.Cohort
import UpgradeDrill.Proofs.Upgrade.Demands

/-!
# The agreement of a cohort

All nodes of a cohort are asked at once. What they reply and how long they take decide what is
observed and when (`Observes`): the order in which the replies come does not show in the
observations, and of several failures the one that comes first counts. The mismatches are told by
name and the node that disagrees by its place, but there are mismatches exactly if there is such a
node, also if names repeat (`cohort_agreement`).
-/

namespace UpgradeDrill

open Attempt

namespace CohortState

variable {α : Type} {name other : String} {names : List String}

lemma mem_insertName : other ∈ insertName name names ↔ other = name ∨ other ∈ names := by
  induction names with
  | nil => exact List.mem_cons
  | cons first rest ih =>
    rw [insertName]
    split
    · exact List.mem_cons
    · split
      · rename_i same
        subst same
        rw [List.mem_cons, or_self_left]
      · rw [List.mem_cons, ih, List.mem_cons, or_left_comm]

/-- Names stay in ascending order, and none is added twice. -/
lemma insertName_ascending (ascending : names.Pairwise (· < ·)) :
    (insertName name names).Pairwise (· < ·) := by
  induction names with
  | nil => exact List.pairwise_singleton ..
  | cons first rest ih =>
    obtain ⟨least, ascending⟩ := List.pairwise_cons.1 ascending
    rw [insertName]
    split
    · rename_i before
      refine List.pairwise_cons.2 ⟨fun later mem => ?_, List.pairwise_cons.2 ⟨least, ascending⟩⟩
      rcases List.mem_cons.1 mem with rfl | mem
      · exact before
      · exact String.lt_trans before (least later mem)
    · rename_i notBefore
      split
      · exact List.pairwise_cons.2 ⟨least, ascending⟩
      · rename_i ne
        refine List.pairwise_cons.2 ⟨fun later mem => ?_, ih ascending⟩
        rcases mem_insertName.1 mem with rfl | mem
        · exact Std.lt_of_le_of_ne (String.not_lt.1 notBefore) (Ne.symm ne)
        · exact least later mem

lemma mem_foldr_insertName : name ∈ names.foldr insertName [] ↔ name ∈ names := by
  induction names with
  | nil => rfl
  | cons first rest ih => rw [List.foldr_cons, mem_insertName, ih, List.mem_cons]

lemma foldr_insertName_ascending (names : List String) :
    (names.foldr insertName []).Pairwise (· < ·) := by
  induction names with
  | nil => exact .nil
  | cons first rest ih => exact insertName_ascending ih

variable [DecidableEq α] {inspect : α → String} {what : String} {state : CohortState α}

/-- The first observation that is another than the reference is reported. -/
lemma agreed_eq_error_iff {error : UpgradeError} : state.agreed inspect what = .error error ↔
    ∃ before node actual after, state.observations = before ++ (node, actual) :: after ∧
      (∀ observation ∈ before, observation.2 = state.reference) ∧ actual ≠ state.reference ∧
      error = .inconsistent what state.referenceNode node (inspect state.reference)
        (inspect actual) := by
  unfold agreed
  split
  · rename_i none
    refine ⟨nofun, ?_⟩
    rintro ⟨before, node, actual, after, eq, _, differs, _⟩
    have mem : (node, actual) ∈ state.observations :=
      eq ▸ List.mem_append_right _ List.mem_cons_self
    exact absurd (decide_eq_true differs) (List.find?_eq_none.1 none _ mem)
  · rename_i node actual found
    constructor
    · intro eq
      cases eq
      obtain ⟨differs, before, after, eq, same⟩ := List.find?_eq_some_iff_append.1 found
      refine ⟨before, node, actual, after, eq, fun observation mem => ?_,
        of_decide_eq_true differs, rfl⟩
      have := same observation mem
      rwa [Bool.not_eq_true', decide_eq_false_iff_not, not_not] at this
    · rintro ⟨before, node', actual', after, eq, same, differs, rfl⟩
      have first : state.observations.find? (·.2 ≠ state.reference) = some (node', actual') := by
        refine List.find?_eq_some_iff_append.2
          ⟨decide_eq_true differs, before, after, eq, fun observation mem => ?_⟩
        rw [Bool.not_eq_true', decide_eq_false_iff_not, not_not]
        exact same observation mem
      cases first.symm.trans found
      rfl

end CohortState

namespace Cohort

variable {I : Interface} {α σ : Type} {joining : Joining} {cohort : List (Node I)}
  {reply : Node I → Except QueryError α} {latency : Node I → Nat}

/-- The longest time that one of some nodes takes. -/
def Longest (cohort : List (Node I)) (latency : Node I → Nat) (span : Nat) : Prop :=
  (∀ node ∈ cohort, latency node ≤ span) ∧ ∃ node ∈ cohort, latency node = span

/-- What observing a cohort comes to and how long it takes, if the nodes reply so after such
times. -/
inductive Observes (joining : Joining) (cohort : List (Node I))
    (reply : Node I → Except QueryError α) (latency : Node I → Nat) :
    Except UpgradeError (CohortState α) → (span : Nat) → Prop where
  | empty :
    cohort = [] →
    Observes joining cohort reply latency (.error .emptyCohort) 0
  | all {first rest span} {value : Node I → α} {state : CohortState α} :
    cohort = first :: rest →
    (∀ node ∈ cohort, reply node = .ok (value node)) →
    Longest cohort latency span →
    state.reference = value first →
    state.referenceNode = first.name →
    state.observations = cohort.map (fun node => (node.name, value node)) →
    state.mismatches.Pairwise (· < ·) →
    (∀ name, name ∈ state.mismatches ↔
      ∃ node ∈ cohort, node.name = name ∧ value node ≠ value first) →
    Observes joining cohort reply latency (.ok state) span
  /-- The failure that comes first counts, that of the first of several nodes at the same time. -/
  | earliest {before node after error} :
    joining = .eager →
    cohort = before ++ node :: after →
    reply node = .error error →
    (∀ other ∈ before, ∀ error', reply other = .error error' → latency node < latency other) →
    (∀ other ∈ after, ∀ error', reply other = .error error' → latency node ≤ latency other) →
    Observes joining cohort reply latency (.error (.query error)) (latency node)
  /-- The failure of the first node that fails counts, once all nodes before it have replied. -/
  | foremost {before node after error span} :
    joining = .patient →
    cohort = before ++ node :: after →
    reply node = .error error →
    (∀ other ∈ before, ∃ value, reply other = .ok value) →
    Longest (before ++ [node]) latency span →
    Observes joining cohort reply latency (.error (.query error)) span

section Join

variable {now finish : Nat} {outcome : Except QueryError (List α)}

/-- The runs of the queries of a cohort. -/
def runs (cohort : List (Node I)) (reply : Node I → Except QueryError α) (latency : Node I → Nat)
    (now : Nat) : Runs QueryError α :=
  cohort.map fun node => (reply node, now + latency node)

lemma longest_of_last (last : (runs cohort reply latency now).Last now finish)
    (some : cohort ≠ []) : ∃ span, finish = now + span ∧ Longest cohort latency span := by
  obtain ⟨bound, ⟨none, _⟩ | ⟨run, mem, rfl⟩⟩ := last
  · exact absurd (List.map_eq_nil_iff.1 none) some
  · obtain ⟨node, inCohort, rfl⟩ := List.mem_map.1 mem
    refine ⟨latency node, rfl, fun other mem => ?_, node, inCohort, rfl⟩
    exact Nat.le_of_add_le_add_left (bound _ (List.mem_map_of_mem mem))

/-- A run of a query is that of a node. -/
lemma node_of_run {position : Nat} {run : Except QueryError α × Nat}
    (listed : (runs cohort reply latency now)[position]? = some run) :
    ∃ node after, cohort = cohort.take position ++ node :: after ∧
      cohort.take (position + 1) = cohort.take position ++ [node] ∧
      run = (reply node, now + latency node) := by
  rw [runs, List.getElem?_map] at listed
  obtain ⟨node, eq, rfl⟩ := Option.map_eq_some_iff.1 listed
  obtain ⟨lt, rfl⟩ := List.getElem?_eq_some_iff.1 eq
  refine ⟨_, cohort.drop (position + 1), ?_, ?_, rfl⟩
  · rw [← List.drop_eq_getElem_cons lt, List.take_append_drop]
  · rw [List.take_add_one, eq, Option.toList_some]

lemma run_of_mem_take (reply : Node I → Except QueryError α) (latency : Node I → Nat) (now : Nat)
    {position : Nat} {node : Node I} (mem : node ∈ cohort.take position) :
    ∃ other < position, (runs cohort reply latency now)[other]? =
      some (reply node, now + latency node) := by
  obtain ⟨other, listed⟩ := List.getElem?_of_mem mem
  rw [List.getElem?_take] at listed
  split at listed
  · rename_i lt
    refine ⟨other, lt, ?_⟩
    rw [runs, List.getElem?_map, listed]
    rfl
  · cases listed

lemma observes_of_failed {error : QueryError}
    (joined : Joined joining now (runs cohort reply latency now) (.error error) finish) :
    ∃ span, finish = now + span ∧
      Observes joining cohort reply latency (.error (.query error)) span := by
  cases joined with
  | @earliest position _ _ eager listed others =>
    obtain ⟨node, after, eq, _, run⟩ := node_of_run listed
    obtain ⟨failed, rfl⟩ := Prod.mk.inj run
    refine ⟨_, rfl, .earliest eager eq failed.symm (fun other mem error' failed' => ?_)
      fun other mem error' failed' => ?_⟩
    · obtain ⟨place, before, listed'⟩ := run_of_mem_take reply latency now mem
      rw [failed'] at listed'
      rcases others place error' _ listed' with earlier | ⟨_, le⟩
      · exact Nat.lt_of_add_lt_add_left earlier
      · exact absurd before (Nat.not_lt.2 le)
    · have mem : (reply other, now + latency other) ∈ runs cohort reply latency now :=
        List.mem_map_of_mem (eq ▸ List.mem_append_right _ (.tail _ mem))
      obtain ⟨place, listed'⟩ := List.getElem?_of_mem mem
      rw [failed'] at listed'
      rcases others place error' _ listed' with earlier | ⟨same, _⟩
      · exact Nat.le_of_lt (Nat.lt_of_add_lt_add_left earlier)
      · exact Nat.le_of_add_le_add_left (Nat.le_of_eq same)
  | @foremost position _ _ _ patient listed well last =>
    obtain ⟨node, after, eq, taken, run⟩ := node_of_run listed
    obtain ⟨failed, rfl⟩ := Prod.mk.inj run
    rw [runs, ← List.map_take, taken] at last
    obtain ⟨span, rfl, longest⟩ := longest_of_last last (List.concat_ne_nil _ _)
    refine ⟨span, rfl, .foremost patient eq failed.symm (fun other mem => ?_) longest⟩
    obtain ⟨place, before, listed'⟩ := run_of_mem_take reply latency now mem
    obtain ⟨value, _, same⟩ := well place before
    exact ⟨value, (Prod.mk.inj (Option.some.inj (listed'.symm.trans same))).1⟩

/-- If all queries succeed, the values are those that the nodes reply with, in their order. -/
lemma values_of_joined {first : Node I} {rest : List (Node I)} {values : List α}
    (joined : Joined joining now (runs (first :: rest) reply latency now) (.ok values) finish) :
    ∃ value : Node I → α, values = (first :: rest).map value ∧
      (∀ node ∈ first :: rest, reply node = .ok (value node)) ∧
      ∃ span, finish = now + span ∧ Longest (first :: rest) latency span := by
  cases joined with
  | all eq last =>
    rw [runs, List.map_map] at eq
    have replied : ∀ node ∈ first :: rest, ∃ value, reply node = .ok value := by
      intro node mem
      have mem' : reply node ∈ values.map Except.ok := eq ▸ List.mem_map_of_mem mem
      obtain ⟨value, _, eq⟩ := List.mem_map.1 mem'
      exact ⟨value, eq.symm⟩
    obtain ⟨least, _⟩ := replied first List.mem_cons_self
    let value (node : Node I) : α := (reply node).toOption.getD least
    have same : ∀ node ∈ first :: rest, reply node = .ok (value node) := by
      intro node mem
      obtain ⟨own, eq⟩ := replied node mem
      show reply node = .ok ((reply node).toOption.getD least)
      rw [eq]
      rfl
    have values_eq : values.map Except.ok =
        ((first :: rest).map value).map (Except.ok (ε := QueryError)) := by
      rw [← eq, List.map_map]
      exact List.map_congr_left same
    exact ⟨value, (List.map_inj_right fun _ _ => Except.ok.inj).1 values_eq, same,
      longest_of_last last (List.cons_ne_nil _ _)⟩

end Join

variable [DecidableEq α]

/-- Asks every node of a cohort at once, by one of the ways of joining. -/
def observeBy (joining : Joining) (cohort : List (Node I)) (ask : Node I → Attempt I QueryError α) :
    Attempt I UpgradeError (CohortState α) := do
  let values ← (joining.join (cohort.map ask)).widen .query
  match CohortState.ofObservations? ((cohort.map (·.name)).zip values) with
  | some state => return state
  | none => throw .emptyCohort

def ensureConsistentBy (joining : Joining) (inspect : α → String) (what : String)
    (cohort : List (Node I)) (ask : Node I → Attempt I QueryError α) :
    Attempt I UpgradeError α := do
  let state ← observeBy joining cohort ask
  Attempt.ofExcept (state.agreed inspect what)

lemma observe_eq (cohort : List (Node I)) (ask : Node I → Attempt I QueryError α) :
    observe cohort ask = observeBy (.ofCount cohort.length) cohort ask := by
  unfold observe
  rw [Joining.joinAll_eq, List.length_map]
  rfl

lemma ensureConsistent_eq (inspect : α → String) (what : String) (cohort : List (Node I))
    (ask : Node I → Attempt I QueryError α) :
    ensureConsistent inspect what cohort ask =
      ensureConsistentBy (.ofCount cohort.length) inspect what cohort ask := by
  unfold ensureConsistent ensureConsistentBy
  rw [observe_eq]

section Run

variable {world : World I σ} {ask : Node I → Attempt I QueryError α} {now : Nat} {state : σ}

/-- The state of a cohort whose nodes all reply with a value. -/
lemma observes_of_values {first : Node I} {rest : List (Node I)} {value : Node I → α} {span : Nat}
    (replied : ∀ node ∈ first :: rest, reply node = .ok (value node))
    (longest : Longest (first :: rest) latency span) :
    ∃ observed, CohortState.ofObservations? (((first :: rest).map (·.name)).zip
        ((first :: rest).map value)) = some observed ∧
      Observes joining (first :: rest) reply latency (.ok observed) span := by
  refine ⟨_, rfl, .all rfl replied longest rfl rfl List.zip_map'
    (CohortState.foldr_insertName_ascending _) fun name => ?_⟩
  rw [CohortState.mem_foldr_insertName, List.zip_map', List.filter_map, List.map_map]
  constructor
  · intro mem
    obtain ⟨node, among, rfl⟩ := List.mem_map.1 mem
    obtain ⟨mem, differs⟩ := List.mem_filter.1 among
    exact ⟨node, mem, rfl, of_decide_eq_true differs⟩
  · rintro ⟨node, mem, rfl, differs⟩
    exact List.mem_map.2 ⟨node, List.mem_filter.2 ⟨mem, decide_eq_true differs⟩, rfl⟩

/-- A cohort is observed as the replies of its nodes and their times tell. -/
lemma observes_of_comes (joining : Joining) (state : σ)
    (comes : ∀ node ∈ cohort, (ask node).Comes world now (reply node) (now + latency node)) :
    let ending := (observeBy joining cohort ask).run.run world now state
    ∃ span, ending.time = now + span ∧
      Observes joining cohort reply latency ending.value span := by
  intro ending
  have joined : let ending := (joining.join (cohort.map ask)).run.run world now state
      Joined joining now (runs cohort reply latency now) ending.value ending.time := by
    refine joined_of_join (by rw [runs, List.length_map, List.length_map]) ?_ state
    intro position attempt outcome time eq listed
    rw [List.getElem?_map] at eq
    obtain ⟨node, eq', rfl⟩ := Option.map_eq_some_iff.1 eq
    rw [runs, List.getElem?_map, eq'] at listed
    cases listed
    exact comes node (List.mem_of_getElem? eq')
  generalize ended : (joining.join (cohort.map ask)).run.run world now state = join at joined
  obtain ⟨outcome, finish, last⟩ := join
  have ends : (joining.join (cohort.map ask)).Ends world now state outcome finish last := ended
  have widened := ends.widen UpgradeError.query
  cases outcome with
  | error error =>
    have failed : (observeBy joining cohort ask).Ends world now state (.error (.query error))
      finish last := widened.bind_error _
    rw [show ending = _ from failed]
    exact observes_of_failed joined
  | ok values =>
    cases cohort with
    | nil =>
      have failed : (observeBy joining [] ask).Ends world now state (.error .emptyCohort) finish
        last := Ends.bind widened (ends_throw _)
      rw [show ending = _ from failed]
      cases joined with
      | all _ last =>
        rcases last.2 with ⟨_, same⟩ | ⟨_, mem, _⟩
        · exact ⟨0, same, .empty rfl⟩
        · cases mem
    | cons first rest =>
      obtain ⟨value, rfl, replied, span, rfl, longest⟩ := values_of_joined joined
      obtain ⟨observed, eq, observes⟩ := observes_of_values replied longest
      have given : (observeBy joining (first :: rest) ask).Ends world now state (.ok observed)
          (now + span) last := by
        refine Ends.bind widened ?_
        rw [eq]
        exact ends_pure _
      rw [show ending = _ from given]
      exact ⟨span, rfl, observes⟩

/-- The check of a cohort ends when the cohort has been observed. -/
lemma run_ensureConsistentBy (inspect : α → String) (what : String) :
    let observed := (observeBy joining cohort ask).run.run world now state
    (ensureConsistentBy joining inspect what cohort ask).run.run world now state =
      ⟨observed.value.bind (CohortState.agreed inspect what), observed.time, observed.state⟩ := by
  intro observed
  obtain ⟨outcome, eq⟩ : ∃ outcome, observed.value = outcome := ⟨_, rfl⟩
  have ends : (observeBy joining cohort ask).Ends world now state outcome observed.time
    observed.state := by rw [← eq]; rfl
  rw [eq]
  cases outcome with
  | error error => exact ends.bind_error _
  | ok observed => exact ends.bind (ends_ofExcept _)

end Run

section Agreed

variable {inspect : α → String} {what : String} {outcome : Except UpgradeError (CohortState α)}
  {state : CohortState α} {span : Nat}

/-- There are mismatches exactly if a node disagrees. -/
lemma Observes.isConsistent_iff
    (observes : Observes joining cohort reply latency (.ok state) span) :
    state.isConsistent = true ↔ ∃ value, state.agreed inspect what = .ok value := by
  cases observes with
  | @all first _ _ value _ _ _ _ reference _ observations _ mismatches =>
    have none : state.isConsistent = true ↔ ∀ node ∈ cohort, value node = value first := by
      unfold CohortState.isConsistent
      rw [List.isEmpty_iff, List.eq_nil_iff_forall_not_mem]
      constructor
      · intro none node mem
        by_contra differs
        exact none node.name ((mismatches _).2 ⟨node, mem, rfl, differs⟩)
      · intro same name mem
        obtain ⟨node, mem, _, differs⟩ := (mismatches name).1 mem
        exact differs (same node mem)
    rw [none]
    simp only [CohortState.agreed_eq_ok_iff, exists_eq_left]
    rw [observations, reference, List.forall_mem_map]

lemma Observes.agreed_iff (observes : Observes joining cohort reply latency outcome span)
    {agreed : α} : outcome.bind (CohortState.agreed inspect what) = .ok agreed ↔
      cohort ≠ [] ∧ ∀ node ∈ cohort, reply node = .ok agreed := by
  have failed {node : Node I} {error : QueryError} (mem : node ∈ cohort)
      (failed : reply node = .error error) : ¬ ∀ node ∈ cohort, reply node = .ok agreed :=
    fun all => nomatch failed.symm.trans (all node mem)
  cases observes with
  | empty none => exact ⟨nofun, fun some => absurd none some.1⟩
  | earliest _ eq error =>
    have mem := eq ▸ List.mem_append_right _ List.mem_cons_self
    exact ⟨nofun, fun all => absurd all.2 (failed mem error)⟩
  | foremost _ eq error =>
    have mem := eq ▸ List.mem_append_right _ List.mem_cons_self
    exact ⟨nofun, fun all => absurd all.2 (failed mem error)⟩
  | @all first rest _ value state eq replied _ reference _ observations =>
    rw [Except.bind, CohortState.agreed_eq_ok_iff, observations, reference, List.forall_mem_map]
    have given (node : Node I) (mem : node ∈ cohort) :
        reply node = .ok agreed ↔ value node = agreed := by
      rw [replied node mem, Except.ok.injEq]
    constructor
    · rintro ⟨_, same⟩
      exact ⟨eq ▸ List.cons_ne_nil _ _, fun node mem => (given node mem).2 (same node mem)⟩
    · rintro ⟨_, all⟩
      have same (node : Node I) (mem : node ∈ cohort) := (given node mem).1 (all node mem)
      exact ⟨(same first (eq ▸ List.mem_cons_self)).symm, same⟩

/-- The first node is reported whose value is another than that of the first of all. -/
lemma Observes.differs_iff (observes : Observes joining cohort reply latency (.ok state) span)
    {error : UpgradeError} : state.agreed inspect what = .error error ↔
      ∃ before node actual after, cohort = before ++ node :: after ∧
        (∀ other ∈ before, reply other = .ok state.reference) ∧ reply node = .ok actual ∧
        actual ≠ state.reference ∧ error = .inconsistent what state.referenceNode node.name
          (inspect state.reference) (inspect actual) := by
  cases observes with
  | @all first _ _ value _ _ replied _ _ _ observations =>
    rw [CohortState.agreed_eq_error_iff, observations]
    constructor
    · rintro ⟨_, name, actual, _, parted, same, differs, rfl⟩
      obtain ⟨before, tail, rfl, rfl, later⟩ := List.map_eq_append_iff.1 parted
      obtain ⟨node, after, rfl, observed, _⟩ := List.map_eq_cons_iff.1 later
      cases observed
      refine ⟨before, node, _, after, rfl, fun other mem => ?_,
        replied _ (List.mem_append_right _ List.mem_cons_self), differs, rfl⟩
      rw [replied other (List.mem_append_left _ mem)]
      exact congrArg _ (same _ (List.mem_map_of_mem mem))
    · rintro ⟨before, node, actual, after, rfl, same, given, differs, rfl⟩
      cases (replied node (List.mem_append_right _ List.mem_cons_self)).symm.trans given
      refine ⟨_, node.name, value node, _, List.map_append, ?_, differs, rfl⟩
      refine List.forall_mem_map.2 fun other mem => ?_
      exact Except.ok.inj ((replied other (List.mem_append_left _ mem)).symm.trans (same other mem))

end Agreed

/-- What is observed of a cohort and what its check comes to, as the nodes reply after such
times. -/
structure Agreement (joining : Joining) (inspect : α → String) (what : String)
    (cohort : List (Node I)) (reply : Node I → Except QueryError α) (latency : Node I → Nat)
    (now : Nat) (observed : Ending (Except UpgradeError (CohortState α)) σ)
    (ensured : Ending (Except UpgradeError α) σ) : Prop where
  observes : ∃ span, observed.time = now + span ∧
    Observes joining cohort reply latency observed.value span
  time : ensured.time = observed.time
  failed : ∀ error, observed.value = .error error → ensured.value = .error error
  /-- The mismatches are told by name, the check goes by place. -/
  consistent_iff : ∀ state, observed.value = .ok state →
    (state.isConsistent = true ↔ ∃ value, state.agreed inspect what = .ok value)
  agrees_iff : ∀ value, ensured.value = .ok value ↔
    cohort ≠ [] ∧ ∀ node ∈ cohort, reply node = .ok value
  /-- The first node is reported that replied with another value than the first of all. -/
  differs_iff : ∀ state, observed.value = .ok state → ∀ error,
    ensured.value = .error error ↔ ∃ before node actual after, cohort = before ++ node :: after ∧
      (∀ other ∈ before, reply other = .ok state.reference) ∧ reply node = .ok actual ∧
      actual ≠ state.reference ∧ error = .inconsistent what state.referenceNode node.name
        (inspect state.reference) (inspect actual)

/-- What the nodes reply and how long they take decides what is observed of a cohort, when, and
what its check comes to. Up to thirty nodes are joined so that the first failure in time counts. -/
theorem cohort_agreement (joining : Joining) (world : World I σ) (inspect : α → String)
    (what : String) (cohort : List (Node I)) (ask : Node I → Attempt I QueryError α)
    (reply : Node I → Except QueryError α) (latency : Node I → Nat) (now : Nat) (state : σ)
    (comes : ∀ node ∈ cohort, (ask node).Comes world now (reply node) (now + latency node)) :
    Agreement joining inspect what cohort reply latency now
      ((observeBy joining cohort ask).run.run world now state)
      ((ensureConsistentBy joining inspect what cohort ask).run.run world now state) ∧
    observe cohort ask = observeBy (.ofCount cohort.length) cohort ask ∧
    ensureConsistent inspect what cohort ask =
      ensureConsistentBy (.ofCount cohort.length) inspect what cohort ask ∧
    ∀ count, Joining.ofCount count = .eager ↔ count ≤ 30 := by
  obtain ⟨span, time, observes⟩ := observes_of_comes joining state comes
  refine ⟨?_, observe_eq cohort ask, ensureConsistent_eq inspect what cohort ask, fun count => ?_⟩
  · rw [run_ensureConsistentBy]
    exact {
      observes := ⟨span, time, observes⟩
      time := rfl
      failed := fun error failed => by
        dsimp only
        rw [failed]
        rfl
      consistent_iff := fun observed eq => (eq ▸ observes).isConsistent_iff
      agrees_iff := fun value => observes.agreed_iff
      differs_iff := fun observed eq error => by
        dsimp only
        rw [eq]
        exact (eq ▸ observes).differs_iff }
  · unfold Joining.ofCount
    split
    · rename_i few
      exact ⟨fun _ => few, fun _ => rfl⟩
    · rename_i many
      exact ⟨nofun, fun few => absurd few many⟩

namespace Sample

/-- The upgraded node has another version than the reference and takes longer to tell it. -/
def ahead : World demands Unit where
  answer _ _
    | .query .upgraded .currentAppVersion => (.ok 3, Duration.ofSecs 3, ())
    | .query .reference .currentAppVersion => (.ok 2, Duration.ofSecs 1, ())
    | .query .. => (.error (.status 503), 0, ())
    | .order _ => (.ok (), 0, ())

/-- Two of the nodes have one name. -/
def nodes : List (Node demands) :=
  [Role.reference.demanding "node1", Role.upgraded.demanding "node1",
    Role.upgraded.demanding "node0"]

end Sample

/-- Both nodes that are ahead are mismatches, of which the check reports the one of the same name as
the reference. -/
theorem cohort_agreement_sample :
    let alone (node : Node demands) := node.currentAppVersion.run.run Sample.ahead 0 ()
    let reply (node : Node demands) := (alone node).value
    let latency (node : Node demands) := (alone node).time
    let observed := (observeBy .eager Sample.nodes (·.currentAppVersion)).run.run Sample.ahead 0 ()
    let ensured := (ensureConsistentBy .eager toString "app version" Sample.nodes
      (·.currentAppVersion)).run.run Sample.ahead 0 ()
    (∀ node ∈ Sample.nodes,
      node.currentAppVersion.Comes Sample.ahead 0 (reply node) (0 + latency node)) ∧
    Agreement .eager toString "app version" Sample.nodes reply latency 0 observed ensured ∧
    observed.time = Duration.ofSecs 3 ∧
    observed.value.toOption.map (·.mismatches) = some ["node0", "node1"] ∧
    ensured.value.mapError UpgradeError.message =
      .error "node1 and node1 report different values for app version: 2 != 3" := by
  intro alone reply latency
  have comes (node : Node demands) (_ : node ∈ Sample.nodes) :
      node.currentAppVersion.Comes Sample.ahead 0 (reply node) (0 + latency node) := by
    rw [Nat.zero_add]
    exact Routine.comes_of_stateless Sample.ahead node.currentAppVersion.run 0
  have agreement := cohort_agreement .eager Sample.ahead toString "app version" Sample.nodes
    (·.currentAppVersion) reply latency 0 () comes
  exact ⟨comes, agreement.1, by decide +kernel, by decide +kernel, by decide +kernel⟩

end Cohort

end UpgradeDrill
