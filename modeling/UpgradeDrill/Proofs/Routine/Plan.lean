import Mathlib.Data.List.Sort
import UpgradeDrill.Proofs.Routine.Join

/-!
# Plans of pools

A plan tells when each of some tasks is under way. It is greedy if the tasks begin in their order,
no more of them are under way at once than there is room for, and one waits only while there is no
room. Tasks that take some time have one greedy plan (`Plan.Greedy.eq_of`), which `Plan.of`
computes: each task takes the slot that is free first (`Plan.greedy_of`).
-/

namespace UpgradeDrill

/-- What a task comes to, and how long it takes. -/
structure Task (ε α : Type) where
  outcome : Except ε α
  span : Nat

/-- When a task is under way, and what it comes to. -/
structure Stint (ε α : Type) where
  outcome : Except ε α
  start : Nat
  finish : Nat

variable {ε α : Type}

/-- The stint of a task that begins at a time. -/
def Task.stint (task : Task ε α) (start : Nat) : Stint ε α :=
  ⟨task.outcome, start, start + task.span⟩

def Stint.underWay (time : Nat) (stint : Stint ε α) : Bool :=
  stint.start ≤ time && time < stint.finish

/-- The stints of tasks, in the order of the tasks. -/
abbrev Plan (ε α : Type) : Type := List (Stint ε α)

/-- What is left of the positions in a list from one of them on. -/
lemma drop_range_eq_cons {count position next : Nat} {rest : List Nat}
    (eq : (List.range count).drop position = next :: rest) :
    next = position ∧ rest = (List.range count).drop (position + 1) := by
  have lt : position < (List.range count).length := by
    by_contra beyond
    rw [List.drop_of_length_le (Nat.not_lt.1 beyond)] at eq
    cases eq
  rw [List.drop_eq_getElem_cons lt, List.getElem_range] at eq
  cases eq
  exact ⟨rfl, rfl⟩

/-- The least of some times is the first one in their order. -/
lemma eq_cons_of_perm {free others : List Nat} {least : Nat} (sorted : free.Pairwise (· ≤ ·))
    (perm : free.Perm (least :: others)) (le : ∀ time ∈ others, least ≤ time) :
    ∃ rest, free = least :: rest ∧ rest.Perm others := by
  cases free with
  | nil => cases perm.nil_eq
  | cons first rest =>
    have first_le : first ≤ least := by
      rcases List.mem_cons.1 (perm.mem_iff.2 List.mem_cons_self) with rfl | mem
      · exact Nat.le_refl _
      · exact (List.pairwise_cons.1 sorted).1 least mem
    have le_first : least ≤ first := by
      rcases List.mem_cons.1 (perm.mem_iff.1 List.mem_cons_self) with rfl | mem
      · exact Nat.le_refl _
      · exact le first mem
    obtain rfl := Nat.le_antisymm first_le le_first
    exact ⟨rest, rfl, perm.cons_inv⟩

namespace Plan

/-- How many tasks are under way at a time. -/
def load (plan : Plan ε α) (time : Nat) : Nat := plan.countP (·.underWay time)

/-- Gives one task after another the slot that is free first. The times from which on slots are free
are in order. -/
def fill : (free : List Nat) → List (Task ε α) → Plan ε α
  | start :: free, task :: tasks =>
    task.stint start :: fill (free.orderedInsert (· ≤ ·) (start + task.span)) tasks
  | _, _ => []

/-- The plan of tasks of which at most `limit` may be under way at once, from a time on. -/
def of (limit now : Nat) (tasks : List (Task ε α)) : Plan ε α :=
  fill (List.replicate limit now) tasks

/-- Each task is under way for its time, and begins as soon as those before it have begun and there
is room. -/
structure Greedy (limit now : Nat) (tasks : List (Task ε α)) (plan : Plan ε α) : Prop where
  stints : List.Forall₂ (fun task stint => stint = task.stint stint.start) tasks plan
  le_start : ∀ stint ∈ plan, now ≤ stint.start
  inOrder : plan.Pairwise (·.start ≤ ·.start)
  bounded : ∀ time, plan.load time ≤ limit
  refilled : ∀ stint ∈ plan, ∀ time, now ≤ time → time < stint.start → plan.load time = limit

lemma load_cons (stint : Stint ε α) (plan : Plan ε α) (time : Nat) :
    load (stint :: plan) time = plan.load time + if stint.underWay time then 1 else 0 :=
  List.countP_cons ..

lemma load_append (plan plan' : Plan ε α) (time : Nat) :
    load (plan ++ plan') time = plan.load time + plan'.load time :=
  List.countP_append ..

/-- What has not begun is not under way. -/
lemma load_eq_zero {plan : Plan ε α} {time : Nat} (later : ∀ stint ∈ plan, time < stint.start) :
    plan.load time = 0 := by
  refine List.countP_eq_zero.2 fun stint mem => ?_
  have := later stint mem
  rw [Stint.underWay]
  grind

section Fill

variable {free : List Nat} {tasks : List (Task ε α)}

lemma fill_nil (free : List Nat) : fill free ([] : List (Task ε α)) = [] := by
  cases free with
  | nil => rfl
  | cons => rfl

lemma stints_fill (room : free ≠ []) :
    List.Forall₂ (fun task stint => stint = task.stint stint.start) tasks (fill free tasks) := by
  induction tasks generalizing free with
  | nil => rw [fill_nil]; exact .nil
  | cons task tasks ih =>
    cases free with
    | nil => exact absurd rfl room
    | cons start free =>
      refine .cons rfl (ih fun none => ?_)
      have := List.orderedInsert_length (· ≤ ·) free (start + task.span)
      rw [none] at this
      cases this

/-- No task begins before the first slot is free. -/
lemma le_start_of_mem_fill {least : Nat} (le : ∀ time ∈ free, least ≤ time) :
    ∀ stint ∈ fill free tasks, least ≤ stint.start := by
  induction tasks generalizing free with
  | nil => rw [fill_nil]; exact List.forall_mem_nil _
  | cons task tasks ih =>
    cases free with
    | nil => exact List.forall_mem_nil _
    | cons start free =>
      obtain ⟨first, le⟩ := List.forall_mem_cons.1 le
      refine List.forall_mem_cons.2 ⟨first, ih fun time mem => ?_⟩
      rcases (List.mem_orderedInsert _).1 mem with rfl | mem
      · exact Nat.le_trans first (Nat.le_add_right ..)
      · exact le time mem

lemma pairwise_fill (sorted : free.Pairwise (· ≤ ·)) :
    (fill free tasks).Pairwise (·.start ≤ ·.start) := by
  induction tasks generalizing free with
  | nil => rw [fill_nil]; exact .nil
  | cons task tasks ih =>
    cases free with
    | nil => exact .nil
    | cons start free =>
      obtain ⟨first, sorted⟩ := List.pairwise_cons.1 sorted
      refine List.pairwise_cons.2 ⟨le_start_of_mem_fill fun time mem => ?_,
        ih (sorted.orderedInsert _ _)⟩
      rcases (List.mem_orderedInsert _).1 mem with rfl | mem
      · exact Nat.le_add_right ..
      · exact first time mem

/-- How many slots are not free yet at a time. -/
abbrev taken (free : List Nat) (time : Nat) : Nat := free.countP (time < ·)

/-- A task is under way exactly while its slot is not free again but was before. -/
lemma load_fill_cons (start : Nat) (free : List Nat) (task : Task ε α) (tasks : List (Task ε α))
    (time : Nat) :
    load (fill (start :: free) (task :: tasks)) time + taken (start :: free) time =
      load (fill (free.orderedInsert (· ≤ ·) (start + task.span)) tasks) time +
        taken (free.orderedInsert (· ≤ ·) (start + task.span)) time := by
  rw [fill, load_cons, taken, taken, (List.perm_orderedInsert ..).countP_eq, List.countP_cons,
    List.countP_cons]
  simp only [Stint.underWay, Task.stint]
  grind

lemma load_fill_le (free : List Nat) (tasks : List (Task ε α)) (time : Nat) :
    load (fill free tasks) time + taken free time ≤ free.length := by
  induction tasks generalizing free with
  | nil =>
    rw [fill_nil]
    exact Nat.le_trans (Nat.le_of_eq (Nat.zero_add _)) List.countP_le_length
  | cons task tasks ih =>
    cases free with
    | nil => exact Nat.le_refl _
    | cons start free =>
      have le := ih (free.orderedInsert (· ≤ ·) (start + task.span))
      rw [List.orderedInsert_length] at le
      rw [load_fill_cons]
      exact le

/-- No slot is free while a task waits. -/
lemma load_fill_eq (sorted : free.Pairwise (· ≤ ·)) {time : Nat} :
    ∀ stint ∈ fill free tasks, time < stint.start →
      load (fill free tasks) time + taken free time = free.length := by
  induction tasks generalizing free with
  | nil => rw [fill_nil]; exact List.forall_mem_nil _
  | cons task tasks ih =>
    cases free with
    | nil => exact List.forall_mem_nil _
    | cons start free =>
      obtain ⟨first, sorted⟩ := List.pairwise_cons.1 sorted
      refine List.forall_mem_cons.2 ⟨fun waits => ?_, fun stint mem waits => ?_⟩
      · -- All slots are free later, so they make up the whole.
        have waits : time < start := waits
        have all : taken (start :: free) time = (start :: free).length := by
          refine List.countP_eq_length.2 (List.forall_mem_cons.2 ⟨?_, fun other mem => ?_⟩)
          · exact decide_eq_true waits
          · exact decide_eq_true (Nat.lt_of_lt_of_le waits (first other mem))
        have le := load_fill_le (start :: free) (task :: tasks) time
        omega
      · rw [load_fill_cons, ih (sorted.orderedInsert _ _) stint mem waits,
          List.orderedInsert_length]
        rfl

/-- Slots that have always been free come first. -/
lemma orderedInsert_replicate (count span : Nat) {now : Nat} (pos : 0 < span) (free : List Nat) :
    (List.replicate count now ++ free).orderedInsert (· ≤ ·) (now + span) =
      List.replicate count now ++ free.orderedInsert (· ≤ ·) (now + span) := by
  induction count with
  | zero => rfl
  | succ count ih =>
    rw [List.replicate_succ, List.cons_append, List.cons_append, ← ih]
    exact List.orderedInsert_of_not_le _ _ (by omega)

/-- Tasks begin at once as long as there are slots that have always been free. -/
lemma fill_replicate {now : Nat} (spans : ∀ task ∈ tasks, 0 < task.span) (count : Nat)
    (sorted : free.Pairwise (· ≤ ·)) (later : ∀ time ∈ free, now ≤ time) :
    (∀ stint ∈ (fill (List.replicate count now ++ free) tasks).take count, stint.start = now) ∧
      ∃ free', free'.Pairwise (· ≤ ·) ∧
        free'.Perm (free ++
          ((fill (List.replicate count now ++ free) tasks).take count).map (·.finish)) ∧
        (fill (List.replicate count now ++ free) tasks).drop count =
          fill free' (tasks.drop count) := by
  induction count generalizing free tasks with
  | zero =>
    refine ⟨List.forall_mem_nil _, free, sorted, ?_, rfl⟩
    exact .of_eq (List.append_nil _).symm
  | succ count ih =>
    cases tasks with
    | nil =>
      rw [fill_nil, List.take_nil]
      refine ⟨List.forall_mem_nil _, free, sorted, .of_eq (List.append_nil _).symm, ?_⟩
      rw [List.drop_nil, List.drop_nil, fill_nil]
    | cons task tasks =>
      obtain ⟨span, spans⟩ := List.forall_mem_cons.1 spans
      have later : ∀ time ∈ free.orderedInsert (· ≤ ·) (now + task.span), now ≤ time := by
        intro time mem
        rcases (List.mem_orderedInsert _).1 mem with rfl | mem
        · exact Nat.le_add_right ..
        · exact later time mem
      obtain ⟨starts, free', sorted', perm, rest⟩ :=
        ih spans (sorted.orderedInsert _ _) later
      rw [List.replicate_succ, List.cons_append, fill, orderedInsert_replicate _ _ span]
      refine ⟨List.forall_mem_cons.2 ⟨rfl, starts⟩, free', sorted', ?_, rest⟩
      refine perm.trans ?_
      refine ((List.perm_orderedInsert ..).append_right _).trans ?_
      exact List.perm_middle.symm

end Fill

variable {limit now : Nat} {tasks : List (Task ε α)}

theorem greedy_of (room : 0 < limit) : Greedy limit now tasks (of limit now tasks) where
  stints := stints_fill fun none => by
    rw [List.replicate_eq_nil_iff] at none
    omega
  le_start := le_start_of_mem_fill fun time mem =>
    Nat.le_of_eq (List.eq_of_mem_replicate mem).symm
  inOrder := pairwise_fill (List.pairwise_replicate.2 (.inr (Nat.le_refl _)))
  bounded time := by
    have le := load_fill_le (List.replicate limit now) tasks time
    rw [List.length_replicate] at le
    exact Nat.le_trans (Nat.le_add_right ..) le
  refilled stint mem time after waits := by
    have eq := load_fill_eq (List.pairwise_replicate.2 (.inr (Nat.le_refl _))) stint mem waits
    have none : taken (List.replicate limit now) time = 0 := by
      refine List.countP_eq_zero.2 fun slot mem => ?_
      rw [List.eq_of_mem_replicate mem, decide_eq_true_iff]
      exact Nat.not_lt.2 after
    rwa [none, List.length_replicate] at eq

/-- With room for all, tasks begin at once. -/
lemma start_of_room (spans : ∀ task ∈ tasks, 0 < task.span) (room : 0 < limit)
    (all : tasks.length ≤ limit) : ∀ stint ∈ of limit now tasks, stint.start = now := by
  obtain ⟨starts, _⟩ := fill_replicate spans limit .nil (List.forall_mem_nil (now ≤ ·))
  rw [List.append_nil] at starts
  have few : (of limit now tasks).length ≤ limit :=
    (greedy_of room).stints.length_eq ▸ all
  rwa [← of, List.take_of_length_le few] at starts

/-- The first task in which two greedy plans differ cannot begin earlier in one of them, since there
is no room until it begins in the other. -/
lemma Greedy.start_le {begun rest rest' : Plan ε α} {stint stint' : Stint ε α}
    (greedy : Greedy limit now tasks (begun ++ stint :: rest))
    (greedy' : Greedy limit now tasks (begun ++ stint' :: rest'))
    (span : stint.start < stint.finish) : stint'.start ≤ stint.start := by
  by_contra later
  have later : stint.start < stint'.start := Nat.not_le.1 later
  have listed := List.mem_append_right begun (List.mem_cons_self (a := stint) (l := rest))
  have listed' := List.mem_append_right begun (List.mem_cons_self (a := stint') (l := rest'))
  have after := greedy.le_start stint listed
  have full := greedy'.refilled stint' listed' stint.start after later
  have idle : load (stint' :: rest') stint.start = 0 := by
    refine load_eq_zero (List.forall_mem_cons.2 ⟨later, fun other mem => ?_⟩)
    have ordered := (List.pairwise_append.1 greedy'.inOrder).2.1
    exact Nat.lt_of_lt_of_le later ((List.pairwise_cons.1 ordered).1 other mem)
  have most := greedy.bounded stint.start
  have active : stint.underWay stint.start = true := by
    rw [Stint.underWay]
    grind
  rw [load_append, idle] at full
  rw [load_append, load_cons, if_pos active] at most
  omega

/-- Plans that are alike so far are alike in what is left. -/
lemma Greedy.rest_unique {left : List (Task ε α)} (begun : Plan ε α) {rest rest' : Plan ε α}
    (spans : ∀ task ∈ left, 0 < task.span)
    (stints : List.Forall₂ (fun task stint => stint = task.stint stint.start) left rest)
    (stints' : List.Forall₂ (fun task stint => stint = task.stint stint.start) left rest')
    (greedy : Greedy limit now tasks (begun ++ rest))
    (greedy' : Greedy limit now tasks (begun ++ rest')) : rest = rest' := by
  induction stints generalizing begun rest' with
  | nil =>
    cases stints'
    rfl
  | @cons task stint left rest fits _ ih =>
    cases stints' with
    | @cons _ stint' _ rest' fits' stints' =>
      obtain ⟨span, spans⟩ := List.forall_mem_cons.1 spans
      have takes {stint : Stint ε α} (fits : stint = task.stint stint.start) :
          stint.start < stint.finish := by
        rw [fits]
        exact Nat.lt_add_of_pos_right span
      have same : stint.start = stint'.start :=
        Nat.le_antisymm (greedy'.start_le greedy (takes fits'))
          (greedy.start_le greedy' (takes fits))
      obtain rfl : stint = stint' := by rw [fits, fits', same]
      rw [List.append_cons] at greedy greedy'
      rw [ih (begun ++ [stint]) spans stints' greedy greedy']

/-- Tasks that take some time have one greedy plan. -/
theorem Greedy.eq_of {plan : Plan ε α} (room : 0 < limit) (spans : ∀ task ∈ tasks, 0 < task.span)
    (greedy : Greedy limit now tasks plan) : plan = of limit now tasks :=
  have computed := greedy_of room
  Greedy.rest_unique [] spans greedy.stints computed.stints greedy computed

/-- A stint is that of the task in its position. -/
lemma Greedy.getElem? {plan : Plan ε α} (greedy : Greedy limit now tasks plan) {position : Nat}
    {stint : Stint ε α} (listed : plan[position]? = some stint) :
    ∃ task, tasks[position]? = some task ∧ stint = task.stint stint.start := by
  obtain ⟨lt, rfl⟩ := List.getElem?_eq_some_iff.1 listed
  have lt' : position < tasks.length := greedy.stints.length_eq ▸ lt
  exact ⟨_, List.getElem?_eq_getElem lt', greedy.stints.get lt' lt⟩

/-- When the tasks in some positions end. -/
def finishes (plan : Plan ε α) (positions : List Nat) : List Nat :=
  positions.filterMap fun position => plan[position]?.map (·.finish)

lemma finishes_cons {plan : Plan ε α} {position : Nat} {stint : Stint ε α}
    (planned : plan[position]? = some stint) (positions : List Nat) :
    plan.finishes (position :: positions) = stint.finish :: plan.finishes positions :=
  List.filterMap_cons_some (by rw [planned]; rfl)

lemma finishes_take (plan : Plan ε α) (count : Nat) :
    plan.finishes ((List.range plan.length).take count) = (plan.take count).map (·.finish) := by
  induction plan generalizing count with
  | nil => rw [List.length_nil, List.range_zero, List.take_nil, List.take_nil]; rfl
  | cons stint plan ih =>
    cases count with
    | zero => rfl
    | succ count =>
      rw [List.length_cons, List.range_succ_eq_map, List.take_succ_cons, List.take_succ_cons,
        finishes_cons rfl, List.map_cons, ← ih, finishes, ← List.map_take, List.filterMap_map]
      rfl

/-- No two tasks end at the same moment, unless one has failed before. -/
def Apart (plan : Plan ε α) : Prop :=
  plan.Pairwise fun stint other => stint.finish = other.finish →
    ∃ failed ∈ plan, failed.outcome.isOk = false ∧ failed.finish < stint.finish

lemma apart_of_nodup {plan : Plan ε α} (nodup : (plan.map (·.finish)).Nodup) : plan.Apart :=
  (List.pairwise_map.1 nodup).imp fun ne same => absurd same ne

/-- What the tasks come to, each with the time at which it does. -/
def runs (plan : Plan ε α) : Runs ε α := plan.map fun stint => (stint.outcome, stint.finish)

lemma getElem?_runs {plan : Plan ε α} {position : Nat} {outcome : Except ε α} {time : Nat} :
    plan.runs[position]? = some (outcome, time) ↔
      ∃ stint, plan[position]? = some stint ∧ stint.outcome = outcome ∧ stint.finish = time := by
  rw [runs, List.getElem?_map, Option.map_eq_some_iff]
  simp only [Prod.mk.injEq]

/-- What a plan comes to, and when. -/
inductive Decides (plan : Plan ε α) (now : Nat) : Except ε (List (Nat × α)) → Nat → Prop where
  /-- Every value is given once, with the position of its task, in the order in which the tasks
  end. -/
  | all {results finish} :
    (results.map (·.1)).Perm (List.range plan.length) →
    (∀ position value, (position, value) ∈ results →
      ∃ stint, plan[position]? = some stint ∧ stint.outcome = .ok value) →
    (results.Pairwise fun result later => ∀ stint stint', plan[result.1]? = some stint →
      plan[later.1]? = some stint' → stint.finish < stint'.finish) →
    plan.runs.Last now finish →
    Decides plan now (.ok results) finish
  /-- Of the tasks that fail, the one that ends first counts. -/
  | failed {position : Nat} {stint : Stint ε α} {error : ε} :
    plan[position]? = some stint →
    stint.outcome = .error error →
    (∀ (other : Nat) (stint' : Stint ε α), other ≠ position → plan[other]? = some stint' →
      stint'.outcome.isOk = false → stint.finish < stint'.finish) →
    Decides plan now (.error error) stint.finish

end Plan

end UpgradeDrill
