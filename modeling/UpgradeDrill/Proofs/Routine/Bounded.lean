import UpgradeDrill.Proofs.Routine.Schedule
import UpgradeDrill.Proofs.Routine.Turns

/-!
# Bounded pools

A pool keeps to the greedy plan of its tasks until it ends, and comes to what the plan decides
(`pool_keeps_plan`): all values in the order in which the tasks end, or the failure of the task that
fails first, after which nothing begins any more.
-/

namespace UpgradeDrill

open Function Routine

variable {I : Interface} {ε α σ : Type}

/-- What a task has done by a time, if it keeps to its stint until then. -/
inductive Stint.Kept (stint : Stint ε α) (x : Attempt I ε α) (time : Nat) :
    List (Exchange I) → Prop where
  | ended {es} :
    stint.finish ≤ time →
    x.Yields stint.start es stint.outcome stint.finish →
    Kept stint x time es
  /-- It has done all that it does until then. -/
  | underWay {es part due} :
    stint.start < time → time < stint.finish →
    Reaches x.run stint.start es part due →
    time ≤ due →
    Kept stint x time es
  | waiting :
    time ≤ stint.start →
    Kept stint x time []

/-- All exchanges of a pool that has ended are made by its tasks, which have kept to a plan. -/
def Plan.Kept (plan : Plan ε α) (attempts : List (Attempt I ε α)) (time : Nat)
    (es : List (Exchange I)) : Prop :=
  ∃ log : Log I, log.map (·.2) = es ∧ (∀ entry ∈ log, entry.1 < plan.length) ∧
    ∀ (position : Nat) (x : Attempt I ε α) (stint : Stint ε α), attempts[position]? = some x →
      plan[position]? = some stint → stint.Kept x time (log.thread position)

lemma Plan.Apart.exists_failed {plan : Plan ε α} (apart : plan.Apart) {position other : Nat}
    {stint stint' : Stint ε α} (planned : plan[position]? = some stint)
    (planned' : plan[other]? = some stint') (ne : position ≠ other)
    (same : stint.finish = stint'.finish) :
    ∃ failed ∈ plan, failed.outcome.isOk = false ∧ failed.finish < stint.finish := by
  obtain ⟨lt, rfl⟩ := List.getElem?_eq_some_iff.1 planned
  obtain ⟨lt', rfl⟩ := List.getElem?_eq_some_iff.1 planned'
  have pairs := List.pairwise_iff_getElem.1 apart
  rcases Nat.lt_or_gt_of_ne ne with before | after
  · exact pairs _ _ lt lt' before same
  · rw [same]
    exact pairs _ _ lt' lt after same.symm

section Run

variable {world : World I σ} {base : Nat} {xs : List (Routine I (Except ε α))}
  {tasks : List (Task ε α)} {plan : Plan ε α}

variable (world base xs tasks plan) in
/-- How a pool that keeps to a plan may end. -/
inductive Concluded (log : Log I) : Except ε (List (Nat × α)) → Nat → Prop where
  | all {parts : Parts I (Except ε α)} {progress : Progress ε α} :
    OnSchedule world base xs tasks plan log parts progress →
    (∀ position error, (position, .error error) ∉ progress.outcomes) →
    progress.line = [] →
    Concluded log (.ok progress.outcomes.results) (base + progress.now)
  | failed {parts : Parts I (Except ε α)} {progress : Progress ε α} {position : Nat} {error : ε} :
    OnSchedule world base xs tasks plan log parts (progress.goOn position) →
    (∀ position error, (position, .error error) ∉ progress.outcomes) →
    parts position = some (done (.error error)) →
    Concluded log (.error error) (base + progress.now)

section Path

variable {precedence : Precedence}

mutual

/-- How a team ends that keeps to a plan, if the world answers. -/
lemma Team.Of.concluded (state : σ) (length : plan.length = xs.length)
    (comes : ∀ (other : Nat) x stint, xs[other]? = some x → plan[other]? = some stint →
      x.Comes world stint.start stint.outcome stint.finish) :
    ∀ {team : Team I (Except ε α)} {parts : Parts I (Except ε α)} {progress : Progress ε α}
      {log : Log I} {es : List (Exchange I)} {result finish}, team.Of parts →
      OnSchedule world base xs tasks plan log parts progress →
      Clear ⟨precedence, Outcomes.latestFailure?⟩ progress.outcomes →
      Reaches (team.run ⟨precedence, Outcomes.latestFailure?⟩ progress) (base + progress.now) es
        (done result) finish →
      (∀ e ∈ es, world.Gives e) →
      ∃ own : Log I, own.map (·.2) = es ∧
        Concluded world base xs tasks plan (log ++ own) result finish
  | .mk member, parts, progress, log, es, result, finish, of, schedule, clear, path, gives => by
    -- By recursion on the team, which shrinks as its members go on while the log grows.
    cases eq : progress.line with
    | nil =>
      rw [Team.run, eq] at path
      obtain ⟨rfl, same, rfl⟩ := reaches_done_iff.1 path
      cases same
      refine ⟨[], rfl, ?_⟩
      rw [List.append_nil]
      exact .all schedule (Outcomes.ok_of_clear clear) eq
    | cons turn line =>
      have due := (schedule.line turn (eq ▸ List.mem_cons_self)).1
      let next : Progress ε α := { progress with now := turn.due, line }
      have go (path : Reaches ((member turn.position).run ⟨precedence, Outcomes.latestFailure?⟩
          turn.position next) (base + turn.due) es (done result) finish) :
          ∃ own : Log I, own.map (·.2) = es ∧
            Concluded world base xs tasks plan (log ++ own) result finish :=
        Member.Of.concluded state length comes (of turn.position) (schedule.advance eq) clear path
          gives
      rw [Team.run, eq] at path
      dsimp only at path
      split at path
      · rename_i now
        rw [← now] at path
        exact go path
      · cases path with
        | wait path =>
          rw [Nat.add_assoc, Nat.add_sub_cancel' due] at path
          exact go path

/-- How a team ends once one of its members goes on. -/
lemma Member.Of.concluded (state : σ) (length : plan.length = xs.length)
    (comes : ∀ (other : Nat) x stint, xs[other]? = some x → plan[other]? = some stint →
      x.Comes world stint.start stint.outcome stint.finish) :
    ∀ {member : Member I (Except ε α)} {position : Nat} {parts : Parts I (Except ε α)}
      {progress : Progress ε α} {log : Log I} {es : List (Exchange I)} {result finish},
      member.Of position parts →
      OnSchedule world base xs tasks plan log parts (progress.goOn position) →
      Clear ⟨precedence, Outcomes.latestFailure?⟩ progress.outcomes →
      Reaches (member.run ⟨precedence, Outcomes.latestFailure?⟩ position progress)
        (base + progress.now) es (done result) finish →
      (∀ e ∈ es, world.Gives e) →
      ∃ own : Log I, own.map (·.2) = es ∧
        Concluded world base xs tasks plan (log ++ own) result finish
  | .absent, position, parts, progress, log, es, result, finish, of, schedule, clear, path,
      gives => by
    obtain ⟨part, eq, _⟩ := schedule.running ⟨progress.now, position⟩ List.mem_cons_self
    cases (show parts position = none from of).symm.trans eq
  | .ended outcome next, position, parts, progress, log, es, result, finish, ⟨eq, of⟩, schedule,
      clear, path, gives => by
    have now := progress.now_finish precedence position outcome
    have outcomes := progress.outcomes_finish precedence position outcome
    rw [Member.run] at path
    dsimp only at path
    rw [outcomes] at path
    cases outcome with
    | error error =>
      obtain ⟨rfl, same, rfl⟩ := reaches_done_iff.1 path
      cases same
      refine ⟨[], rfl, ?_⟩
      rw [List.append_nil]
      exact .failed schedule (Outcomes.ok_of_clear clear) eq
    | ok value =>
      have ended := schedule.finish precedence state length comes eq
      rw [← now] at path
      refine Team.Of.concluded state length comes of ended ?_ path gives
      rw [outcomes]
      exact clear.cons rfl
  | .ask request next, position, parts, progress, log, es, result, finish, ⟨left, eq, of⟩, schedule,
      clear, path, gives => by
    rw [Member.run] at path
    cases path with
    | @ask _ _ _ reply took es _ _ path =>
      obtain ⟨given, gives⟩ := List.forall_mem_cons.1 gives
      obtain ⟨own, rfl, concluded⟩ := Team.Of.concluded state length comes (of reply took)
        (schedule.asked eq given) clear path gives
      rw [List.append_assoc] at concluded
      exact ⟨_ :: own, rfl, concluded⟩
  | .wait pause next, position, parts, progress, log, es, result, finish, ⟨left, eq, of⟩, schedule,
      clear, path, gives => by
    rw [Member.run] at path
    split at path
    · -- Without a pause the member stays in front.
      rename_i none
      subst none
      exact Team.Of.concluded state length comes of (schedule.waited eq (.refl _) schedule.sorted)
        clear path gives
    · have sorted := (List.pairwise_cons.1 schedule.sorted).2
      exact Team.Of.concluded state length comes of (schedule.waited eq
        (Precedence.lineUp_perm ..) (Precedence.lineUp_sorted _ _ _ sorted)) clear path gives
  | .clock next, position, parts, progress, log, es, result, finish, ⟨left, eq, of⟩, schedule,
      clear, path, gives => by
    rw [Member.run] at path
    cases path with
    | clock path =>
      exact Team.Of.concluded state length comes (of _) (schedule.clocked eq) clear path gives

end

end Path

namespace OnSchedule

variable {log : Log I} {parts : Parts I (Except ε α)} {progress : Progress ε α}

/-- When nobody is under way any more, all stints are over. -/
lemma all_over {position : Nat} {stint : Stint ε α} (state : σ) (length : plan.length = xs.length)
    (schedule : OnSchedule world base xs tasks plan log parts progress)
    (none : progress.line = []) (planned : plan[position]? = some stint) :
    (position, stint.outcome) ∈ progress.outcomes ∧ stint.finish ≤ base + progress.now ∧
      ∃ x, xs[position]? = some x ∧
        Reaches x stint.start (log.thread position) (done stint.outcome) stint.finish := by
  rcases schedule.place state length planned with ⟨turn, mem, _⟩ | ⟨mem, _⟩ | past
  · rw [none] at mem
    cases mem
  · rw [schedule.idle none] at mem
    cases mem
  · exact past

/-- When nobody is under way any more, each member has ended once. -/
lemma perm_of_over (length : plan.length = xs.length)
    (schedule : OnSchedule world base xs tasks plan log parts progress)
    (none : progress.line = []) :
    (progress.outcomes.map (·.1)).Perm (List.range plan.length) := by
  have positions := schedule.positions
  rwa [none, schedule.idle none, ← length] at positions

/-- If all tasks end well, they end one after another. -/
lemma order_strict (state : σ) (length : plan.length = xs.length) (apart : plan.Apart)
    (schedule : OnSchedule world base xs tasks plan log parts progress)
    (well : ∀ position error, (position, .error error) ∉ progress.outcomes)
    (none : progress.line = []) :
    progress.outcomes.Pairwise fun later earlier => ∀ stint stint',
      plan[earlier.1]? = some stint → plan[later.1]? = some stint' →
        stint.finish < stint'.finish := by
  have distinct : progress.outcomes.Pairwise fun later earlier => later.1 ≠ earlier.1 :=
    List.pairwise_map.1 ((schedule.perm_of_over length none).nodup_iff.2 List.nodup_range)
  refine (schedule.order.and distinct).imp ?_
  rintro later earlier ⟨le, ne⟩ stint stint' planned planned'
  refine Nat.lt_of_le_of_ne (le stint' stint planned' planned) fun same => ?_
  -- Otherwise a task would have failed before.
  obtain ⟨failed, mem, fails, _⟩ := apart.exists_failed planned planned' ne.symm same
  obtain ⟨position, listed⟩ := List.getElem?_of_mem mem
  have inOutcomes := (schedule.all_over state length none listed).1
  cases outcome : failed.outcome with
  | ok value =>
    rw [outcome] at fails
    cases fails
  | error error => exact well position error (outcome ▸ inOutcomes)

/-- The values of all tasks come in the order in which they end. -/
lemma decides_all (state : σ) (length : plan.length = xs.length) (apart : plan.Apart)
    (schedule : OnSchedule world base xs tasks plan log parts progress)
    (well : ∀ position error, (position, .error error) ∉ progress.outcomes)
    (none : progress.line = []) :
    plan.Decides base (.ok progress.outcomes.results) (base + progress.now) := by
  refine .all ?_ (fun position value mem => ?_) ?_ ⟨fun run mem => ?_, ?_⟩
  · rw [Outcomes.map_results well]
    exact (List.reverse_perm _).trans (schedule.perm_of_over length none)
  · obtain ⟨time, _, _, stint, _, planned, _, comes⟩ :=
      schedule.past position _ (Outcomes.mem_results.1 mem)
    exact ⟨stint, planned, comes.of_done.1.symm⟩
  · have strict := schedule.order_strict state length apart well none
    refine List.Pairwise.filterMap _ ?_ (List.pairwise_reverse.2 strict)
    rintro earlier later before ⟨_, value⟩ eq ⟨_, value'⟩ eq'
    obtain ⟨_, _, same⟩ := Option.map_eq_some_iff.1 eq
    obtain ⟨_, _, same'⟩ := Option.map_eq_some_iff.1 eq'
    cases same
    cases same'
    exact before
  · obtain ⟨stint, inPlan, rfl⟩ := List.mem_map.1 mem
    obtain ⟨position, planned⟩ := List.getElem?_of_mem inPlan
    exact (schedule.all_over state length none planned).2.1
  · rcases schedule.latest none with ⟨empty, zero⟩ | ⟨_, _, stint, planned, ends⟩
    · exact .inl ⟨by rw [empty]; rfl, by rw [zero, Nat.add_zero]⟩
    · exact .inr ⟨_, List.mem_map_of_mem (List.mem_of_getElem? planned), ends⟩

/-- A task that fails now is the first to fail, and no other ends now. -/
lemma failed {position : Nat} {error : ε} (state : σ) (length : plan.length = xs.length)
    (takes : ∀ stint ∈ plan, base ≤ stint.start ∧ stint.start < stint.finish) (apart : plan.Apart)
    (schedule : OnSchedule world base xs tasks plan log parts (progress.goOn position))
    (well : ∀ position error, (position, .error error) ∉ progress.outcomes)
    (eq : parts position = some (done (.error error))) :
    ∃ stint, plan[position]? = some stint ∧ stint.outcome = .error error ∧
      stint.finish = base + progress.now ∧
      (∀ (other : Nat) stint', plan[other]? = some stint' → stint'.outcome.isOk = false →
        stint.finish ≤ stint'.finish) ∧
      ∀ (other : Nat) stint', other ≠ position → plan[other]? = some stint' →
        stint'.finish ≠ stint.finish := by
  obtain ⟨x, stint, _, planned, _, comes⟩ := schedule.own eq
  obtain ⟨fails, ends⟩ := comes.of_done
  have first (other : Nat) (stint' : Stint ε α) (planned' : plan[other]? = some stint')
      (fails : stint'.outcome.isOk = false) : stint.finish ≤ stint'.finish := by
    rw [← ends]
    rcases schedule.place state length planned' with
      ⟨turn, mem, rfl⟩ | ⟨_, _, after⟩ | ⟨mem, _, _⟩
    · obtain ⟨_, _, _, _, _, same, _, comes'⟩ := schedule.running turn mem
      cases planned'.symm.trans same
      exact Nat.le_trans (Nat.add_le_add_left (schedule.line turn mem).1 base) (comes'.le state)
    · have := (takes stint' (List.mem_of_getElem? planned')).2
      exact Nat.le_trans after (Nat.le_of_lt this)
    · cases outcome : stint'.outcome with
      | ok value =>
        rw [outcome] at fails
        cases fails
      | error error => exact absurd (outcome ▸ mem) (well other error)
  refine ⟨stint, planned, fails.symm, ends.symm, first, fun other stint' ne planned' same => ?_⟩
  obtain ⟨failed, mem, fails, before⟩ := apart.exists_failed planned planned' ne.symm same.symm
  obtain ⟨index, listed⟩ := List.getElem?_of_mem mem
  exact Nat.not_lt.2 (first index failed listed fails) before

/-- Who is under way when a member ends alone began before that. -/
lemma began_before {position : Nat} {turn : Turn} {stint : Stint ε α}
    (schedule : OnSchedule world base xs tasks plan log parts (progress.goOn position))
    (late : 0 < progress.now)
    (alone : ∀ (other : Nat) stint', other ≠ position → plan[other]? = some stint' →
      stint'.finish ≠ base + progress.now)
    (mem : turn ∈ (progress.goOn position).line) (planned : plan[turn.position]? = some stint) :
    stint.start < base + progress.now := by
  rcases schedule.began turn mem stint planned with first | ⟨other, mem, stint', planned', after⟩
  · omega
  · -- Another has ended, and did so before.
    have ne : other ≠ position := fun eq => schedule.alone.2.2 (eq ▸ mem)
    have notNow := alone other stint' ne planned'
    obtain ⟨⟨_, outcome⟩, inOutcomes, rfl⟩ := List.mem_map.1 mem
    obtain ⟨time, le, _, _, _, same, _, comes⟩ := schedule.past _ _ inOutcomes
    cases planned'.symm.trans same
    have le : time ≤ base + progress.now := le
    have ended := comes.of_done.2
    omega

/-- When a member ends alone, all have kept to their stints. -/
lemma kept {position other : Nat} {outcome : Except ε α} {x : Attempt I ε α} {stint : Stint ε α}
    (state : σ) (length : plan.length = xs.length)
    (schedule : OnSchedule world base xs tasks plan log parts (progress.goOn position))
    (late : 0 < progress.now)
    (alone : ∀ (other : Nat) stint', other ≠ position → plan[other]? = some stint' →
      stint'.finish ≠ base + progress.now)
    (eq : parts position = some (done outcome)) (listed : xs[other]? = some x.run)
    (planned : plan[other]? = some stint) :
    stint.Kept x (base + progress.now) (log.thread other) := by
  rcases schedule.place state length planned with
    ⟨turn, mem, rfl⟩ | ⟨_, none, after⟩ | ⟨_, past, x', same, path⟩
  · by_cases own : turn.position = position
    · subst own
      obtain ⟨x', _, same, same', path, comes⟩ := schedule.own eq
      cases listed.symm.trans same
      cases planned.symm.trans same'
      obtain ⟨rfl, now⟩ := comes.of_done
      exact .ended (Nat.le_of_eq now.symm) (now ▸ path)
    · obtain ⟨part, _, x', _, same, same', path, comes⟩ := schedule.running turn mem
      cases listed.symm.trans same
      cases planned.symm.trans same'
      have due := Nat.add_le_add_left (schedule.line turn mem).1 base
      have notNow := alone turn.position stint own planned
      exact .underWay (schedule.began_before late alone mem planned)
        (Nat.lt_of_le_of_ne (Nat.le_trans due (comes.le state)) notNow.symm) path due
  · rw [none]
    exact .waiting after
  · cases listed.symm.trans same
    exact .ended past path

end OnSchedule

/-- A pool that has kept to a plan has come to what the plan decides, and its tasks have kept to
their stints. -/
lemma Concluded.decides_and_keeps {log : Log I} {result : Except ε (List (Nat × α))} {finish : Nat}
    (state : σ) (length : plan.length = xs.length)
    (takes : ∀ stint ∈ plan, base ≤ stint.start ∧ stint.start < stint.finish) (apart : plan.Apart)
    (concluded : Concluded world base xs tasks plan log result finish) :
    plan.Decides base result finish ∧ (∀ entry ∈ log, entry.1 < plan.length) ∧
      ∀ (position : Nat) (x : Attempt I ε α) stint, xs[position]? = some x.run →
        plan[position]? = some stint → stint.Kept x finish (log.thread position) := by
  cases concluded with
  | all schedule well none =>
    refine ⟨schedule.decides_all state length apart well none, length ▸ schedule.tags,
      fun position x stint listed planned => ?_⟩
    obtain ⟨_, ends, x', same, path⟩ := schedule.all_over state length none planned
    cases listed.symm.trans same
    exact .ended ends path
  | @failed parts progress position error schedule well eq =>
    obtain ⟨stint, planned, fails, ends, first, alone⟩ :=
      schedule.failed state length takes apart well eq
    have late : 0 < progress.now := by
      have := takes stint (List.mem_of_getElem? planned)
      omega
    rw [ends] at alone
    refine ⟨?_, length ▸ schedule.tags, fun other x stint' listed planned' =>
      schedule.kept state length late alone eq listed planned'⟩
    rw [← ends]
    refine .failed planned fails fun other stint' ne planned' fails' => ?_
    refine Nat.lt_of_le_of_ne (first other stint' planned' fails') fun same => ?_
    exact alone other stint' ne planned' (same.symm.trans ends)

end Run

lemma Runs.Last.unique {runs : Runs ε α} {now finish finish' : Nat}
    (last : runs.Last now finish) (last' : runs.Last now finish') : finish = finish' := by
  rcases last with ⟨bound, ⟨rfl, rfl⟩ | ⟨run, mem, rfl⟩⟩
  · rcases last'.2 with ⟨_, same⟩ | ⟨_, mem, _⟩
    · exact same.symm
    · cases mem
  · rcases last' with ⟨bound', ⟨rfl, _⟩ | ⟨run', mem', rfl⟩⟩
    · cases mem
    · exact Nat.le_antisymm (bound' run mem) (bound run' mem')

/-- No run failed if all of them gave values. -/
lemma Runs.not_failed {runs : Runs ε α} {values : List α} (well : runs.map (·.1) = values.map .ok)
    {position : Nat} {error : ε} {time : Nat} : runs[position]? ≠ some (.error error, time) := by
  intro failed
  have mem : .error error ∈ runs.map (·.1) := List.mem_map_of_mem (List.mem_of_getElem? failed)
  rw [well] at mem
  obtain ⟨_, _, eq⟩ := List.mem_map.1 mem
  cases eq

namespace Plan

variable {plan : Plan ε α}

/-- If all values are given once, each with the position of its task, they are in order what the
tasks come to. -/
lemma map_runs {results : List (Nat × α)}
    (perm : (results.map (·.1)).Perm (List.range plan.length))
    (given : ∀ position value, (position, value) ∈ results →
      ∃ stint, plan[position]? = some stint ∧ stint.outcome = .ok value) :
    plan.runs.map (·.1) = (inOrder results).map .ok := by
  obtain ⟨length, listed⟩ := getElem?_inOrder perm
  refine List.ext_getElem? fun position => ?_
  rw [runs, List.map_map, List.getElem?_map, List.getElem?_map]
  cases planned : plan[position]? with
  | none =>
    have beyond : (inOrder results)[position]? = none := by
      rw [List.getElem?_eq_none_iff, length]
      exact List.getElem?_eq_none_iff.1 planned
    rw [beyond]
    rfl
  | some stint =>
    have inRange := List.mem_range.2 (List.getElem?_eq_some_iff.1 planned).1
    obtain ⟨⟨_, value⟩, mem, rfl⟩ := List.mem_map.1 (perm.mem_iff.2 inRange)
    obtain ⟨_, same, ends⟩ := given _ _ mem
    cases planned.symm.trans same
    rw [listed _ _ mem]
    exact congrArg some ends

/-- What a plan decides is what a join comes to whose attempts end as the plan says. -/
lemma Decides.joined {now finish time : Nat} {result : Except ε (List (Nat × α))}
    {outcome : Except ε (List α)} (decides : plan.Decides now result finish)
    (joined : Joined .eager now plan.runs outcome time) :
    outcome = result.map inOrder ∧ time = finish := by
  cases decides with
  | @all results _ perm given _ last =>
    have good := map_runs perm given
    cases joined with
    | @all values _ well last' =>
      have same : values = inOrder results :=
        List.map_injective_iff.2 (fun _ _ => Except.ok.inj) (well.symm.trans good)
      exact ⟨congrArg Except.ok same, last'.unique last⟩
    | earliest _ failed _ => exact absurd failed (Runs.not_failed good)
    | foremost patient => cases patient
  | @failed position stint error planned fails first =>
    have ran : plan.runs[position]? = some (.error error, stint.finish) :=
      getElem?_runs.2 ⟨stint, planned, fails, rfl⟩
    cases joined with
    | all well => exact absurd ran (Runs.not_failed well)
    | @earliest position' error' _ _ failed first' =>
      obtain ⟨stint', planned', fails', rfl⟩ := getElem?_runs.1 failed
      -- Each of two failures would come first.
      obtain rfl : position' = position := by
        by_contra ne
        have before := first position' stint' ne planned' (by rw [fails']; rfl)
        have after := first' position error stint.finish ran
        omega
      cases planned.symm.trans planned'
      cases fails.symm.trans fails'
      exact ⟨rfl, rfl⟩
    | foremost patient => cases patient

end Plan

section Pool

variable {world : World I σ} {limit : Nat} {attempts : List (Attempt I ε α)}
  {tasks : List (Task ε α)}

/-- An attempt comes to the outcome of its stint when that ends. -/
lemma comes_of_takes (takes : List.Forall₂ (Attempt.Takes world) attempts tasks) {now : Nat}
    (room : 0 < limit) (position : Nat) (x : Attempt I ε α) (stint : Stint ε α)
    (listed : attempts[position]? = some x)
    (planned : (Plan.of limit now tasks)[position]? = some stint) :
    x.Comes world stint.start stint.outcome stint.finish := by
  obtain ⟨task, listed', eq⟩ := (Plan.greedy_of room).getElem? planned
  obtain ⟨lt, rfl⟩ := List.getElem?_eq_some_iff.1 listed
  obtain ⟨lt', rfl⟩ := List.getElem?_eq_some_iff.1 listed'
  rw [eq]
  exact (takes.get lt lt').2 stint.start

lemma spans_of_takes (takes : List.Forall₂ (Attempt.Takes world) attempts tasks) :
    ∀ task ∈ tasks, 0 < task.span := by
  induction takes with
  | nil => exact List.forall_mem_nil _
  | cons first _ ih => exact List.forall_mem_cons.2 ⟨first.1, ih⟩

/-- A pool comes to what its greedy plan decides. -/
lemma pool_concluded (room : 0 < limit)
    (takes : List.Forall₂ (Attempt.Takes world) attempts tasks) (now : Nat) (state : σ) :
    ∃ log : Log I, log.map (·.2) = (pool limit attempts).run.exchanges world now state ∧
      Concluded world now (attempts.map (·.run)) tasks (Plan.of limit now tasks) log
        ((pool limit attempts).run.run world now state).value
        ((pool limit attempts).run.run world now state).time := by
  have length : (Plan.of limit now tasks).length = (attempts.map (·.run)).length := by
    rw [List.length_map, takes.length_eq, (Plan.greedy_of room).stints.length_eq]
  have comes (position : Nat) (x : Routine I (Except ε α)) (stint : Stint ε α)
      (listed : (attempts.map (·.run))[position]? = some x)
      (planned : (Plan.of limit now tasks)[position]? = some stint) :
      x.Comes world stint.start stint.outcome stint.finish := by
    rw [List.getElem?_map] at listed
    obtain ⟨attempt, own, rfl⟩ := Option.map_eq_some_iff.1 listed
    exact comes_of_takes takes room position attempt stint own planned
  have schedule := OnSchedule.start room (spans_of_takes takes) length comes
  have clear : Clear ⟨.queued, Outcomes.latestFailure?⟩ ([] : Outcomes ε α) := by
    intro earlier suffix
    rw [List.suffix_nil.1 suffix]
    rfl
  rw [List.length_map] at schedule
  exact (Team.of_ofList _).concluded state length comes schedule clear
    (reaches_run world (pool limit attempts).run now state) fun _ => gives_of_mem_exchanges

/-- With room for all, a pool comes to what a join of its tasks comes to. -/
lemma pool_joined (room : 0 < limit) (all : attempts.length ≤ limit)
    (takes : List.Forall₂ (Attempt.Takes world) attempts tasks) (now : Nat) (state : σ) :
    Joined .eager now (Plan.of limit now tasks).runs
      ((Joining.eager.join attempts).run.run world now state).value
      ((Joining.eager.join attempts).run.run world now state).time := by
  have greedy : (Plan.of limit now tasks).Greedy limit now tasks := Plan.greedy_of room
  have stints := greedy.stints.length_eq
  have starts : ∀ stint ∈ Plan.of limit now tasks, stint.start = now :=
    Plan.start_of_room (spans_of_takes takes) room (takes.length_eq ▸ all)
  refine joined_of_join ?_ (fun position x outcome time listed ran => ?_) state
  · rw [Plan.runs, List.length_map, takes.length_eq, stints]
  · obtain ⟨stint, planned, rfl, rfl⟩ := Plan.getElem?_runs.1 ran
    have comes := comes_of_takes takes room position x stint listed planned
    rwa [starts stint (List.mem_of_getElem? planned)] at comes

/-- Tasks that each take some time are under way in a pool as its greedy plan says, of which there
is one: they begin in their order, at most as many at once as the pool has room for, and one waits
only while there is no room. If no two of them end at the same moment, the pool comes to what the
plan decides, and until then each task has kept to its stint, so what has not begun by then never
begins. With room for one, the tasks run one after another until one fails, and with room for all,
the pool comes to what they come to all at once. -/
theorem pool_keeps_plan (room : 0 < limit)
    (takes : List.Forall₂ (Attempt.Takes world) attempts tasks) (now : Nat) (state : σ) :
    let plan := Plan.of limit now tasks
    let ending := (pool limit attempts).run.run world now state
    plan.Greedy limit now tasks ∧
    (∀ other : Plan ε α, other.Greedy limit now tasks → other = plan) ∧
    (plan.Apart →
      plan.Decides now ending.value ending.time ∧
      plan.Kept attempts ending.time ((pool limit attempts).run.exchanges world now state)) ∧
    (limit = 1 → ending = (numbered <$> attempts.mapM id).run.run world now state) ∧
    (attempts.length ≤ limit →
      (∀ stint ∈ plan, stint.start = now) ∧
      (plan.Apart →
        let joined := (Joining.eager.join attempts).run.run world now state
        joined.value = ending.value.map inOrder ∧ joined.time = ending.time)) := by
  intro plan ending
  have spans := spans_of_takes takes
  have greedy : plan.Greedy limit now tasks := Plan.greedy_of room
  have length : plan.length = (attempts.map (·.run)).length := by
    rw [List.length_map, takes.length_eq, greedy.stints.length_eq]
  have begins : ∀ stint ∈ plan, now ≤ stint.start ∧ stint.start < stint.finish := by
    intro stint mem
    obtain ⟨position, planned⟩ := List.getElem?_of_mem mem
    obtain ⟨task, listed, eq⟩ := greedy.getElem? planned
    have span := spans task (List.mem_of_getElem? listed)
    refine ⟨greedy.le_start stint mem, ?_⟩
    rw [eq]
    exact Nat.lt_add_of_pos_right span
  have outcome (apart : plan.Apart) : plan.Decides now ending.value ending.time ∧
      plan.Kept attempts ending.time ((pool limit attempts).run.exchanges world now state) := by
    obtain ⟨log, made, concluded⟩ := pool_concluded room takes now state
    obtain ⟨decides, tags, kept⟩ := concluded.decides_and_keeps state length begins apart
    refine ⟨decides, log, made, tags, fun position x stint listed planned => ?_⟩
    exact kept position x stint (by rw [List.getElem?_map, listed]; rfl) planned
  refine ⟨greedy, fun _ other => other.eq_of room spans, outcome, fun one => ?_, fun all => ?_⟩
  · exact runTogether_in_turn (prompt_latestFailure _) (fun none => absurd none (Nat.ne_of_gt room))
      (.inl (Nat.le_of_eq one)) now state
  · refine ⟨Plan.start_of_room spans room (takes.length_eq ▸ all), fun apart => ?_⟩
    exact (outcome apart).1.joined (pool_joined room all takes now state)

end Pool

namespace Errand

/-- Asks how an errand went that has a number. -/
def errands : Interface := ⟨Nat, fun _ => Except String Unit⟩

/-- The first errand takes three seconds, the second one fails after ten, the third one after two,
and the last one would take a second. -/
def tasks : List (Task String Unit) :=
  [⟨.ok (), 3⟩, ⟨.error "slow", 10⟩, ⟨.error "late", 2⟩, ⟨.ok (), 1⟩]

def outside : World errands Unit where
  answer _ _ (number : Nat) :=
    match tasks[number]? with
    | some task => (task.outcome, task.span, ())
    | none => (.ok (), 1, ())

def run (number : Nat) : Attempt errands String Unit := do
  let outcome ← Attempt.request (I := errands) number
  Attempt.ofExcept outcome

lemma takes (number : Nat) {task : Task String Unit} (listed : tasks[number]? = some task)
    (span : 0 < task.span) : (run number).Takes outside task := by
  refine ⟨span, fun start => ?_⟩
  have answered : outside.answer () start number = (task.outcome, task.span, ()) := by
    show (match tasks[number]? with | some task => _ | none => _) = _
    rw [listed]
    rfl
  have ends : (run number).Ends outside start () task.outcome (start + task.span) () :=
    (Attempt.ends_request answered).bind (Attempt.ends_ofExcept _)
  have comes := comes_of_stateless outside (run number).run start
  rwa [ends] at comes

end Errand

/-- The third errand begins when the first one ends and fails first, so the last one never
begins. -/
theorem pool_keeps_plan_sample :
    let attempts := [0, 1, 2, 3].map Errand.run
    let plan := Plan.of 2 0 Errand.tasks
    let ending := (pool 2 attempts).run.run Errand.outside 0 ()
    0 < 2 ∧ List.Forall₂ (Attempt.Takes Errand.outside) attempts Errand.tasks ∧ plan.Apart ∧
    plan.map (fun stint => (stint.start, stint.finish)) = [(0, 3), (0, 10), (3, 5), (5, 6)] ∧
    ending.value = .error "late" ∧ ending.time = 5 ∧
    plan.Decides 0 ending.value ending.time ∧
    plan.Kept attempts ending.time ((pool 2 attempts).run.exchanges Errand.outside 0 ()) := by
  intro attempts plan ending
  have takes : List.Forall₂ (Attempt.Takes Errand.outside) attempts Errand.tasks :=
    .cons (Errand.takes 0 rfl (by decide)) <|
      .cons (Errand.takes 1 rfl (by decide)) <|
        .cons (Errand.takes 2 rfl (by decide)) <|
          .cons (Errand.takes 3 rfl (by decide)) .nil
  have apart : plan.Apart := Plan.apart_of_nodup (by decide)
  obtain ⟨_, _, outcome, _⟩ := pool_keeps_plan (by decide : 0 < 2) takes 0 ()
  obtain ⟨decides, kept⟩ := outcome apart
  have value : ending.value = .error "late" := by decide +kernel
  have time : ending.time = 5 := by decide +kernel
  exact ⟨by decide, takes, apart, by decide, value, time, decides, kept⟩

end UpgradeDrill
