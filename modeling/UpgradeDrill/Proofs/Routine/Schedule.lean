import UpgradeDrill.Proofs.Routine.Join
import UpgradeDrill.Proofs.Routine.Plan

/-!
# Pools that keep to a plan

`OnSchedule` relates how far a pool has got to a plan of its members: each is under way from the
start of its stint on, and those that wait take the slots of those under way. It holds at the start,
and every step of a member preserves it.
-/

namespace UpgradeDrill

open Function Routine

variable {I : Interface} {ε α σ : Type}

/-- Whenever it begins, an attempt comes to the outcome of a task after the time of the task. -/
def Attempt.Takes (world : World I σ) (x : Attempt I ε α) (task : Task ε α) : Prop :=
  0 < task.span ∧ ∀ start, x.Comes world start task.outcome (start + task.span)

/-- The next that waits takes the place of a member that ends. -/
lemma Progress.finish_of_waiting {progress : Progress ε α} {next : Nat} {waiting : List Nat}
    (waits : progress.waiting = next :: waiting) (precedence : Precedence) (position : Nat)
    (outcome : Except ε α) :
    progress.finish precedence position outcome =
      { now := progress.now, line := precedence.lineUp ⟨progress.now + 0, next⟩ progress.line,
        waiting, outcomes := (position, outcome) :: progress.outcomes } := by
  unfold finish
  dsimp only
  rw [waits]
  rfl

section Members

variable (world : World I σ) (base : Nat) (xs : List (Routine I (Except ε α)))
  (tasks : List (Task ε α)) (plan : Plan ε α) (log : Log I)

/-- The routine in a position has got from the start of its stint to a part of it at a time, which
comes to the outcome of the stint when that ends. -/
def InStint (position : Nat) (part : Routine I (Except ε α)) (time : Nat) : Prop :=
  ∃ x stint, xs[position]? = some x ∧ plan[position]? = some stint ∧
    Reaches x stint.start (log.thread position) part time ∧
    part.Comes world time stint.outcome stint.finish

/-- The members of a pool keep to their stints. -/
structure OnSchedule (parts : Parts I (Except ε α)) (progress : Progress ε α) : Prop
    extends Under base xs log parts progress where
  running : ∀ turn ∈ progress.line, ∃ part, parts turn.position = some part ∧
    InStint world xs plan log turn.position part (base + turn.due)
  /-- Who is under way began with the pool, or when another ended. -/
  began : ∀ turn ∈ progress.line, ∀ stint, plan[turn.position]? = some stint →
    stint.start = base ∨ ∃ other ∈ progress.outcomes.map (·.1), ∃ stint',
      plan[other]? = some stint' ∧ stint'.finish = stint.start
  past : ∀ position outcome, (position, outcome) ∈ progress.outcomes →
    ∃ time, time ≤ base + progress.now ∧ InStint world xs plan log position (done outcome) time
  order : progress.outcomes.Pairwise fun later earlier => ∀ stint stint',
    plan[later.1]? = some stint → plan[earlier.1]? = some stint' → stint'.finish ≤ stint.finish
  /-- If nobody is under way any more, somebody has just ended. -/
  latest : progress.line = [] → plan = [] ∧ progress.now = 0 ∨
    ∃ entry ∈ progress.outcomes, ∃ stint, plan[entry.1]? = some stint ∧
      stint.finish = base + progress.now
  /-- Those that wait are planned for the slots of those under way. -/
  slots : ∀ next rest, progress.waiting = next :: rest →
    rest = (List.range plan.length).drop (next + 1) ∧ ∃ free, free.Pairwise (· ≤ ·) ∧
      free.Perm (plan.finishes (progress.line.map (·.position))) ∧
      plan.drop next = Plan.fill free (tasks.drop next)

end Members

namespace OnSchedule

variable {world : World I σ} {base : Nat} {xs : List (Routine I (Except ε α))}
  {tasks : List (Task ε α)} {plan : Plan ε α} {log : Log I} {parts : Parts I (Except ε α)}
  {progress : Progress ε α}

/-- Time goes on until the next turn is due. -/
lemma advance {turn : Turn} {line : List Turn}
    (schedule : OnSchedule world base xs tasks plan log parts progress)
    (eq : progress.line = turn :: line) :
    OnSchedule world base xs tasks plan log parts
      (Progress.goOn turn.position { progress with now := turn.due, line }) := by
  have due := (schedule.line turn (eq ▸ List.mem_cons_self)).1
  refine ⟨schedule.toUnder.advance eq, fun other mem => ?_, fun other mem => ?_,
    fun position outcome mem => ?_, schedule.order, nofun, fun next rest waits => ?_⟩
  · have mem : other ∈ turn :: line := mem
    exact schedule.running other (eq ▸ mem)
  · have mem : other ∈ turn :: line := mem
    exact schedule.began other (eq ▸ mem)
  · obtain ⟨time, le, inStint⟩ := schedule.past position outcome mem
    exact ⟨time, Nat.le_trans le (Nat.add_le_add_left due base), inStint⟩
  · have slots := schedule.slots next rest waits
    rw [eq] at slots
    exact slots

/-- Something happens to one member, which waits for a turn with what is left of it. -/
lemma move {position due : Nat} {part : Routine I (Except ε α)} {line : List Turn} {own : Log I}
    (schedule : OnSchedule world base xs tasks plan log parts (progress.goOn position))
    (under : Under base xs (log ++ own) (update parts position (some part)) { progress with line })
    (perm : line.Perm (⟨due, position⟩ :: progress.line))
    (tags : ∀ entry ∈ own, entry.1 = position)
    (inStint : InStint world xs plan (log ++ own) position part (base + due)) :
    OnSchedule world base xs tasks plan (log ++ own) (update parts position (some part))
      { progress with line } := by
  obtain ⟨notInLine, _, notEnded⟩ := schedule.alone
  have keep {other : Nat} (ne : other ≠ position) {part : Routine I (Except ε α)} {time : Nat}
      (inStint : InStint world xs plan log other part time) :
      InStint world xs plan (log ++ own) other part time := by
    unfold InStint
    rwa [Log.thread_append_of_ne tags ne]
  refine ⟨under, fun turn mem => ?_, fun turn mem => ?_, fun other outcome mem => ?_,
    schedule.order, fun eq => ?_, fun next rest waits => ?_⟩
  · rcases List.mem_cons.1 (perm.mem_iff.1 mem) with rfl | mem
    · exact ⟨part, update_self .., inStint⟩
    · have ne : turn.position ≠ position :=
        fun eq => notInLine (eq ▸ List.mem_map_of_mem mem)
      obtain ⟨part, eq, inStint⟩ := schedule.running turn (List.mem_cons_of_mem _ mem)
      exact ⟨part, by rwa [update_of_ne ne], keep ne inStint⟩
  · rcases List.mem_cons.1 (perm.mem_iff.1 mem) with rfl | mem
    · exact schedule.began ⟨progress.now, position⟩ List.mem_cons_self
    · exact schedule.began turn (List.mem_cons_of_mem _ mem)
  · have ne : other ≠ position := fun eq => notEnded (eq ▸ List.mem_map_of_mem mem)
    obtain ⟨time, le, inStint⟩ := schedule.past other outcome mem
    exact ⟨time, le, keep ne inStint⟩
  · obtain rfl : line = [] := eq
    cases perm.nil_eq
  · obtain ⟨after, free, sorted, slots, rest⟩ := schedule.slots next rest waits
    have positions : (line.map (·.position)).Perm
        ((progress.goOn position).line.map (·.position)) := perm.map (·.position)
    exact ⟨after, free, sorted, slots.trans (positions.filterMap _).symm, rest⟩

/-- The member that goes on has something left of its stint. -/
lemma own {position : Nat} {part : Routine I (Except ε α)}
    (schedule : OnSchedule world base xs tasks plan log parts (progress.goOn position))
    (eq : parts position = some part) :
    InStint world xs plan log position part (base + progress.now) := by
  obtain ⟨part', same, inStint⟩ := schedule.running ⟨progress.now, position⟩ List.mem_cons_self
  cases eq.symm.trans same
  exact inStint

lemma asked {position : Nat} {request : I.Request}
    {left : I.Reply request → (took : Nat) → Routine I (Except ε α)} {reply : I.Reply request}
    {took : Nat} (schedule : OnSchedule world base xs tasks plan log parts (progress.goOn position))
    (eq : parts position = some (ask request left))
    (gives : world.Gives ⟨base + progress.now, request, reply, took⟩) :
    OnSchedule world base xs tasks plan
      (log ++ [(position, ⟨base + progress.now, request, reply, took⟩)])
      (update parts position (some (left reply took))) (progress.goOn position) := by
  obtain ⟨x, stint, listed, planned, before, comes⟩ := schedule.own eq
  refine schedule.move (schedule.toUnder.asked eq reply took) (.refl _) (fun entry mem => ?_)
    ⟨x, stint, listed, planned, ?_, comes.of_ask gives⟩
  · rw [List.mem_singleton.1 mem]
  · rw [Log.thread_append, Log.thread_self]
    exact before.trans (.ask .here)

lemma waited {position pause : Nat} {left : Routine I (Except ε α)} {line : List Turn}
    (schedule : OnSchedule world base xs tasks plan log parts (progress.goOn position))
    (eq : parts position = some (wait pause left))
    (perm : line.Perm (⟨progress.now + pause, position⟩ :: progress.line))
    (sorted : line.Pairwise (·.due ≤ ·.due)) :
    OnSchedule world base xs tasks plan log (update parts position (some left))
      { progress with line } := by
  obtain ⟨x, stint, listed, planned, before, comes⟩ := schedule.own eq
  have under : Under base xs (log ++ []) (update parts position (some left))
      { progress with line } := by
    rw [List.append_nil]
    exact schedule.toUnder.waited eq perm sorted
  have further := before.trans (.wait .here)
  rw [Nat.add_assoc] at further
  have comes := comes.of_wait
  rw [Nat.add_assoc] at comes
  have moved := schedule.move under perm (List.forall_mem_nil _)
    ⟨x, stint, listed, planned, by simpa using further, comes⟩
  rwa [List.append_nil] at moved

lemma clocked {position : Nat} {left : (now : Nat) → Routine I (Except ε α)}
    (schedule : OnSchedule world base xs tasks plan log parts (progress.goOn position))
    (eq : parts position = some (clock left)) :
    OnSchedule world base xs tasks plan log
      (update parts position (some (left (base + progress.now)))) (progress.goOn position) := by
  obtain ⟨x, stint, listed, planned, before, comes⟩ := schedule.own eq
  have under : Under base xs (log ++ []) (update parts position (some (left (base + progress.now))))
      (progress.goOn position) := by
    rw [List.append_nil]
    exact schedule.toUnder.clocked eq
  have further := before.trans (.clock .here)
  have moved := schedule.move under (.refl _) (List.forall_mem_nil _)
    ⟨x, stint, listed, planned, by simpa using further, comes.of_clock⟩
  rwa [List.append_nil] at moved

/-- Nobody who is under way ends before now. -/
lemma le_of_mem_finishes (schedule : OnSchedule world base xs tasks plan log parts progress)
    (state : σ) {time : Nat} (mem : time ∈ plan.finishes (progress.line.map (·.position))) :
    base + progress.now ≤ time := by
  obtain ⟨_, listed, ends⟩ := List.mem_filterMap.1 mem
  obtain ⟨turn, inLine, rfl⟩ := List.mem_map.1 listed
  obtain ⟨_, _, x, stint, _, planned, _, comes⟩ := schedule.running turn inLine
  rw [planned] at ends
  cases ends
  exact Nat.le_trans (Nat.add_le_add_left (schedule.line turn inLine).1 base) (comes.le state)

/-- The slot of a member that ends is planned for the next that waits. -/
lemma slot_freed {position next : Nat} {waiting : List Nat} {stint : Stint ε α} (state : σ)
    (length : plan.length = xs.length)
    (schedule : OnSchedule world base xs tasks plan log parts (progress.goOn position))
    (planned : plan[position]? = some stint) (now : base + progress.now = stint.finish)
    (waits : progress.waiting = next :: waiting) :
    ∃ (task : Task ε α) (free : List Nat),
      plan[next]? = some (task.stint stint.finish) ∧ free.Pairwise (· ≤ ·) ∧
      free.Perm (plan.finishes (progress.line.map (·.position))) ∧
      plan.drop (next + 1) = Plan.fill (free.orderedInsert (· ≤ ·) (stint.finish + task.span))
        (tasks.drop (next + 1)) := by
  obtain ⟨after, free, sorted, perm, rest⟩ := schedule.slots next waiting waits
  have perm : free.Perm (stint.finish :: plan.finishes (progress.line.map (·.position))) := by
    rwa [← Plan.finishes_cons planned]
  have least : ∀ time ∈ plan.finishes (progress.line.map (·.position)), stint.finish ≤ time := by
    intro time mem
    obtain ⟨other, inLine, ends⟩ := List.mem_filterMap.1 mem
    rw [← now]
    exact schedule.le_of_mem_finishes state
      (List.mem_filterMap.2 ⟨other, List.mem_cons_of_mem _ inLine, ends⟩)
  obtain ⟨free, rfl, others⟩ := eq_cons_of_perm sorted perm least
  have mem : next ∈ (progress.goOn position).waiting := by
    rw [show (progress.goOn position).waiting = next :: waiting from waits]
    exact List.mem_cons_self
  obtain ⟨_, listed, _⟩ := schedule.waiting next mem
  have lt : next < plan.length := length ▸ (List.getElem?_eq_some_iff.1 listed).1
  cases later : tasks.drop next with
  | nil =>
    rw [later, Plan.fill_nil] at rest
    exact absurd lt (Nat.not_lt.2 (List.drop_eq_nil_iff.1 rest))
  | cons task tasks' =>
    rw [later, Plan.fill] at rest
    refine ⟨task, free, ?_, (List.pairwise_cons.1 sorted).2, others, ?_⟩
    · rw [← List.head?_drop, rest]
      rfl
    · rw [← List.tail_drop, rest, ← List.tail_drop, later]
      rfl

/-- What has ended so far ended with its stint. -/
lemma past_of_done {position : Nat} {outcome : Except ε α}
    (schedule : OnSchedule world base xs tasks plan log parts (progress.goOn position))
    (ended : parts position = some (done outcome)) :
    ∀ other result, (other, result) ∈ (position, outcome) :: progress.outcomes →
      ∃ time, time ≤ base + progress.now ∧ InStint world xs plan log other (done result) time := by
  intro other result mem
  rcases List.mem_cons.1 mem with eq | mem
  · cases eq
    exact ⟨_, Nat.le_refl _, schedule.own ended⟩
  · exact schedule.past other result mem

/-- A member ends after all that have ended before. -/
lemma order_of_done {position : Nat} {outcome : Except ε α}
    (schedule : OnSchedule world base xs tasks plan log parts (progress.goOn position))
    (ended : parts position = some (done outcome)) :
    ((position, outcome) :: progress.outcomes).Pairwise fun later earlier => ∀ stint stint',
      plan[later.1]? = some stint → plan[earlier.1]? = some stint' →
        stint'.finish ≤ stint.finish := by
  refine List.pairwise_cons.2 ⟨fun earlier mem stint stint' planned planned' => ?_,
    schedule.order⟩
  obtain ⟨_, _, _, same, _, own⟩ := schedule.own ended
  cases planned.symm.trans same
  obtain ⟨time, le, _, _, _, same, _, earlierOwn⟩ := schedule.past earlier.1 earlier.2 mem
  cases planned'.symm.trans same
  rw [← earlierOwn.of_done.2, ← own.of_done.2]
  exact le

/-- A member ends with its stint, and the next that waits begins then. -/
lemma finish {position : Nat} {outcome : Except ε α} (precedence : Precedence) (state : σ)
    (length : plan.length = xs.length)
    (comes : ∀ (other : Nat) x stint, xs[other]? = some x → plan[other]? = some stint →
      x.Comes world stint.start stint.outcome stint.finish)
    (schedule : OnSchedule world base xs tasks plan log parts (progress.goOn position))
    (ended : parts position = some (done outcome)) :
    OnSchedule world base xs tasks plan log (update parts position none)
      (progress.finish precedence position outcome) := by
  obtain ⟨notInLine, notWaiting, _⟩ := schedule.alone
  obtain ⟨_, stint, _, planned, _, own⟩ := schedule.own ended
  obtain ⟨rfl, now⟩ := own.of_done
  have under := schedule.toUnder.finish precedence ended
  have running : ∀ turn ∈ progress.line, ∃ part,
      update parts position none turn.position = some part ∧
        InStint world xs plan log turn.position part (base + turn.due) := by
    intro turn mem
    have ne : turn.position ≠ position := fun eq => notInLine (eq ▸ List.mem_map_of_mem mem)
    obtain ⟨part, eq, inStint⟩ := schedule.running turn (List.mem_cons_of_mem _ mem)
    exact ⟨part, by rwa [update_of_ne ne], inStint⟩
  have began : ∀ turn ∈ progress.line, ∀ stint', plan[turn.position]? = some stint' →
      stint'.start = base ∨ ∃ other ∈ position :: progress.outcomes.map (·.1), ∃ stint'',
        plan[other]? = some stint'' ∧ stint''.finish = stint'.start := by
    intro turn mem stint' planned'
    refine (schedule.began turn (List.mem_cons_of_mem _ mem) stint' planned').imp_right ?_
    rintro ⟨other, mem, after⟩
    exact ⟨other, List.mem_cons_of_mem _ mem, after⟩
  have past := schedule.past_of_done ended
  have order := schedule.order_of_done ended
  cases waits : progress.waiting with
  | nil =>
    -- Nobody is left to take the slot.
    rw [Progress.finish_of_begun waits] at under ⊢
    refine ⟨under, running, began, past, order, fun _ => .inr ?_, fun next rest eq => ?_⟩
    · exact ⟨_, List.mem_cons_self, stint, planned, now.symm⟩
    · cases waits.symm.trans eq
  | cons next waiting =>
    -- The next that waits takes the slot, as it is planned.
    obtain ⟨task, free, planned', sorted, perm, rest⟩ :=
      schedule.slot_freed state length planned now waits
    have mem : next ∈ progress.waiting := waits ▸ List.mem_cons_self
    obtain ⟨x', listed', part', fresh⟩ := schedule.waiting next mem
    have ne : next ≠ position := fun eq => notWaiting (eq ▸ mem)
    have lined := precedence.lineUp_perm ⟨progress.now + 0, next⟩ progress.line
    rw [Progress.finish_of_waiting waits] at under ⊢
    refine ⟨under, fun turn mem => ?_, fun turn mem => ?_, past, order, fun eq => ?_,
      fun next' rest' eq => ?_⟩
    · rcases List.mem_cons.1 (lined.mem_iff.1 mem) with rfl | mem
      · refine ⟨x', by rwa [update_of_ne ne], x', _, listed', planned', ?_, ?_⟩
        · rw [fresh]
          exact now ▸ .here
        · exact now ▸ comes next x' _ listed' planned'
      · exact running turn mem
    · rcases List.mem_cons.1 (lined.mem_iff.1 mem) with rfl | mem
      · intro stint' same
        cases planned'.symm.trans same
        exact .inr ⟨position, List.mem_cons_self, stint, planned, rfl⟩
      · exact began turn mem
    · obtain eq : precedence.lineUp ⟨progress.now + 0, next⟩ progress.line = [] := eq
      rw [eq] at lined
      cases lined.nil_eq
    · have after := (schedule.slots next waiting waits).1
      obtain ⟨rfl, after'⟩ := drop_range_eq_cons (after.symm.trans eq)
      refine ⟨after', free.orderedInsert (· ≤ ·) (stint.finish + task.span),
        sorted.orderedInsert _ _, ?_, rest⟩
      have positions := (lined.map (·.position)).filterMap fun other => plan[other]?.map (·.finish)
      refine .trans ?_ positions.symm
      refine .trans ?_ (.of_eq (Plan.finishes_cons planned' _).symm)
      exact (List.perm_orderedInsert ..).trans (perm.cons _)

/-- Nothing has happened to a pool that starts. -/
lemma start {limit : Nat} (room : 0 < limit) (spans : ∀ task ∈ tasks, 0 < task.span)
    (length : (Plan.of limit base tasks).length = xs.length)
    (comes : ∀ (position : Nat) x stint, xs[position]? = some x →
      (Plan.of limit base tasks)[position]? = some stint →
      x.Comes world stint.start stint.outcome stint.finish) :
    OnSchedule world base xs tasks (Plan.of limit base tasks) [] (xs[·]?)
      (.start limit xs.length) := by
  obtain ⟨starts, free, sorted, perm, rest⟩ :=
    Plan.fill_replicate spans limit .nil (List.forall_mem_nil (base ≤ ·))
  rw [List.append_nil] at starts perm rest
  have line : (Progress.start limit xs.length : Progress ε α).line.map (·.position) =
      (List.range (Plan.of limit base tasks).length).take limit := by
    rw [Progress.start, List.map_map, length]
    exact List.map_id _
  have begins {position : Nat} (mem : position ∈ (List.range xs.length).take limit) :
      ∃ stint, (Plan.of limit base tasks)[position]? = some stint ∧ stint.start = base := by
    obtain ⟨index, lt, rfl⟩ := List.mem_take_iff_getElem.1 mem
    rw [List.length_range, ← length] at lt
    rw [List.getElem_range]
    exact ⟨_, List.getElem?_eq_getElem (Nat.lt_of_lt_of_le lt (Nat.min_le_right ..)),
      starts _ (List.mem_take_iff_getElem.2 ⟨index, lt, rfl⟩)⟩
  have under : Under base xs [] (xs[·]?) (.start limit xs.length) :=
    Under.start base xs fun none => absurd none (Nat.ne_of_gt room)
  refine ⟨under, fun turn mem => ?_, fun turn mem stint planned => ?_,
    fun position outcome mem => ?_, .nil, fun eq => ?_, fun next waiting waits => ?_⟩
  · obtain ⟨position, taken, rfl⟩ := List.mem_map.1 mem
    obtain ⟨stint, planned, begin⟩ := begins taken
    obtain ⟨_, x, listed, _⟩ := under.line _ mem
    refine ⟨x, listed, x, stint, listed, planned, ?_, ?_⟩
    · exact begin ▸ .here
    · exact begin ▸ comes position x stint listed planned
  · obtain ⟨position, taken, rfl⟩ := List.mem_map.1 mem
    obtain ⟨_, planned', begin⟩ := begins taken
    cases planned.symm.trans planned'
    exact .inl begin
  · cases mem
  · rw [eq] at line
    rcases List.take_eq_nil_iff.1 line.symm with none | none
    · exact absurd none (Nat.ne_of_gt room)
    · exact .inl ⟨List.eq_nil_of_length_eq_zero (List.range_eq_nil.1 none), rfl⟩
  · have waits : (List.range xs.length).drop limit = next :: waiting := waits
    obtain ⟨rfl, rfl⟩ := drop_range_eq_cons waits
    refine ⟨by rw [length], free, sorted, ?_, rest⟩
    rw [line, Plan.finishes_take]
    exact perm

/-- A member is under way, or waits and begins later, or its stint is over. -/
lemma place {position : Nat} {stint : Stint ε α} (state : σ) (length : plan.length = xs.length)
    (schedule : OnSchedule world base xs tasks plan log parts progress)
    (planned : plan[position]? = some stint) :
    (∃ turn ∈ progress.line, turn.position = position) ∨
      (position ∈ progress.waiting ∧ log.thread position = [] ∧
        base + progress.now ≤ stint.start) ∨
      ((position, stint.outcome) ∈ progress.outcomes ∧ stint.finish ≤ base + progress.now ∧
        ∃ x, xs[position]? = some x ∧
          Reaches x stint.start (log.thread position) (done stint.outcome) stint.finish) := by
  have inRange := List.mem_range.2 (length ▸ (List.getElem?_eq_some_iff.1 planned).1)
  rcases List.mem_append.1 (schedule.positions.mem_iff.2 inRange) with mem | mem
  · rcases List.mem_append.1 mem with mem | waits
    · exact .inl (List.mem_map.1 mem)
    · obtain ⟨_, _, _, none⟩ := schedule.waiting position waits
      refine .inr (.inl ⟨waits, none, ?_⟩)
      cases eq : progress.waiting with
      | nil =>
        rw [eq] at waits
        cases waits
      | cons next rest =>
        obtain ⟨rfl, free, _, perm, planned'⟩ := schedule.slots next rest eq
        have behind : next ≤ position := by
          rw [eq] at waits
          rcases List.mem_cons.1 waits with rfl | mem
          · exact Nat.le_refl _
          · obtain ⟨index, _, rfl⟩ := List.mem_drop_iff_getElem.1 mem
            rw [List.getElem_range]
            omega
        have mem : stint ∈ Plan.fill free (tasks.drop next) := by
          refine planned' ▸ List.mem_of_getElem? (i := position - next) ?_
          rwa [List.getElem?_drop, Nat.add_sub_cancel' behind]
        refine Plan.le_start_of_mem_fill (fun time mem => ?_) stint mem
        exact schedule.le_of_mem_finishes state (perm.mem_iff.1 mem)
  · obtain ⟨⟨_, outcome⟩, inOutcomes, rfl⟩ := List.mem_map.1 mem
    obtain ⟨time, le, x, stint', listed, same, path, comes⟩ := schedule.past _ _ inOutcomes
    cases planned.symm.trans same
    obtain ⟨rfl, rfl⟩ := comes.of_done
    exact .inr (.inr ⟨inOutcomes, le, x, listed, path⟩)

end OnSchedule

end UpgradeDrill
