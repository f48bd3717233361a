import Mathlib.Algebra.BigOperators.Intervals
import UpgradeDrill.Proofs.Routine.Pool

/-!
# Bounded routines

`Within` bounds what a routine can do, whatever it is told: how many requests it makes, and how long
it takes beyond the time that the replies take to arrive. Each way of building an attempt has a
rule, and the bound of a whole is put together from those of its parts. A pool does no more than its
members do one after another (`within_runTogether`), since it only lets time pass that one of them
waits for.
-/

namespace UpgradeDrill

open Function Routine

/-- The time that the replies of exchanges took to arrive. -/
def replyTime {I : Interface} (es : List (Exchange I)) : Nat := (es.map (·.took)).sum

lemma replyTime_append {I : Interface} (es es' : List (Exchange I)) :
    replyTime (es ++ es') = replyTime es + replyTime es' := by
  rw [replyTime, List.map_append, List.sum_append]
  rfl

namespace Routine

variable {I : Interface} {α β : Type} {count count' span span' : Nat}

/-- Whatever a routine is told from a time on, it makes at most a number of requests, and takes no
longer than the replies take to arrive and a time of its own. -/
def WithinAt (count span now : Nat) (r : Routine I α) : Prop :=
  ∀ ⦃es rest finish⦄, Reaches r now es rest finish →
    es.length ≤ count ∧ finish ≤ now + span + replyTime es

/-- Whatever a routine is told, it makes at most a number of requests, and takes no longer than the
replies take to arrive and a time of its own. -/
def Within (count span : Nat) (r : Routine I α) : Prop :=
  ∀ now, r.WithinAt count span now

lemma WithinAt.mono {r : Routine I α} {now : Nat} (within : r.WithinAt count span now)
    (more : count ≤ count') (longer : span ≤ span') : r.WithinAt count' span' now := by
  intro es rest finish path
  obtain ⟨few, short⟩ := within path
  exact ⟨Nat.le_trans few more, by omega⟩

lemma Within.mono {r : Routine I α} (within : r.Within count span) (more : count ≤ count')
    (longer : span ≤ span') : r.Within count' span' :=
  fun now => (within now).mono more longer

lemma within_done (value : α) : (done value : Routine I α).Within 0 0 := by
  intro now es rest finish path
  obtain ⟨rfl, _, rfl⟩ := reaches_done_iff.1 path
  exact ⟨Nat.le_refl _, Nat.le_add_right ..⟩

/-- A request counts as one, and the time of its reply is added to what the rest may take. -/
lemma withinAt_ask_iff {request : I.Request} {next : I.Reply request → Nat → Routine I α}
    {now : Nat} : (ask request next).WithinAt count span now ↔
      ∀ reply took, 0 < count ∧ (next reply took).WithinAt (count - 1) (span + took) now := by
  constructor
  · intro within reply took
    have path : Reaches (ask request next) now [⟨now, request, reply, took⟩]
        (next reply took) now := .ask .here
    have one : 0 < count := (within path).1
    refine ⟨one, fun es rest finish path => ?_⟩
    obtain ⟨few, short⟩ := within (.ask path)
    rw [List.length_cons] at few
    have sum : replyTime (⟨now, request, reply, took⟩ :: es) = took + replyTime es := rfl
    exact ⟨by omega, by omega⟩
  · intro next es rest finish path
    cases path with
    | here => exact ⟨Nat.zero_le _, by rw [replyTime, List.map_nil, List.sum_nil]; omega⟩
    | @ask _ _ _ reply took es _ _ path =>
      obtain ⟨one, within⟩ := next reply took
      obtain ⟨few, short⟩ := within path
      have sum : replyTime (⟨now, request, reply, took⟩ :: es) = took + replyTime es := rfl
      rw [List.length_cons]
      exact ⟨by omega, by omega⟩

/-- A wait takes its time from what the rest may take. -/
lemma withinAt_wait_iff {pause now : Nat} {next : Routine I α} :
    (wait pause next).WithinAt count span now ↔
      pause ≤ span ∧ next.WithinAt count (span - pause) (now + pause) := by
  constructor
  · intro within
    have fits : pause ≤ span := by
      have path : Reaches (wait pause next) now [] next (now + pause) := .wait .here
      have short := (within path).2
      rw [replyTime, List.map_nil, List.sum_nil] at short
      omega
    refine ⟨fits, fun es rest finish path => ?_⟩
    obtain ⟨few, short⟩ := within (.wait path)
    exact ⟨few, by omega⟩
  · rintro ⟨fits, within⟩ es rest finish path
    cases path with
    | here => exact ⟨Nat.zero_le _, by omega⟩
    | wait path =>
      obtain ⟨few, short⟩ := within path
      exact ⟨few, by omega⟩

/-- The rest knows what the clock reads. -/
lemma withinAt_clock_iff {next : Nat → Routine I α} {now : Nat} :
    (clock next).WithinAt count span now ↔ (next now).WithinAt count span now := by
  constructor
  · exact fun within es rest finish path => within (.clock path)
  · intro within es rest finish path
    cases path with
    | here => exact ⟨Nat.zero_le _, by omega⟩
    | clock path => exact within path

lemma Within.bind {r : Routine I α} {f : α → Routine I β} (first : r.Within count span)
    (second : ∀ value, (f value).Within count' span') :
    (r >>= f).Within (count + count') (span + span') := by
  intro now es rest finish path
  rcases path.bind_cases with ⟨left, path, _⟩ | ⟨es₁, es₂, value, time, rfl, left, right⟩
  · obtain ⟨few, short⟩ := first _ path
    exact ⟨by omega, by omega⟩
  · obtain ⟨few, short⟩ := first _ left
    obtain ⟨few', short'⟩ := second value _ right
    rw [List.length_append, replyTime_append]
    exact ⟨by omega, by omega⟩

lemma Within.map {r : Routine I α} (f : α → β) (within : r.Within count span) :
    (f <$> r).Within count span :=
  within.bind fun value => within_done (f value)

lemma Within.timed {r : Routine I α} (within : r.Within count span) :
    r.timed.Within count span := by
  intro now es rest finish path
  obtain ⟨left, path, _⟩ := path.timedFrom_cases
  exact within _ path

lemma within_request (request : I.Request) : (Routine.request request).Within 1 0 := by
  refine fun now => withinAt_ask_iff.2 fun reply took => ⟨Nat.one_pos, withinAt_wait_iff.2 ?_⟩
  exact ⟨Nat.le_add_left .., (within_done _ _).mono (Nat.zero_le _) (Nat.zero_le _)⟩

lemma within_sleep (pause : Nat) : (Routine.sleep pause : Routine I Unit).Within 0 pause :=
  fun _ =>
    withinAt_wait_iff.2 ⟨Nat.le_refl _, (within_done _ _).mono (Nat.le_refl _) (Nat.zero_le _)⟩

lemma within_readClock : (Routine.readClock : Routine I Nat).Within 0 0 :=
  fun now => withinAt_clock_iff.2 (within_done now now)

end Routine

namespace Attempt

variable {I : Interface} {ε ε' α β : Type} {count count' span span' : Nat}

/-- Whatever an attempt is told, it makes at most a number of requests, and takes no longer than the
replies take to arrive and a time of its own. -/
def Within (count span : Nat) (x : Attempt I ε α) : Prop := x.run.Within count span

lemma Within.mono {x : Attempt I ε α} (within : x.Within count span) (more : count ≤ count')
    (longer : span ≤ span') : x.Within count' span' :=
  Routine.Within.mono within more longer

lemma within_pure (value : α) : (pure value : Attempt I ε α).Within 0 0 :=
  within_done (Except.ok value)

lemma within_throw (error : ε) : (throw error : Attempt I ε α).Within 0 0 :=
  within_done (Except.error error)

lemma within_ofExcept (result : Except ε α) : (ofExcept result : Attempt I ε α).Within 0 0 :=
  within_done result

/-- The second part of a bind is bounded for what the first part gives. -/
lemma Within.bind_returns {V : α → Prop} {x : Attempt I ε α} {f : α → Attempt I ε β}
    (first : x.Within count span) (returns : x.Returns V)
    (second : ∀ value, V value → (f value).Within count' span') :
    (x >>= f).Within (count + count') (span + span') := by
  intro now es rest finish path
  rcases reaches_bind_cases path with ⟨left, path, _⟩ | ⟨es₁, es₂, value, time, rfl, left, right⟩
  · obtain ⟨few, short⟩ := first _ path
    exact ⟨by omega, by omega⟩
  · obtain ⟨few, short⟩ := first _ left
    obtain ⟨few', short'⟩ := second value (returns left) _ right
    rw [List.length_append, replyTime_append]
    exact ⟨by omega, by omega⟩

lemma Within.bind {x : Attempt I ε α} {f : α → Attempt I ε β} (first : x.Within count span)
    (second : ∀ value, (f value).Within count' span') :
    (x >>= f).Within (count + count') (span + span') :=
  first.bind_returns (fun _ _ _ _ _ => trivial) fun value (_ : True) => second value

/-- The second part of a bind may do what the first part leaves of a bound. -/
lemma Within.bind_rest {x : Attempt I ε α} {f : α → Attempt I ε β} (first : x.Within count span)
    (more : count ≤ count') (longer : span ≤ span')
    (second : ∀ value, (f value).Within (count' - count) (span' - span)) :
    (x >>= f).Within count' span' :=
  (first.bind second).mono (by omega) (by omega)

lemma Within.map {x : Attempt I ε α} (f : α → β) (within : x.Within count span) :
    (f <$> x).Within count span := by
  rw [map_eq_pure_bind]
  exact within.bind fun value => within_pure (f value)

lemma Within.widen {x : Attempt I ε α} (g : ε → ε') (within : x.Within count span) :
    (x.widen g).Within count span :=
  Routine.Within.map _ within

lemma Within.outcome {x : Attempt I ε α} (within : x.Within count span) :
    (Attempt.outcome x : Attempt I ε' _).Within count span :=
  Routine.Within.map _ within

lemma Within.timed {x : Attempt I ε α} (within : x.Within count span) :
    (Attempt.timed x : Attempt I ε' _).Within count span :=
  Routine.Within.map _ (Routine.Within.timed within)

lemma within_request (request : I.Request) :
    (Attempt.request request : Attempt I ε _).Within 1 0 :=
  Routine.Within.map _ (Routine.within_request request)

lemma within_sleep (pause : Nat) : (Attempt.sleep pause : Attempt I ε Unit).Within 0 pause :=
  Routine.Within.map _ (Routine.within_sleep pause)

lemma within_readClock : (Attempt.readClock : Attempt I ε Nat).Within 0 0 :=
  Routine.Within.map _ Routine.within_readClock

lemma Within.forM {γ : Type} {list : List γ} {f : γ → Attempt I ε PUnit}
    (within : ∀ item ∈ list, (f item).Within count span) :
    (list.forM f).Within (list.length * count) (list.length * span) := by
  induction list with
  | nil => exact (within_pure _).mono (Nat.zero_le _) (Nat.zero_le _)
  | cons item rest ih =>
    rw [List.length_cons, Nat.succ_mul, Nat.succ_mul, Nat.add_comm _ count, Nat.add_comm _ span]
    exact (within item List.mem_cons_self).bind fun _ =>
      ih fun item mem => within item (List.mem_cons_of_mem _ mem)

/-- What a bounded attempt does in a world. -/
theorem Within.run {x : Attempt I ε α} (within : x.Within count span) {σ : Type}
    (world : World I σ) (now : Nat) (state : σ) :
    (x.run.exchanges world now state).length ≤ count ∧
      (x.run.run world now state).time ≤
        now + span + replyTime (x.run.exchanges world now state) :=
  within now (reaches_run world x.run now state)

end Attempt

section Pool

variable {I : Interface} {ε α : Type} {discipline : Discipline ε α} {base : Nat}
  {xs : List (Routine I (Except ε α))} {counts spans : Nat → Nat}

/-- The time until the turns in a line are due, all added up. -/
def slack (now : Nat) (line : List Turn) : Nat := (line.map (·.due - now)).sum

lemma slack_perm {now : Nat} {line line' : List Turn} (perm : line.Perm line') :
    slack now line = slack now line' :=
  (perm.map _).sum_eq

lemma slack_cons (now : Nat) (turn : Turn) (line : List Turn) :
    slack now (turn :: line) = turn.due - now + slack now line := rfl

/-- When time goes on there is less time until the turns are due. -/
lemma slack_le {now later : Nat} {line : List Turn} (le : now ≤ later) :
    slack later line ≤ slack now line := by
  induction line with
  | nil => exact Nat.le_refl _
  | cons turn line ih =>
    rw [slack_cons, slack_cons]
    omega

lemma slack_goOn (position : Nat) (progress : Progress ε α) :
    slack (progress.goOn position).now (progress.goOn position).line =
      slack progress.now progress.line := by
  rw [Progress.goOn, slack_cons, Nat.sub_self, Nat.zero_add]

lemma slack_wait (precedence : Precedence) (position pause : Nat) (progress : Progress ε α) :
    slack (progress.wait precedence position pause).now
        (progress.wait precedence position pause).line =
      pause + slack progress.now progress.line := by
  have perm := precedence.lineUp_perm ⟨progress.now + pause, position⟩ progress.line
  refine (slack_perm perm).trans ?_
  rw [slack_cons]
  dsimp only [Progress.wait]
  omega

/-- A member that ends takes no time, nor does the one that begins in its place. -/
lemma slack_finish (precedence : Precedence) (position : Nat) (outcome : Except ε α)
    (progress : Progress ε α) :
    slack (progress.finish precedence position outcome).now
      (progress.finish precedence position outcome).line = slack progress.now progress.line := by
  unfold Progress.finish
  dsimp only
  split
  · rfl
  · rename_i next _ _
    exact (slack_wait precedence next 0 progress).trans (Nat.zero_add _)

/-- The member that goes on stands in the list. -/
lemma Under.position_lt {log : Log I} {parts : Parts I (Except ε α)} {progress : Progress ε α}
    {position : Nat} (under : Under base xs log parts (progress.goOn position)) :
    position < xs.length := by
  obtain ⟨_, _, _, x, _, listed, _⟩ := under.line ⟨progress.now, position⟩ List.mem_cons_self
  exact (List.getElem?_eq_some_iff.1 listed).1

/-- One of some numbers is changed. -/
lemma sum_update {n position : Nat} (lt : position < n) (f : Nat → Nat) (value : Nat) :
    ∑ other ∈ Finset.range n, update f position value other + f position =
      ∑ other ∈ Finset.range n, f other + value := by
  have mem := Finset.mem_range.2 lt
  rw [Finset.sum_update_of_mem mem, Finset.sdiff_singleton_eq_erase,
    ← Finset.sum_erase_add _ f mem]
  omega

/-- What is left of the members is bounded, each with bounds of its own: of those that are under way
from their turns on, and of the others whenever they begin. -/
structure Allowed (base : Nat) (counts spans : Nat → Nat) (parts : Parts I (Except ε α))
    (progress : Progress ε α) : Prop where
  line : ∀ turn ∈ progress.line, ∀ part, parts turn.position = some part →
    part.WithinAt (counts turn.position) (spans turn.position) (base + turn.due)
  waiting : ∀ position ∈ progress.waiting, ∀ part, parts position = some part →
    part.Within (counts position) (spans position)

namespace Allowed

variable {log : Log I} {parts : Parts I (Except ε α)} {progress : Progress ε α}

lemma own {position : Nat} {part : Routine I (Except ε α)}
    (allowed : Allowed base counts spans parts (progress.goOn position))
    (eq : parts position = some part) :
    part.WithinAt (counts position) (spans position) (base + progress.now) :=
  allowed.line ⟨progress.now, position⟩ List.mem_cons_self part eq

/-- Time goes on until the next turn is due. -/
lemma advance {turn : Turn} {line : List Turn}
    (allowed : Allowed base counts spans parts progress) (eq : progress.line = turn :: line) :
    Allowed base counts spans parts
      (Progress.goOn turn.position { progress with now := turn.due, line }) :=
  ⟨fun other mem => allowed.line other (eq ▸ mem), allowed.waiting⟩

/-- One member goes on and waits for a turn, with other bounds. -/
lemma move {position due count span : Nat} {part : Routine I (Except ε α)} {line : List Turn}
    (allowed : Allowed base counts spans parts (progress.goOn position))
    (under : Under base xs log parts (progress.goOn position))
    (perm : line.Perm (⟨due, position⟩ :: progress.line))
    (within : part.WithinAt count span (base + due)) :
    Allowed base (update counts position count) (update spans position span)
      (update parts position (some part)) { progress with line } := by
  obtain ⟨notInLine, notWaiting, _⟩ := under.alone
  refine ⟨fun turn mem part' eq => ?_, fun other mem part' eq => ?_⟩
  · rcases List.mem_cons.1 (perm.mem_iff.1 mem) with rfl | mem
    · rw [update_self] at eq ⊢
      rw [update_self]
      cases eq
      exact within
    · have ne : turn.position ≠ position := fun eq => notInLine (eq ▸ List.mem_map_of_mem mem)
      rw [update_of_ne ne] at eq ⊢
      rw [update_of_ne ne]
      exact allowed.line turn (List.mem_cons_of_mem _ mem) part' eq
  · have ne : other ≠ position := fun eq => notWaiting (eq ▸ mem)
    rw [update_of_ne ne] at eq ⊢
    rw [update_of_ne ne]
    exact allowed.waiting other mem part' eq

/-- A member ends, and the next that waits begins now. -/
lemma finish {position : Nat} {outcome : Except ε α} (precedence : Precedence)
    (allowed : Allowed base counts spans parts (progress.goOn position))
    (under : Under base xs log parts (progress.goOn position)) :
    Allowed base counts spans (update parts position none)
      (progress.finish precedence position outcome) := by
  obtain ⟨notInLine, notWaiting, _⟩ := under.alone
  have running : ∀ turn ∈ progress.line, ∀ part,
      update parts position none turn.position = some part →
      part.WithinAt (counts turn.position) (spans turn.position) (base + turn.due) := by
    intro turn mem part eq
    have ne : turn.position ≠ position := fun eq => notInLine (eq ▸ List.mem_map_of_mem mem)
    rw [update_of_ne ne] at eq
    exact allowed.line turn (List.mem_cons_of_mem _ mem) part eq
  have idle : ∀ other ∈ progress.waiting, ∀ part,
      update parts position none other = some part →
      part.Within (counts other) (spans other) := by
    intro other mem part eq
    have ne : other ≠ position := fun eq => notWaiting (eq ▸ mem)
    rw [update_of_ne ne] at eq
    exact allowed.waiting other mem part eq
  unfold Progress.finish
  dsimp only
  split
  · exact ⟨running, idle⟩
  · rename_i next waiting waits
    obtain ⟨first, others⟩ := List.forall_mem_cons.1 (waits ▸ idle)
    refine ⟨fun turn mem => ?_, others⟩
    rcases List.mem_cons.1 ((precedence.lineUp_perm ..).mem_iff.1 mem) with rfl | mem
    · exact fun part eq => first part eq _
    · exact running turn mem

end Allowed

/-- All that a pool may still do. -/
def Bounded (base : Nat) (xs : List (Routine I (Except ε α))) (counts spans : Nat → Nat)
    (progress : Progress ε α) (r : Routine I (Except ε (List (Nat × α)))) : Prop :=
  r.WithinAt (∑ position ∈ Finset.range xs.length, counts position)
    (∑ position ∈ Finset.range xs.length, spans position + slack progress.now progress.line)
    (base + progress.now)

mutual

/-- A team does no more than what its members do and the time until their turns. -/
lemma Team.Of.within :
    ∀ {team : Team I (Except ε α)} {parts : Parts I (Except ε α)} {progress : Progress ε α}
      {log : Log I} {counts spans : Nat → Nat}, team.Of parts →
      Under base xs log parts progress → Allowed base counts spans parts progress →
      Bounded base xs counts spans progress (team.run discipline progress)
  | .mk member, parts, progress, log, counts, spans, of, under, allowed => by
    unfold Bounded
    rw [Team.run]
    cases eq : progress.line with
    | nil => exact (within_done _ _).mono (Nat.zero_le _) (Nat.zero_le _)
    | cons turn line =>
      have due := (under.line turn (eq ▸ List.mem_cons_self)).1
      have rest : Bounded base xs counts spans { progress with now := turn.due, line }
          ((member turn.position).run discipline turn.position _) :=
        Member.Of.within (of turn.position) (under.advance eq) (allowed.advance eq)
      have less : slack turn.due line ≤ slack progress.now line := slack_le due
      unfold Bounded at rest
      dsimp only at rest ⊢
      rw [slack_cons]
      split
      · rename_i now
        rw [now] at rest ⊢
        exact rest.mono (Nat.le_refl _) (by omega)
      · refine withinAt_wait_iff.2 ⟨by omega, ?_⟩
        rw [Nat.add_assoc, Nat.add_sub_cancel' due]
        exact rest.mono (Nat.le_refl _) (by omega)

/-- What a team does once one of its members goes on. -/
lemma Member.Of.within :
    ∀ {member : Member I (Except ε α)} {position : Nat} {parts : Parts I (Except ε α)}
      {progress : Progress ε α} {log : Log I} {counts spans : Nat → Nat},
      member.Of position parts → Under base xs log parts (progress.goOn position) →
      Allowed base counts spans parts (progress.goOn position) →
      Bounded base xs counts spans progress (member.run discipline position progress)
  | .absent, position, parts, progress, log, counts, spans, of, under, allowed =>
    WithinAt.mono (within_done _ _) (Nat.zero_le _) (Nat.zero_le _)
  | .ended outcome next, position, parts, progress, log, counts, spans, ⟨eq, of⟩, under,
      allowed => by
    have ended := under.finish discipline.precedence eq
    have rest : Bounded base xs counts spans _ (next.run discipline _) :=
      Team.Of.within of ended (allowed.finish discipline.precedence under)
    unfold Bounded at rest ⊢
    rw [slack_finish, Progress.now_finish] at rest
    rw [Member.run]
    split
    · exact (within_done _ _).mono (Nat.zero_le _) (Nat.zero_le _)
    · exact rest
  | .ask request next, position, parts, progress, log, counts, spans, ⟨left, eq, of⟩, under,
      allowed => by
    have lt := under.position_lt
    unfold Bounded
    rw [Member.run]
    refine withinAt_ask_iff.2 fun reply took => ?_
    obtain ⟨one, within⟩ := withinAt_ask_iff.1 (allowed.own eq) reply took
    have rest : Bounded base xs _ _ (progress.goOn position) ((next reply took).run discipline _) :=
      Team.Of.within (of reply took) (under.asked eq reply took)
        (allowed.move under (.refl _) within)
    have fewer := sum_update lt counts (counts position - 1)
    have longer := sum_update lt spans (spans position + took)
    unfold Bounded at rest
    rw [slack_goOn] at rest
    exact ⟨by omega, rest.mono (by omega) (by omega)⟩
  | .wait pause next, position, parts, progress, log, counts, spans, ⟨left, eq, of⟩, under,
      allowed => by
    have lt := under.position_lt
    obtain ⟨fits, within⟩ := withinAt_wait_iff.1 (allowed.own eq)
    have shorter := sum_update lt spans (spans position - pause)
    have same := sum_update lt counts (counts position)
    unfold Bounded
    rw [Member.run]
    split
    · -- Without a pause the member stays in front.
      rename_i none
      subst none
      have rest : Bounded base xs _ _ (progress.goOn position) (next.run discipline _) :=
        Team.Of.within of (under.waited eq (.refl _) under.sorted)
          (allowed.move under (.refl _) within)
      unfold Bounded at rest
      rw [slack_goOn] at rest
      exact rest.mono (by omega) (by omega)
    · have sorted := (List.pairwise_cons.1 under.sorted).2
      have perm := discipline.precedence.lineUp_perm ⟨progress.now + pause, position⟩ progress.line
      rw [Nat.add_assoc] at within
      have rest : Bounded base xs _ _ (progress.wait discipline.precedence position pause)
          (next.run discipline _) :=
        Team.Of.within of (under.waited eq perm (Precedence.lineUp_sorted _ _ _ sorted))
          (allowed.move under perm within)
      unfold Bounded at rest
      rw [slack_wait] at rest
      exact rest.mono (by omega) (by omega)
  | .clock next, position, parts, progress, log, counts, spans, ⟨left, eq, of⟩, under,
      allowed => by
    have within := withinAt_clock_iff.1 (allowed.own eq)
    unfold Bounded
    rw [Member.run]
    refine withinAt_clock_iff.2 ?_
    have rest : Bounded base xs _ _ (progress.goOn position) ((next _).run discipline _) :=
      Team.Of.within (of _) (under.clocked eq) (allowed.move under (.refl _) within)
    unfold Bounded at rest
    rw [slack_goOn, update_eq_self, update_eq_self] at rest
    exact rest

end

end Pool

section Attempts

variable {I : Interface} {ε α : Type} {discipline : Discipline ε α} {limit count span : Nat}
  {attempts : List (Attempt I ε α)}

/-- A pool does no more than its attempts do one after another. -/
theorem within_runTogether (room : limit = 0 → attempts.length = 0)
    (within : ∀ attempt ∈ attempts, attempt.Within count span) :
    (runTogether discipline limit attempts).Within (attempts.length * count)
      (attempts.length * span) := by
  intro now
  have under := Under.start now (attempts.map (·.run)) (by rwa [List.length_map])
  rw [List.length_map] at under
  have all (position : Nat) (part : Routine I (Except ε α))
      (eq : (attempts.map (·.run))[position]? = some part) : part.Within count span := by
    rw [List.getElem?_map] at eq
    obtain ⟨attempt, listed, rfl⟩ := Option.map_eq_some_iff.1 eq
    exact within attempt (List.mem_of_getElem? listed)
  have allowed : Allowed now (fun _ => count) (fun _ => span) ((attempts.map (·.run))[·]?)
      (.start limit attempts.length) :=
    ⟨fun turn _ part eq => all turn.position part eq _, fun position _ => all position⟩
  have bounded : Bounded now (attempts.map (·.run)) _ _ (.start limit attempts.length)
      ((Team.ofList (attempts.map (·.run))).run discipline _) :=
    (Team.of_ofList _).within under allowed
  have ready : slack 0 (Progress.start limit attempts.length : Progress ε α).line = 0 := by
    refine List.sum_eq_zero fun time mem => ?_
    rw [Progress.start, List.map_map] at mem
    obtain ⟨_, _, rfl⟩ := List.mem_map.1 mem
    rfl
  have total (value : Nat) : ∑ _position ∈ Finset.range (attempts.map (·.run)).length, value =
      attempts.length * value := by
    rw [Finset.sum_const_nat fun _ _ => rfl, Finset.card_range, List.length_map]
  unfold Bounded at bounded
  rw [total, total] at bounded
  exact Routine.WithinAt.mono bounded (Nat.le_refl _) (Nat.le_of_eq (congrArg _ ready))

lemma within_pool (room : 0 < limit) (within : ∀ attempt ∈ attempts, attempt.Within count span) :
    (pool limit attempts).Within (attempts.length * count) (attempts.length * span) :=
  within_runTogether (fun none => absurd none (Nat.ne_of_gt room)) within

lemma within_joinAll (within : ∀ attempt ∈ attempts, attempt.Within count span) :
    (joinAll attempts).Within (attempts.length * count) (attempts.length * span) :=
  (within_runTogether id within).map inOrder

end Attempts

end UpgradeDrill
