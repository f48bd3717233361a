import Mathlib.Algebra.Ring.Nat
import UpgradeDrill.Backoff

/-!
# Retry sessions over time

A session is asked for waits, and time passes between them. Whatever its history, it keeps to the
deadline and the delays it began with (`Of`), so the waits it grants fit into its budget, and what
it has refused once it refuses for ever (`budget_kept`).
-/

namespace UpgradeDrill

/-- The delay of the wait after some others. Doubling is capped, the first delay is not. -/
def BackoffConfig.delayAfter (config : BackoffConfig) : Nat → Nat
  | 0 => config.initialDelay
  | waits + 1 =>
    if config.exponential then min (config.initialDelay * 2 ^ (waits + 1)) Backoff.maxDelay
    else config.initialDelay

/-- The first of the doubling delays is below their cap. -/
lemma BackoffConfig.delayAfter_doubling (timeout waits : Nat) :
    (doubling timeout).delayAfter waits =
      min (defaultInitialDelay * 2 ^ waits) Backoff.maxDelay := by
  cases waits with
  | zero => rfl
  | succ waits => rfl

lemma BackoffConfig.delayAfter_doubling_pos (timeout waits : Nat) :
    0 < (doubling timeout).delayAfter waits := by
  rw [delayAfter_doubling]
  exact Nat.lt_min.2 ⟨Nat.mul_pos (by decide) (Nat.two_pow_pos waits), by decide⟩

lemma BackoffConfig.delayAfter_constant {config : BackoffConfig}
    (constant : config.exponential = false) (waits : Nat) :
    config.delayAfter waits = config.initialDelay := by
  cases waits with
  | zero => rfl
  | succ waits => exact if_neg (ne_true_of_eq_false constant)

lemma BackoffConfig.delayAfter_fixed (timeout delay waits : Nat) :
    (fixed timeout delay).delayAfter waits = delay :=
  delayAfter_constant rfl waits

namespace Backoff

variable {config : BackoffConfig} {now : Nat} {session next : Backoff}

lemma budget_le (now timeout : Nat) : budget now timeout ≤ timeout := by
  unfold budget allotted
  split_ifs <;> omega

lemma FitsClock.budget_eq {now timeout : Nat} (fits : FitsClock now timeout) :
    budget now timeout = allotted now timeout := by
  unfold FitsClock at fits
  exact Nat.min_eq_left (by omega)

lemma budget_of_lt {now timeout : Nat} (lasts : now + timeout < clockLimit) :
    budget now timeout = timeout := by
  rw [budget, allotted, if_pos lasts]
  omega

/-- The longest budget that a timeout gives, whatever the clock reads. -/
def longest (timeout : Nat) : Nat := budget 0 timeout

lemma budget_le_longest (now timeout : Nat) : budget now timeout ≤ longest timeout := by
  have room : farFuture < clockLimit := by decide
  unfold longest budget allotted
  split_ifs <;> omega

/-- A deadline ahead can be read off the clock. -/
lemma add_budget_lt (now timeout : Nat) (ahead : 0 < budget now timeout) :
    now + budget now timeout < clockLimit := by
  unfold budget at ahead ⊢
  omega

/-- A session that began at a reading of the clock with a configuration, wherever it has come to. -/
structure Of (config : BackoffConfig) (now : Nat) (session : Backoff) : Prop where
  began : session.began = now
  deadline : session.deadline = budget now config.timeout
  exponential : session.exponential = config.exponential
  delay : session.delay = config.delayAfter session.waits

/-- A delay that is positive and shorter than the timeout starts a session. -/
lemma exists_start (pos : 0 < config.initialDelay) (room : config.initialDelay < config.timeout)
    (now : Nat) : ∃ session, start config now = .ok session :=
  ⟨_, (dif_pos pos).trans (if_neg (Nat.not_le.2 room))⟩

/-- A budget above the first of the doubling delays starts a session. -/
lemma start_doubling {timeout : Nat} (room : BackoffConfig.defaultInitialDelay < timeout)
    (now : Nat) : ∃ session, start (.doubling timeout) now = .ok session :=
  exists_start (show 0 < BackoffConfig.defaultInitialDelay by decide) room now

lemma start_short (pos : 0 < config.initialDelay) (short : config.timeout ≤ config.initialDelay)
    (now : Nat) :
    start config now = .error (.timeoutTooShort config.timeout config.initialDelay) :=
  (dif_pos pos).trans (if_pos short)

lemma start_ok (started : start config now = .ok session) :
    session.waits = 0 ∧ session.elapsed = 0 := by
  unfold start at started
  split at started
  · split at started
    · cases started
    · cases started
      exact ⟨rfl, rfl⟩
  · cases started

lemma of_start (started : start config now = .ok session) : Of config now session := by
  unfold start at started
  split at started
  · split at started
    · cases started
    · cases started
      exact ⟨rfl, rfl, rfl, rfl⟩
  · cases started

/-- A granted wait takes the delay of its session and moves no deadline. -/
lemma wait_ok (granted : session.wait = .ok next) :
    next.waits = session.waits + 1 ∧ next.elapsed = session.elapsed + session.delay ∧
      next.deadline = session.deadline := by
  unfold wait at granted
  split at granted
  · cases granted
    exact ⟨rfl, rfl, rfl⟩
  · cases granted

lemma wait_ok_iff : (∃ next, session.wait = .ok next) ↔ session.CanWait := by
  unfold wait
  split
  · rename_i can
    exact ⟨fun _ => can, fun _ => ⟨_, rfl⟩⟩
  · rename_i cannot
    refine ⟨fun granted => ?_, fun can => absurd can cannot⟩
    obtain ⟨_, eq⟩ := granted
    cases eq

lemma wait_error_iff {reason : BackoffError} :
    session.wait = .error reason ↔ ¬ session.CanWait ∧ reason = .timedOut session.waits := by
  unfold wait
  split
  · rename_i can
    refine ⟨fun refused => ?_, fun refused => absurd can refused.1⟩
    cases refused
  · rename_i cannot
    refine ⟨fun refused => ⟨cannot, (Except.error.inj refused).symm⟩, fun refused => ?_⟩
    rw [refused.2]

/-- A session is granted finitely many waits, however much time passes before each. -/
@[elab_as_elim]
theorem wait_induction {motive : Backoff → Prop}
    (again : ∀ session, (∀ span next, (session.pass span).wait = .ok next → motive next) →
      motive session) (session : Backoff) : motive session :=
  again session fun _ next _granted => wait_induction again next
termination_by session.remaining
decreasing_by
  exact Nat.lt_of_lt_of_le (remaining_lt_of_wait _granted) (remaining_pass_le _ _)

namespace Of

lemma pass (of : Of config now session) (span : Nat) : Of config now (session.pass span) :=
  ⟨of.began, of.deadline, of.exponential, of.delay⟩

lemma nextDelay (of : Of config now session) :
    session.nextDelay = config.delayAfter (session.waits + 1) := by
  rw [Backoff.nextDelay, of.delay, of.exponential, BackoffConfig.delayAfter]
  cases session.waits with
  | zero => rw [BackoffConfig.delayAfter, Nat.zero_add, Nat.pow_one, Nat.mul_comm]
  | succ waits =>
    rw [BackoffConfig.delayAfter]
    split
    · rw [Nat.pow_succ _ (waits + 1), ← Nat.mul_assoc]
      omega
    · rfl

lemma wait (of : Of config now session) (granted : session.wait = .ok next) :
    Of config now next := by
  have delay := of.nextDelay
  unfold Backoff.wait at granted
  split at granted
  · cases granted
    exact ⟨of.began, of.deadline, of.exponential, delay⟩
  · cases granted

/-- Every instant up to the deadline can be read off the clock. -/
lemma canWait_iff (of : Of config now session) :
    session.CanWait ↔ session.elapsed + session.delay ≤ session.deadline := by
  refine ⟨fun can => can.2, fun fits => ⟨?_, fits⟩⟩
  have pos := session.delay_pos
  rw [of.deadline] at fits
  have reads := add_budget_lt now config.timeout (by omega)
  rw [of.began]
  omega

end Of

/-- What happens to a session. -/
inductive Event where
  | slept (span : Nat)
  | refused (reason : BackoffError)
  | passed (span : Nat)
  deriving DecidableEq, Repr

/-- The time that an event takes; a refused wait takes none. -/
def Event.span : Event → Nat
  | .slept span => span
  | .refused _ => 0
  | .passed span => span

def Event.sleep? : Event → Option Nat
  | .slept span => some span
  | .refused _ => none
  | .passed _ => none

/-- The sleeps among some events, in their order. -/
def sleeps (events : List Event) : List Nat := events.filterMap Event.sleep?

section Sleeps

variable (events : List Event) (span : Nat) (reason : BackoffError)

@[simp] lemma sleeps_slept : sleeps (events ++ [.slept span]) = sleeps events ++ [span] :=
  List.filterMap_append

@[simp] lemma sleeps_refused : sleeps (events ++ [.refused reason]) = sleeps events :=
  List.filterMap_append.trans (List.append_nil _)

@[simp] lemma sleeps_passed : sleeps (events ++ [.passed span]) = sleeps events :=
  List.filterMap_append.trans (List.append_nil _)

end Sleeps

/-- The events since a session was in some state, and the state they have brought it to. -/
inductive History (session : Backoff) : List Event → Backoff → Prop where
  | none : History session [] session
  | slept {events current next} :
    History session events current →
    current.wait = .ok next →
    History session (events ++ [.slept current.delay]) next
  | refused {events current reason} :
    History session events current →
    current.wait = .error reason →
    History session (events ++ [.refused reason]) current
  | passed {events current} (span : Nat) :
    History session events current →
    History session (events ++ [.passed span]) (current.pass span)

namespace History

variable {events : List Event} {current : Backoff}

lemma of (history : History session events current) (start : Of config now session) :
    Of config now current := by
  induction history with
  | none => exact start
  | slept _ granted ih => exact ih.wait granted
  | refused _ _ ih => exact ih
  | passed span _ ih => exact ih.pass span

/-- Time passes in sleeps and between waits. -/
lemma elapsed (history : History session events current) :
    current.elapsed = session.elapsed + (events.map Event.span).sum := by
  induction history with
  | none => rfl
  | slept _ granted ih =>
    rw [(wait_ok granted).2.1, ih]
    simp [Event.span, Nat.add_assoc]
  | refused _ _ ih => simp [ih, Event.span]
  | passed span _ ih => simp [Backoff.pass, ih, Event.span, Nat.add_assoc]

/-- The session counts its sleeps. -/
lemma waits (history : History session events current) :
    current.waits = session.waits + (sleeps events).length := by
  induction history with
  | none => rfl
  | slept _ granted ih => rw [(wait_ok granted).1, ih, sleeps_slept, List.length_append,
      List.length_singleton, Nat.add_assoc]
  | refused _ _ ih => rwa [sleeps_refused]
  | passed span _ ih => rwa [sleeps_passed]

/-- The sleeps fit into the time that has passed, and into that before the deadline. -/
lemma sum_sleeps_le (history : History session events current) :
    (sleeps events).sum ≤ current.elapsed ∧ (sleeps events).sum ≤ current.deadline := by
  induction history with
  | none => exact ⟨Nat.zero_le _, Nat.zero_le _⟩
  | slept _ granted ih =>
    have fits := (wait_ok_iff.1 ⟨_, granted⟩).2
    obtain ⟨-, elapsed, deadline⟩ := wait_ok granted
    rw [elapsed, deadline, sleeps_slept, List.sum_append, List.sum_singleton]
    exact ⟨Nat.add_le_add_right ih.1 _, Nat.le_trans (Nat.add_le_add_right ih.1 _) fits⟩
  | refused _ _ ih => rwa [sleeps_refused]
  | passed span _ ih =>
    rw [sleeps_passed]
    exact ⟨Nat.le_trans ih.1 (Nat.le_add_right ..), ih.2⟩

/-- A session that refused a wait only lets time pass after that. -/
lemma of_refused {reason : BackoffError} (history : History session events current)
    (refused : session.wait = .error reason) :
    current.wait = .error reason ∧ current.delay = session.delay ∧
      current.waits = session.waits ∧ sleeps events = [] := by
  induction history with
  | none => exact ⟨refused, rfl, rfl, rfl⟩
  | slept _ granted ih => cases ih.1.symm.trans granted
  | refused _ _ ih => rwa [sleeps_refused]
  | @passed _ current span _ ih =>
    obtain ⟨refused, delay, waits, none⟩ := ih
    obtain ⟨cannot, rfl⟩ := wait_error_iff.1 refused
    refine ⟨wait_error_iff.2 ⟨fun can => cannot ?_, rfl⟩, delay, waits, by rwa [sleeps_passed]⟩
    -- The wait would end later still.
    unfold CanWait Backoff.pass at *
    dsimp only at can
    omega

end History

/-- What holds of a session after any history since it started at a reading of the clock. -/
structure Kept (config : BackoffConfig) (now : Nat) (events : List Event) (session : Backoff) :
    Prop where
  began : session.began = now
  deadline : session.deadline = allotted now config.timeout
  delay_pos : 0 < session.delay
  waits : session.waits = (sleeps events).length
  elapsed : session.elapsed = (events.map Event.span).sum
  sleeps_le : (sleeps events).sum ≤ config.timeout
  /-- A granted wait takes the current delay and ends by the deadline. -/
  granted : ∀ next, session.wait = .ok next →
    next.elapsed = session.elapsed + session.delay ∧ next.elapsed ≤ session.deadline
  /-- A wait is refused exactly if its end is past the deadline or cannot be read off the clock, and
  the reason tells how many waits were granted. -/
  refused_iff : ∀ reason, session.wait = .error reason ↔
    (session.deadline < session.elapsed + session.delay ∨
      clockLimit ≤ now + session.elapsed + session.delay) ∧
    reason = .timedOut (sleeps events).length
  /-- After a refused wait, whatever happens, no wait is granted. -/
  refused : ∀ reason, session.wait = .error reason → ∀ later last, History session later last →
    last.wait = .error reason ∧ last.delay = session.delay ∧ last.waits = session.waits ∧
      last.elapsed = session.elapsed + (later.map Event.span).sum ∧ sleeps later = []
  expired : session.expired = true → ∃ reason, session.wait = .error reason

/-- Whatever the clock reads at the start of a session, so long as it has room for one, and whatever
happens then, the session keeps to its budget. -/
theorem budget_kept {events : List Event} {current : Backoff}
    (fits : FitsClock now config.timeout) (started : start config now = .ok session)
    (history : History session events current) :
    Kept config now events current := by
  obtain ⟨none, zero⟩ := start_ok started
  have of := history.of (of_start started)
  have waits : current.waits = (sleeps events).length := by
    rw [history.waits, none, Nat.zero_add]
  have refuses (past : current.deadline < current.elapsed + current.delay) : ¬ current.CanWait :=
    mt of.canWait_iff.1 (Nat.not_le.2 past)
  constructor
  case began => exact of.began
  case deadline => rw [of.deadline, fits.budget_eq]
  case delay_pos => exact current.delay_pos
  case waits => exact waits
  case elapsed => rw [history.elapsed, zero, Nat.zero_add]
  case sleeps_le =>
    have le := history.sum_sleeps_le.2
    rw [of.deadline] at le
    exact Nat.le_trans le (budget_le _ _)
  case granted =>
    intro next granted
    obtain ⟨-, elapsed, -⟩ := wait_ok granted
    exact ⟨elapsed, elapsed ▸ (wait_ok_iff.1 ⟨next, granted⟩).2⟩
  case refused_iff =>
    intro reason
    rw [wait_error_iff, waits, CanWait, of.began, Classical.not_and_iff_not_or_not, Nat.not_lt,
      Nat.not_le, or_comm]
  case refused =>
    intro reason refused later last after
    obtain ⟨refused, delay, waits, none⟩ := after.of_refused refused
    exact ⟨refused, delay, waits, after.elapsed, none⟩
  case expired =>
    intro expired
    refine ⟨_, wait_error_iff.2 ⟨refuses ?_, rfl⟩⟩
    have pos := current.delay_pos
    have none : current.deadline - current.elapsed = 0 := beq_iff_eq.1 expired
    omega

/-- A session that is started at the seventh second of the clock and given more time than is left of
it: its deadline is thirty years away. A second passes in a sleep and then forty years go by, so it
has expired and refuses another wait. -/
theorem budget_kept_sample :
    ∃ session current events,
      FitsClock (Duration.ofSecs 7) (Duration.ofSecs (UInt64.size / 2 - 1)) ∧
      start (.fixed (Duration.ofSecs (UInt64.size / 2 - 1)) (Duration.ofSecs 1))
        (Duration.ofSecs 7) = .ok session ∧
      History session events current ∧
      events = [.slept (Duration.ofSecs 1), .passed (Duration.ofSecs (86400 * 365 * 40)),
        .refused (.timedOut 1)] ∧
      current.deadline = farFuture ∧ current.expired = true ∧
      Kept (.fixed (Duration.ofSecs (UInt64.size / 2 - 1)) (Duration.ofSecs 1)) (Duration.ofSecs 7)
        events current := by
  have fits : FitsClock (Duration.ofSecs 7) (Duration.ofSecs (UInt64.size / 2 - 1)) := by decide
  have started : start (.fixed (Duration.ofSecs (UInt64.size / 2 - 1)) (Duration.ofSecs 1))
      (Duration.ofSecs 7) =
    .ok ⟨Duration.ofSecs 7, farFuture, Duration.ofSecs 1, false, 0, 0, by decide⟩ := rfl
  have granted : wait ⟨Duration.ofSecs 7, farFuture, Duration.ofSecs 1, false, 0, 0, by decide⟩ =
    .ok ⟨Duration.ofSecs 7, farFuture, Duration.ofSecs 1, false, 1, Duration.ofSecs 1,
      by decide⟩ := rfl
  have refused : wait ⟨Duration.ofSecs 7, farFuture, Duration.ofSecs 1, false, 1,
    Duration.ofSecs 1 + Duration.ofSecs (86400 * 365 * 40), by decide⟩ = .error (.timedOut 1) := rfl
  have history := History.refused
    (.passed (Duration.ofSecs (86400 * 365 * 40)) (.slept .none granted)) refused
  exact ⟨_, _, _, fits, started, history, rfl, rfl, rfl, budget_kept fits started history⟩

end Backoff

end UpgradeDrill
