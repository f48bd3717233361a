import UpgradeDrill.Duration

/-!
# Retry budgets

A retry session is given a fixed amount of time when it starts at some reading of the clock. It is
told how time passes, and it grants a wait only if the wait ends by the deadline, so the waits it
grants never add up to more than the budget. The delay is constant, or doubles up to five seconds.
-/

namespace UpgradeDrill

/-- What a retry session is started with. -/
structure BackoffConfig where
  timeout : Nat
  initialDelay : Nat
  /-- Whether the delay doubles after each wait. -/
  exponential : Bool
  deriving DecidableEq, Repr

/-- Why a session cannot start, or cannot wait. -/
inductive BackoffError where
  | invalidDelay
  | timeoutTooShort (timeout delay : Nat)
  | timedOut (waits : Nat)
  deriving DecidableEq, Repr

/-- A retry session. All times but the first are counted from its start. -/
structure Backoff where
  /-- What the clock read at the start. -/
  began : Nat
  deadline : Nat
  /-- The delay of the next wait. -/
  delay : Nat
  exponential : Bool
  waits : Nat
  elapsed : Nat
  delay_pos : 0 < delay

namespace BackoffError

def message : BackoffError → String
  | invalidDelay => "initial delay must be non-zero"
  | timeoutTooShort timeout delay =>
    s!"timeout ({Duration.render timeout}) must exceed initial delay ({Duration.render delay})"
  | timedOut waits => s!"timeout after {waits} waits"

end BackoffError

namespace BackoffConfig

def defaultInitialDelay : Nat := Duration.ofMillis 100

def fixed (timeout delay : Nat) : BackoffConfig := ⟨timeout, delay, false⟩

/-- Delays that start at a tenth of a second and double. -/
def doubling (timeout : Nat) : BackoffConfig := ⟨timeout, defaultInitialDelay, true⟩

end BackoffConfig

namespace Backoff

/-- The longest delay that doubling reaches. -/
def maxDelay : Nat := Duration.ofSecs 5

/-- The time for a session that would last longer than the clock: thirty years. -/
def farFuture : Nat := Duration.ofSecs (86400 * 365 * 30)

/-- A clock reads less than this: its seconds fill 63 bits. -/
def clockLimit : Nat := Duration.ofSecs (UInt64.size / 2)

/-- How long a session is to last that starts at a reading of the clock: its timeout, or thirty
years if the clock would end before. -/
def allotted (now timeout : Nat) : Nat :=
  if now + timeout < clockLimit then timeout else farFuture

/-- The deadline of a session can be read off the clock. A session that starts within thirty years
of the end of the clock and would outlast it has none, and the program that starts it stops. -/
def FitsClock (now timeout : Nat) : Prop := now + allotted now timeout < clockLimit

instance (now timeout : Nat) : Decidable (FitsClock now timeout) :=
  inferInstanceAs (Decidable (_ < _))

/-- How long a session has: no longer than there is a clock to hold it to. -/
def budget (now timeout : Nat) : Nat := min (allotted now timeout) (clockLimit - 1 - now)

/-- Starts a session at a reading of the clock, which by default starts with it. The delay must be
positive and shorter than the timeout. -/
def start (config : BackoffConfig) (now : Nat := 0) : Except BackoffError Backoff :=
  if delay_pos : 0 < config.initialDelay then
    if config.timeout ≤ config.initialDelay then
      .error (.timeoutTooShort config.timeout config.initialDelay)
    else
      .ok {
        began := now
        deadline := budget now config.timeout
        delay := config.initialDelay
        exponential := config.exponential
        waits := 0
        elapsed := 0
        delay_pos }
  else
    .error .invalidDelay

/-- Tells a session that time has passed. -/
def pass (session : Backoff) (span : Nat) : Backoff :=
  { session with elapsed := session.elapsed + span }

/-- The delay after the next one. -/
def nextDelay (session : Backoff) : Nat :=
  if session.exponential then min (2 * session.delay) maxDelay else session.delay

theorem nextDelay_pos (session : Backoff) : 0 < session.nextDelay := by
  have := session.delay_pos
  unfold nextDelay maxDelay Duration.ofSecs
  split <;> omega

/-- The clock can be read at the end of the next wait, which is not past the deadline. -/
def CanWait (session : Backoff) : Prop :=
  session.began + session.elapsed + session.delay < clockLimit ∧
    session.elapsed + session.delay ≤ session.deadline

instance (session : Backoff) : Decidable session.CanWait :=
  inferInstanceAs (Decidable (_ ∧ _))

/-- The session after its next wait; refused, with no time taken, if the wait cannot be granted. -/
def wait (session : Backoff) : Except BackoffError Backoff :=
  if session.CanWait then
    .ok { session with
      delay := session.nextDelay
      waits := session.waits + 1
      elapsed := session.elapsed + session.delay
      delay_pos := session.nextDelay_pos }
  else
    .error (.timedOut session.waits)

/-- Time left before the deadline, zero once it has passed. -/
def remaining (session : Backoff) : Nat := session.deadline - session.elapsed

def expired (session : Backoff) : Bool := session.remaining == 0

/-- A granted wait uses up part of the time that is left. -/
theorem remaining_lt_of_wait {session next : Backoff} (h : session.wait = .ok next) :
    next.remaining < session.remaining := by
  unfold wait at h
  split at h
  case isTrue can =>
    have pos := session.delay_pos
    have fits := can.2
    cases h
    simp only [remaining]
    omega
  case isFalse => cases h

/-- Passing time never adds to the time that is left. -/
theorem remaining_pass_le (session : Backoff) (span : Nat) :
    (session.pass span).remaining ≤ session.remaining := by
  simp only [remaining, pass]
  omega

end Backoff

end UpgradeDrill
