import UpgradeDrill.Proofs.Backoff
import UpgradeDrill.Proofs.Query.Plain
import UpgradeDrill.Proofs.Routine.Ending

/-!
# Polls against a world

The run of a poll whose query takes no time, given what the query sees after each pause: the poll
ends with the first value that is awaited (`pollUntil_satisfied`), or when its budget has no room
for another pause (`pollUntil_unsatisfied`).
-/

namespace UpgradeDrill

namespace Backoff

/-- A session that began at a reading of the clock and has one delay, after some waits in which
alone time has passed. -/
structure Fixed (now timeout pause waits : Nat) (session : Backoff) : Prop where
  began : session.began = now
  deadline : session.deadline = timeout
  delay : session.delay = pause
  exponential : session.exponential = false
  elapsed : session.elapsed = waits * pause

/-- A delay shorter than the budget starts a session. -/
lemma start_fixed {now timeout pause : Nat} (pos : 0 < pause) (room : pause < timeout)
    (lasts : now + timeout < clockLimit) :
    ∃ session, start (.fixed timeout pause) now = .ok session ∧
      Fixed now timeout pause 0 session := by
  refine ⟨_, (dif_pos pos).trans (if_neg (Nat.not_le.2 room)), ?_⟩
  exact ⟨rfl, budget_of_lt lasts, rfl, rfl, (Nat.zero_mul pause).symm⟩

namespace Fixed

variable {now timeout pause waits : Nat} {session : Backoff}

lemma elapsed_add_delay (fixed : Fixed now timeout pause waits session) :
    session.elapsed + session.delay = (waits + 1) * pause := by
  rw [fixed.elapsed, fixed.delay, Nat.succ_mul]

/-- A wait that fits into the budget is granted. -/
lemma granted (fixed : Fixed now timeout pause waits session) (lasts : now + timeout < clockLimit)
    (room : (waits + 1) * pause ≤ timeout) :
    ∃ next, session.wait = .ok next ∧ Fixed now timeout pause (waits + 1) next := by
  have can : session.CanWait := by
    unfold CanWait
    rw [Nat.add_assoc, fixed.elapsed_add_delay, fixed.began, fixed.deadline]
    exact ⟨Nat.lt_of_le_of_lt (Nat.add_le_add_left room now) lasts, room⟩
  refine ⟨_, if_pos can, fixed.began, fixed.deadline, ?_, fixed.exponential,
    fixed.elapsed_add_delay⟩
  change session.nextDelay = pause
  rw [nextDelay, fixed.exponential, if_neg Bool.false_ne_true, fixed.delay]

/-- A wait that does not fit into the budget is refused. -/
lemma refused (fixed : Fixed now timeout pause waits session)
    (full : timeout < (waits + 1) * pause) : session.wait = .error (.timedOut session.waits) := by
  refine if_neg fun can => Nat.not_le.2 full ?_
  rw [← fixed.elapsed_add_delay, ← fixed.deadline]
  exact can.2

end Fixed

end Backoff

namespace Query

open Attempt

variable {I : Interface} {α σ : Type} {world : World I σ} {query : Attempt I QueryError α}
  {awaited : α → Bool} {states : Nat → σ} {seen : Nat → Except QueryError α}
  {participant operation : String} {timeout now pause : Nat} {text : α → String}

/-- After some pauses from a time on, a query ends at once with what it sees then, and leaves the
world in the state for the next time. -/
def Looks (world : World I σ) (query : Attempt I QueryError α) (states : Nat → σ)
    (seen : Nat → Except QueryError α) (now pause count : Nat) : Prop :=
  query.Ends world (now + count * pause) (states count) (seen count) (now + count * pause)
    (states (count + 1))

/-- What was seen is not awaited. -/
def Missed (awaited : α → Bool) (outcome : Except QueryError α) : Prop :=
  outcome.toOption.filter awaited = none

/-- The last value seen in a number of looks. -/
def observed (seen : Nat → Except QueryError α) : Nat → Option α
  | 0 => none
  | count + 1 => (seen count).toOption.or (observed seen count)

section PollFrom

variable {attempts : Nat} {last : Option α} {session : Backoff}

/-- A poll that sees an awaited value ends with it. -/
lemma pollFrom_met {value : α} (looks : Looks world query states seen now pause attempts)
    (met : seen attempts = .ok value) (yes : awaited value = true)
    (fixed : session.Fixed now timeout pause attempts) :
    (pollFrom participant operation timeout text query awaited attempts last session).Ends world
      (now + attempts * pause) (states attempts)
      (.ok ⟨value, attempts + 1, attempts * pause, timeout - attempts * pause⟩)
      (now + attempts * pause) (states (attempts + 1)) := by
  have found : (seen attempts).toOption.filter awaited = some value := by
    rw [met]
    exact if_pos yes
  rw [pollFrom_eq]
  refine .bind looks.timed ?_
  rw [Nat.sub_self]
  dsimp only
  split
  · rename_i value' found'
    cases found.symm.trans found'
    rw [← fixed.elapsed, ← fixed.deadline]
    exact ends_pure _
  · rename_i none
    cases found.symm.trans none

/-- A poll that looks in vain goes on after the pause that its session grants. -/
lemma pollFrom_missed {next : Backoff} {outcome : Except QueryError (Poll α)} {finish : Nat}
    {final : σ} (looks : Looks world query states seen now pause attempts)
    (missed : Missed awaited (seen attempts)) (granted : session.wait = .ok next)
    (rest : (pollFrom participant operation timeout text query awaited (attempts + 1)
      ((seen attempts).toOption.or last) next).Ends world
        (now + attempts * pause + session.delay) (states (attempts + 1)) outcome finish final) :
    (pollFrom participant operation timeout text query awaited attempts last session).Ends world
      (now + attempts * pause) (states attempts) outcome finish final := by
  rw [pollFrom_eq]
  refine .bind looks.timed ?_
  rw [Nat.sub_self]
  dsimp only
  split
  · rename_i found
    cases missed.symm.trans found
  · split
    · rename_i next' granted'
      cases granted.symm.trans granted'
      exact .bind (ends_sleep _) rest
    · rename_i refused
      cases granted.symm.trans refused

/-- A poll that looks in vain and is refused another pause fails. -/
lemma pollFrom_refused {reason : BackoffError}
    (looks : Looks world query states seen now pause attempts)
    (missed : Missed awaited (seen attempts)) (refused : session.wait = .error reason) :
    (pollFrom participant operation timeout text query awaited attempts last session).Ends world
      (now + attempts * pause) (states attempts)
      (.error (.unsatisfied participant operation timeout
        (inspectOption text ((seen attempts).toOption.or last))))
      (now + attempts * pause) (states (attempts + 1)) := by
  rw [pollFrom_eq]
  refine .bind looks.timed ?_
  rw [Nat.sub_self]
  dsimp only
  split
  · rename_i found
    cases missed.symm.trans found
  · split
    · rename_i granted
      cases refused.symm.trans granted
    · exact ends_throw _

/-- A poll goes on through what it sees in vain as long as its budget has room for the pauses. -/
lemma pollFrom_through {n : Nat} {outcome : Except QueryError (Poll α)} {finish : Nat} {final : σ}
    (looks : ∀ count < n, Looks world query states seen now pause count)
    (missed : ∀ count < n, Missed awaited (seen count))
    (lasts : now + timeout < Backoff.clockLimit) (room : n * pause ≤ timeout)
    (rest : ∀ session, session.Fixed now timeout pause n →
      (pollFrom participant operation timeout text query awaited n (observed seen n) session).Ends
        world (now + n * pause) (states n) outcome finish final)
    (fixed : session.Fixed now timeout pause attempts) (le : attempts ≤ n) :
    (pollFrom participant operation timeout text query awaited attempts (observed seen attempts)
      session).Ends world (now + attempts * pause) (states attempts) outcome finish final := by
  -- The induction is on the looks that are left.
  induction eq : n - attempts generalizing attempts session with
  | zero =>
    obtain rfl : attempts = n := by omega
    exact rest session fixed
  | succ left ih =>
    have less : attempts < n := by omega
    obtain ⟨next, granted, fixed'⟩ :=
      fixed.granted lasts (Nat.le_trans (Nat.mul_le_mul_right _ less) room)
    refine pollFrom_missed (looks _ less) (missed _ less) granted ?_
    rw [fixed.delay, Nat.add_assoc, ← Nat.succ_mul]
    exact ih fixed' less (by omega)

/-- A poll whose budget has room for some pauses comes to what it sees after them, if all it sees
before is in vain. -/
lemma pollUntil_through {n : Nat} {outcome : Except QueryError (Poll α)} {finish : Nat} {final : σ}
    (looks : ∀ count < n, Looks world query states seen now pollInterval count)
    (missed : ∀ count < n, Missed awaited (seen count)) (starts : pollInterval < timeout)
    (lasts : now + timeout < Backoff.clockLimit) (room : n * pollInterval ≤ timeout)
    (rest : ∀ session, Backoff.Fixed now timeout pollInterval n session →
      (pollFrom participant operation timeout text query awaited n (observed seen n) session).Ends
        world (now + n * pollInterval) (states n) outcome finish final) :
    (pollUntil participant operation timeout text query awaited).Ends world now (states 0) outcome
      finish final := by
  obtain ⟨session, started, fixed⟩ := Backoff.start_fixed (by decide) starts lasts
  have through := pollFrom_through looks missed lasts room rest fixed n.zero_le
  rw [Nat.zero_mul, Nat.add_zero] at through
  rw [pollUntil_eq]
  refine ends_readClock.bind ?_
  rw [started]
  exact through

end PollFrom

/-- A poll ends with the first value that is awaited, if its budget lasts until then. -/
theorem pollUntil_satisfied {value : α} {n : Nat}
    (looks : ∀ count ≤ n, Looks world query states seen now pollInterval count)
    (missed : ∀ count < n, Missed awaited (seen count)) (met : seen n = .ok value)
    (yes : awaited value = true) (starts : pollInterval < timeout)
    (lasts : now + timeout < Backoff.clockLimit) (room : n * pollInterval ≤ timeout) :
    (pollUntil participant operation timeout text query awaited).Ends world now (states 0)
      (.ok ⟨value, n + 1, n * pollInterval, timeout - n * pollInterval⟩) (now + n * pollInterval)
      (states (n + 1)) := by
  exact pollUntil_through (fun count less => looks count (Nat.le_of_lt less)) missed starts lasts
    room fun _ fixed => pollFrom_met (looks n (Nat.le_refl n)) met yes fixed

/-- A poll that sees no awaited value fails when its budget has no room for another pause. -/
theorem pollUntil_unsatisfied {n : Nat}
    (looks : ∀ count ≤ n, Looks world query states seen now pollInterval count)
    (missed : ∀ count ≤ n, Missed awaited (seen count)) (starts : pollInterval < timeout)
    (lasts : now + timeout < Backoff.clockLimit) (room : n * pollInterval ≤ timeout)
    (full : timeout < (n + 1) * pollInterval) :
    (pollUntil participant operation timeout text query awaited).Ends world now (states 0)
      (.error (.unsatisfied participant operation timeout
        (inspectOption text (observed seen (n + 1)))))
      (now + n * pollInterval) (states (n + 1)) :=
  pollUntil_through (fun count less => looks count (Nat.le_of_lt less))
    (fun count less => missed count (Nat.le_of_lt less)) starts lasts room fun _ fixed =>
      pollFrom_refused (looks n (Nat.le_refl n)) (missed n (Nat.le_refl n)) (fixed.refused full)

end Query

end UpgradeDrill
