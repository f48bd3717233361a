import UpgradeDrill.Proofs.Backoff
import UpgradeDrill.Proofs.Query.Retry
import UpgradeDrill.Proofs.Routine.Within

/-!
# Bounded loops

However a query goes, a retried or polled one is bounded if the query is. Every attempt but the last
is followed by a wait that is no shorter than the first one, and the waits fit into the budget, so
there are no more attempts than waits of that length fit into it, and one. A slow attempt only takes
from the time that is left for waits.
-/

namespace UpgradeDrill

open Attempt

namespace Backoff

/-- How many attempts there are at most in a span if each but the last is followed by a wait. -/
def rounds (least span : Nat) : Nat := span / least + 1

/-- The waits of a session are no shorter than some time. -/
structure Paces (least : Nat) (session : Backoff) : Prop where
  pos : 0 < least
  delay : least ≤ session.delay
  doubled : session.exponential = true → least ≤ maxDelay

/-- A session waits no shorter than it does first. -/
lemma paces_of_start {config : BackoffConfig} {now : Nat} {session : Backoff}
    (started : start config now = .ok session)
    (doubled : config.exponential = true → config.initialDelay ≤ maxDelay) :
    Paces config.initialDelay session ∧ session.remaining ≤ longest config.timeout := by
  unfold start at started
  split at started
  · rename_i pos
    split at started
    · cases started
    · cases started
      exact ⟨⟨pos, Nat.le_refl _, doubled⟩, budget_le_longest _ _⟩
  · cases started

namespace Paces

variable {least took : Nat} {session next : Backoff}

lemma nextDelay (paces : Paces least session) : least ≤ session.nextDelay := by
  unfold Backoff.nextDelay
  split
  · rename_i exponential
    have le := paces.doubled exponential
    have delay := paces.delay
    omega
  · exact paces.delay

lemma wait (paces : Paces least session) (granted : (session.pass took).wait = .ok next) :
    Paces least next ∧ next.remaining + session.delay ≤ session.remaining := by
  unfold Backoff.wait at granted
  split at granted
  · rename_i can
    have fits := can.2
    cases granted
    refine ⟨⟨paces.pos, paces.nextDelay, paces.doubled⟩, ?_⟩
    simp only [remaining, pass] at fits ⊢
    omega
  · cases granted

lemma rounds_lt (paces : Paces least session) (granted : (session.pass took).wait = .ok next) :
    rounds least next.remaining + 1 ≤ rounds least session.remaining := by
  have used := (paces.wait granted).2
  have le := paces.delay
  have more : next.remaining + least ≤ session.remaining := by omega
  have div := Nat.div_le_div_right (c := least) more
  rw [Nat.add_div_right _ paces.pos] at div
  exact Nat.succ_le_succ div

/-- A bounded attempt, a granted wait and what the loop does after it are within the bound of the
loop. -/
lemma again (paces : Paces least session) (granted : (session.pass took).wait = .ok next)
    (count span : Nat) :
    0 + rounds least next.remaining * count ≤ rounds least session.remaining * count - count ∧
      session.delay + (next.remaining + rounds least next.remaining * span) ≤
        session.remaining + rounds least session.remaining * span - span := by
  have used := (paces.wait granted).2
  have counts := Nat.mul_le_mul_right count (paces.rounds_lt granted)
  have spans := Nat.mul_le_mul_right span (paces.rounds_lt granted)
  rw [Nat.succ_mul] at counts spans
  exact ⟨by omega, by omega⟩

end Paces

/-- A longer span has room for no fewer attempts, each with a bound. -/
lemma rounds_mul_le {span span' : Nat} (le : span ≤ span') (least count : Nat) :
    rounds least span * count ≤ rounds least span' * count :=
  Nat.mul_le_mul_right _ (Nat.succ_le_succ (Nat.div_le_div_right le))

/-- A loop makes an attempt at least. -/
lemma le_rounds_mul (least span count : Nat) : count ≤ rounds least span * count :=
  Nat.le_mul_of_pos_left count (Nat.succ_pos _)

end Backoff

namespace Query

open Backoff

variable {I : Interface} {α : Type} {query : Attempt I QueryError α} {count span least : Nat}
  (participant operation : String) (timeout : Nat)

lemma within_retryFrom (within : query.Within count span) {session : Backoff}
    (paces : session.Paces least) :
    (retryFrom participant operation query session).Within
      (rounds least session.remaining * count)
      (session.remaining + rounds least session.remaining * span) := by
  induction session using retryFrom.induct with
  | case1 session ih =>
    rw [retryFrom]
    refine within.timed.bind_rest (le_rounds_mul ..)
      (Nat.le_trans (le_rounds_mul ..) (Nat.le_add_left ..)) fun timed => ?_
    obtain ⟨outcome, took⟩ := timed
    cases outcome with
    | ok value => exact (within_pure value).mono (Nat.zero_le _) (Nat.zero_le _)
    | error error =>
      dsimp only
      split
      · rename_i next granted
        have rest := ih took next granted (paces.wait granted).1
        obtain ⟨few, short⟩ := paces.again granted count span
        exact ((within_sleep _).bind fun _ => rest).mono few short
      · exact (within_throw _).mono (Nat.zero_le _) (Nat.zero_le _)

/-- A retried query makes no more attempts than first delays fit into its longest budget,
and one. -/
theorem within_retry (within : query.Within count span) :
    (retry participant operation timeout query).Within
      (rounds BackoffConfig.defaultInitialDelay (longest timeout) * count)
      (longest timeout + rounds BackoffConfig.defaultInitialDelay (longest timeout) * span) := by
  refine within_readClock.bind_rest (Nat.zero_le _) (Nat.zero_le _) fun now => ?_
  split
  · rename_i session started
    obtain ⟨paces, le⟩ := paces_of_start started fun _ => defaultInitialDelay_le_maxDelay
    exact (within_retryFrom participant operation within paces).mono (rounds_mul_le le _ _)
      (Nat.add_le_add le (rounds_mul_le le _ _))
  · exact (within_throw _).mono (Nat.zero_le _) (Nat.zero_le _)

lemma within_pollFrom (text : α → String) (awaited : α → Bool) (within : query.Within count span)
    (attempts : Nat) (last : Option α) {session : Backoff} (paces : session.Paces least) :
    (pollFrom participant operation timeout text query awaited attempts last session).Within
      (rounds least session.remaining * count)
      (session.remaining + rounds least session.remaining * span) := by
  induction session using Backoff.wait_induction generalizing attempts last with
  | again session ih =>
    rw [pollFrom_eq]
    refine within.timed.bind_rest (le_rounds_mul ..)
      (Nat.le_trans (le_rounds_mul ..) (Nat.le_add_left ..)) fun timed => ?_
    obtain ⟨outcome, took⟩ := timed
    dsimp only
    split
    · exact (within_pure _).mono (Nat.zero_le _) (Nat.zero_le _)
    · split
      · rename_i next granted
        have rest := ih took next granted (attempts + 1) (outcome.toOption.or last)
          (paces.wait granted).1
        obtain ⟨few, short⟩ := paces.again granted count span
        exact ((within_sleep _).bind fun _ => rest).mono few short
      · exact (within_throw _).mono (Nat.zero_le _) (Nat.zero_le _)

/-- A polled query makes no more attempts than seconds fit into its longest budget, and one. -/
theorem within_pollUntil (text : α → String) (awaited : α → Bool)
    (within : query.Within count span) :
    (pollUntil participant operation timeout text query awaited).Within
      (rounds pollInterval (longest timeout) * count)
      (longest timeout + rounds pollInterval (longest timeout) * span) := by
  rw [pollUntil_eq]
  refine within_readClock.bind_rest (Nat.zero_le _) (Nat.zero_le _) fun now => ?_
  split
  · rename_i session started
    obtain ⟨paces, le⟩ := paces_of_start started nofun
    exact (within_pollFrom participant operation timeout text awaited within 0 none paces).mono
      (rounds_mul_le le _ _) (Nat.add_le_add le (rounds_mul_le le _ _))
  · exact (within_throw _).mono (Nat.zero_le _) (Nat.zero_le _)

end Query

end UpgradeDrill
