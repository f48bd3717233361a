import Mathlib.Order.Monotone.Basic
import UpgradeDrill.Proofs.Query.Calls

/-!
# Series of calls

A series makes an attempt again and again, each call some pause after the end of the one before. A
loop whose session grants these pauses makes the calls of the series up to the first that is enough,
or the last that begins by the deadline (`LastCall`). What holds of the loop at that call, and at
each call before if it holds at the next one, holds from its beginning (`LastCall.rounds`).
-/

namespace UpgradeDrill

open Attempt

/-- An attempt made against a world without an end, with a pause after each call. -/
structure Series (I : Interface) (ε α σ : Type) where
  world : World I σ
  attempt : Attempt I ε α
  /-- How long after the end of a call the next one begins. -/
  pause : Nat → Nat
  start : Nat
  state : σ

namespace Series

variable {I : Interface} {ε α σ : Type} (series : Series I ε α σ)

/-- How an attempt ends that is made at a time in a state. -/
def ending (front : Nat × σ) : Ending (Except ε α) σ :=
  series.attempt.run.run series.world front.1 front.2

/-- When a call begins, and in which state of the world. -/
def front : Nat → Nat × σ
  | 0 => (series.start, series.state)
  | k + 1 => ((series.ending (front k)).time + series.pause k, (series.ending (front k)).state)

def call (k : Nat) : Call ε α :=
  ⟨(series.front k).1, (series.ending (series.front k)).value,
    (series.ending (series.front k)).time⟩

def stateAt (k : Nat) : σ := (series.front k).2

def exchangesAt (k : Nat) : List (Exchange I) :=
  series.attempt.run.exchanges series.world (series.call k).start (series.stateAt k)

/-- The exchanges of the first calls. -/
def exchanges (count : Nat) : List (Exchange I) := (List.range count).flatMap series.exchangesAt

/-- An attempt makes the calls of a series up to one, and ends with it. -/
def Makes {ε' β : Type} (x : Attempt I ε' β) (n : Nat) (result : Except ε' β) : Prop :=
  x.Plays series.world series.start series.state (series.exchanges (n + 1)) result
    (series.call n).finish (series.stateAt (n + 1))

lemma plays (k : Nat) :
    series.attempt.Plays series.world (series.call k).start (series.stateAt k)
      (series.exchangesAt k) (series.call k).outcome (series.call k).finish
      (series.stateAt (k + 1)) :=
  ⟨rfl, rfl⟩

lemma start_succ (k : Nat) :
    (series.call (k + 1)).start = (series.call k).finish + series.pause k :=
  rfl

/-- The calls before one take no less time than their pauses. -/
lemma le_start {least : Nat} (pauses : ∀ k, least ≤ series.pause k) (k : Nat) :
    series.start + k * least ≤ (series.call k).start := by
  induction k with
  | zero => exact Nat.le_of_eq (by rw [Nat.zero_mul]; rfl)
  | succ k ih =>
    have pause := pauses k
    have took := (series.plays k).le
    rw [start_succ, Nat.succ_mul]
    omega

lemma finish_strictMono (pauses : ∀ k, 0 < series.pause k) :
    StrictMono fun k => (series.call k).finish := by
  refine strictMono_nat_of_lt_succ fun k => ?_
  have pause := pauses k
  have took := (series.plays (k + 1)).le
  rw [start_succ] at took
  omega

/-- The call at which a loop ends: the first that is enough, or the last that begins by a
deadline. -/
structure LastCall (deadline : Nat) (enough : Nat → Prop) (n : Nat) : Prop where
  unmet : ∀ k < n, ¬ enough k
  begun : ∀ k ≤ n, (series.call k).start ≤ deadline
  ended : enough n ∨ deadline < (series.call (n + 1)).start

/-- A number of calls holds the last one, or they all go on by the deadline. -/
lemma lastCall_or_go_on {deadline : Nat} (enough : Nat → Prop) (begun : series.start ≤ deadline)
    (m : Nat) :
    (∃ n, series.LastCall deadline enough n) ∨
      (∀ k < m, ¬ enough k) ∧ ∀ k ≤ m, (series.call k).start ≤ deadline := by
  induction m with
  | zero => exact .inr ⟨nofun, fun k none => Nat.le_zero.1 none ▸ begun⟩
  | succ m ih =>
    rcases ih with found | ⟨unmet, starts⟩
    · exact .inl found
    by_cases stops : enough m ∨ deadline < (series.call (m + 1)).start
    · exact .inl ⟨m, unmet, starts, stops⟩
    refine .inr ⟨fun k less => ?_, fun k le => ?_⟩
    · rcases Nat.lt_succ_iff_lt_or_eq.1 less with less | rfl
      · exact unmet k less
      · exact fun met => stops (.inl met)
    · rcases Nat.lt_succ_iff_lt_or_eq.1 (Nat.lt_succ_of_le le) with less | rfl
      · exact starts k (Nat.le_of_lt_succ less)
      · exact Nat.not_lt.1 fun past => stops (.inr past)

/-- Pauses bring a series past any deadline. -/
theorem exists_lastCall {deadline : Nat} (enough : Nat → Prop) (pauses : ∀ k, 0 < series.pause k)
    (begun : series.start ≤ deadline) : ∃ n, series.LastCall deadline enough n := by
  rcases series.lastCall_or_go_on enough begun (deadline + 1) with found | ⟨-, starts⟩
  · exact found
  · have late := series.le_start pauses (deadline + 1)
    have early := starts (deadline + 1) (Nat.le_refl _)
    omega

/-- A session when a call that began with it has ended. -/
def after (k : Nat) (session : Backoff) : Backoff :=
  session.pass ((series.call k).finish - (series.call k).start)

/-- A session that has come to a call of a series with its clock and its waits. -/
structure InStep (config : BackoffConfig) (k : Nat) (session : Backoff) : Prop where
  of : session.Of config series.start
  waits : session.waits = k
  elapsed : series.start + session.elapsed = (series.call k).start

section InStep

variable {series} {config : BackoffConfig} {k : Nat} {session : Backoff}

lemma inStep_of_start (series : Series I ε α σ)
    (started : Backoff.start config series.start = .ok session) :
    series.InStep config 0 session := by
  obtain ⟨waits, elapsed⟩ := Backoff.start_ok started
  exact ⟨Backoff.of_start started, waits, congrArg (series.start + ·) elapsed⟩

namespace InStep

lemma elapsed_after (inStep : series.InStep config k session) :
    series.start + (series.after k session).elapsed = (series.call k).finish := by
  have took := (series.plays k).le
  have elapsed := inStep.elapsed
  simp only [Series.after, Backoff.pass]
  omega

lemma canWait_iff (inStep : series.InStep config k session)
    (paced : series.pause = config.delayAfter) :
    (series.after k session).CanWait ↔
      (series.call (k + 1)).start ≤ series.start + Backoff.budget series.start config.timeout := by
  have of : (series.after k session).Of config series.start := inStep.of.pass _
  have elapsed := inStep.elapsed_after
  have pause : (series.after k session).delay = series.pause k := by
    rw [paced, ← inStep.waits]
    exact of.delay
  rw [of.canWait_iff, of.deadline, start_succ, ← pause]
  omega

/-- The time that has passed when the call has ended, and what is left of the budget. -/
lemma times_after (inStep : series.InStep config k session) :
    (series.after k session).elapsed = (series.call k).finish - series.start ∧
      (series.after k session).remaining =
        Backoff.budget series.start config.timeout - ((series.call k).finish - series.start) := by
  have elapsed := inStep.elapsed_after
  have deadline : (series.after k session).deadline = Backoff.budget series.start config.timeout :=
    inStep.of.deadline
  rw [Backoff.remaining, deadline]
  omega

/-- The wait for a call by the deadline is granted. -/
lemma granted (inStep : series.InStep config k session) (paced : series.pause = config.delayAfter)
    (fits : (series.call (k + 1)).start ≤
      series.start + Backoff.budget series.start config.timeout) :
    ∃ next, (series.after k session).wait = .ok next ∧ series.InStep config (k + 1) next ∧
      (series.call k).finish + session.delay = (series.call (k + 1)).start := by
  obtain ⟨next, granted⟩ := Backoff.wait_ok_iff.2 ((inStep.canWait_iff paced).2 fits)
  obtain ⟨waits, elapsed, -⟩ := Backoff.wait_ok granted
  have start : (series.call k).finish + session.delay = (series.call (k + 1)).start := by
    rw [start_succ, paced, ← inStep.waits, inStep.of.delay]
  refine ⟨next, granted, ⟨(inStep.of.pass _).wait granted, ?_, ?_⟩, start⟩
  · rw [waits, ← inStep.waits]
    rfl
  · rw [elapsed, ← Nat.add_assoc, inStep.elapsed_after]
    exact start

/-- The wait for a call past the deadline is refused. -/
lemma refused (inStep : series.InStep config k session) (paced : series.pause = config.delayAfter)
    (past : series.start + Backoff.budget series.start config.timeout <
      (series.call (k + 1)).start) :
    (series.after k session).wait = .error (.timedOut session.waits) :=
  Backoff.wait_error_iff.2 ⟨mt (inStep.canWait_iff paced).1 (Nat.not_le.2 past), rfl⟩

end InStep

end InStep

namespace LastCall

variable {series} {config : BackoffConfig} {n : Nat}

/-- A loop that is paced as a series goes through its calls up to the last one: what holds at that
one, and at each before if it holds at the next, holds from the first on. -/
theorem rounds {P : Nat → Backoff → List Nat → Prop} {enough : Nat → Prop}
    (last : series.LastCall (series.start + Backoff.budget series.start config.timeout) enough n)
    (paced : series.pause = config.delayAfter)
    (ends : ∀ session, series.InStep config n session → P n session [n])
    (again : ∀ k session next rest, k < n → (series.after k session).wait = .ok next →
      (series.call k).finish + session.delay = (series.call (k + 1)).start →
      P (k + 1) next rest → P k session (k :: rest))
    {session : Backoff} (inStep : series.InStep config 0 session) :
    P 0 session (List.range (n + 1)) := by
  -- The induction is on the calls that are left.
  have go (left : Nat) {k : Nat} {session : Backoff} (eq : k + left = n)
      (inStep : series.InStep config k session) : P k session (List.range' k (left + 1)) := by
    induction left generalizing k session with
    | zero =>
      subst eq
      exact ends session inStep
    | succ left ih =>
      have less : k < n := by omega
      obtain ⟨next, granted, inStep', start⟩ := inStep.granted paced (last.begun (k + 1) less)
      exact again k session next _ less granted start (ih (by omega) inStep')
  rw [List.range_eq_range']
  exact go n (Nat.zero_add n) inStep

/-- A loop for which more is enough is over no later. -/
lemma le {deadline m : Nat} {enough enough' : Nat → Prop} (weaker : ∀ k, enough k → enough' k)
    (sooner : series.LastCall deadline enough' m) (last : series.LastCall deadline enough n) :
    m ≤ n := by
  refine Nat.not_lt.1 fun less => ?_
  rcases last.ended with met | past
  · exact sooner.unmet n less (weaker n met)
  · exact Nat.not_lt.2 (sooner.begun (n + 1) less) past

lemma unique {deadline m : Nat} {enough : Nat → Prop} (last : series.LastCall deadline enough n)
    (last' : series.LastCall deadline enough m) : m = n :=
  Nat.le_antisymm (LastCall.le (fun _ => id) last' last) (LastCall.le (fun _ => id) last last')

/-- The wait after the last call is refused if the call is not enough. -/
lemma refused {enough : Nat → Prop} {session : Backoff}
    (last : series.LastCall (series.start + Backoff.budget series.start config.timeout) enough n)
    (paced : series.pause = config.delayAfter) (unmet : ¬ enough n)
    (inStep : series.InStep config n session) :
    (series.after n session).wait = .error (.timedOut session.waits) :=
  inStep.refused paced (last.ended.resolve_left unmet)

/-- A loop that judges each outcome by itself makes the calls of a series with its delays. -/
lemma calls {enough : Except ε α → Bool}
    (last : series.LastCall (series.start + Backoff.budget series.start config.timeout)
      (fun k => enough (series.call k).outcome = true) n)
    (paced : series.pause = config.delayAfter) {session : Backoff}
    (started : Backoff.start config series.start = .ok session) :
    Paced series.world series.attempt enough config series.start series.state
      ((List.range (n + 1)).map series.call) (series.exchanges (n + 1))
      (.ok (series.call n).outcome) (series.call n).finish (series.stateAt (n + 1)) := by
  refine .begun started (last.rounds (P := fun k session ks =>
    Calls series.world series.attempt enough session (series.call k).start (series.stateAt k)
      (ks.map series.call) (ks.flatMap series.exchangesAt) (series.call n).outcome
      (series.call n).finish (series.stateAt (n + 1))) paced ?_ ?_ (series.inStep_of_start started))
  · intro session inStep
    rw [List.flatMap_singleton]
    cases met : enough (series.call n).outcome with
    | true => exact .met (series.plays n) met
    | false => exact .refused (series.plays n) met (last.refused paced (by simp [met]) inStep)
  · intro k session next rest less granted start made
    rw [← start] at made
    exact .again (series.plays k) (Bool.eq_false_iff.2 (last.unmet k less)) granted made

end LastCall

end Series

end UpgradeDrill
