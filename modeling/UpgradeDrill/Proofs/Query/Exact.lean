import UpgradeDrill.Proofs.Query.Series

/-!
# Retries and polls, exactly

A retried query makes the calls of a series with doubling pauses, a polled one those of a series
with pauses of a second. Which call is the last one, what is given after it and when, is told
exactly (`retry_exactly`, `poll_exactly`), whatever the clock reads at the start. Against a world
that follows a script, the calls have any outcomes and take any time that one likes (`call_script`).
-/

namespace UpgradeDrill

open Attempt Backoff

variable {I : Interface} {α σ τ : Type}

/-- An attempt whose errors are seen as themselves. -/
lemma Attempt.widen_id {ε : Type} (x : Attempt I ε α) : x.widen id = x := by
  refine ExceptT.ext ?_
  have same : (Except.mapError id : Except ε α → Except ε α) = id :=
    funext fun outcome => by cases outcome <;> rfl
  have widened : (x.widen id).run = Except.mapError id <$> x.run := rfl
  rw [widened, same, id_map]

namespace Series

variable {ε : Type} (calls : Series I ε α σ) (awaited : α → StateM τ Bool) (memory : τ) (k : Nat)

/-- The values of the calls before one, in their order. -/
def values : List α := (List.range k).filterMap fun i => (calls.call i).outcome.toOption

/-- What a predicate remembers that has been asked once about each value of the calls before one, in
their order. -/
def remembered : τ :=
  (calls.values k).foldl (fun memory value => ((awaited value).run memory).2) memory

/-- A call gives a value that the predicate takes for the awaited one. -/
def Meets (value : α) : Prop :=
  (calls.call k).outcome = .ok value ∧
    ((awaited value).run (calls.remembered awaited memory k)).1 = true

lemma values_succ :
    calls.values (k + 1) = calls.values k ++ (calls.call k).outcome.toOption.toList := by
  rw [values, List.range_succ, List.filterMap_append, values]
  cases outcome : (calls.call k).outcome.toOption with
  | none => simp [outcome]
  | some value => simp [outcome]

lemma getLast?_values_succ :
    (calls.values (k + 1)).getLast? =
      (calls.call k).outcome.toOption.or (calls.values k).getLast? := by
  rw [values_succ, List.getLast?_append]
  cases (calls.call k).outcome.toOption <;> rfl

lemma remembered_succ :
    calls.remembered awaited memory (k + 1) =
      (calls.call k).outcome.toOption.toList.foldl
        (fun memory value => ((awaited value).run memory).2)
        (calls.remembered awaited memory k) := by
  rw [remembered, values_succ, List.foldl_append, remembered]

end Series

namespace Query

section Script

/-- An outside that replies with the outcome of a query. -/
def outcomes (α : Type) : Interface := ⟨Unit, fun _ => Except QueryError α⟩

def told : Attempt (outcomes α) QueryError α := do
  let outcome ← Attempt.request (I := outcomes α) ()
  Attempt.ofExcept outcome

/-- A world that replies with outcomes in turn, each of which takes its time. Its state counts
them. -/
def script (outcome : Nat → Except QueryError α) (took : Nat → Nat) : World (outcomes α) Nat where
  answer count _ _ := (outcome count, took count, count + 1)

/-- Outcomes and durations of any kind are those of a series of calls. -/
lemma call_script (outcome : Nat → Except QueryError α) (took pause : Nat → Nat) (now k : Nat) :
    let calls : Series (outcomes α) QueryError α Nat := ⟨script outcome took, told, pause, now, 0⟩
    calls.stateAt k = k ∧ (calls.call k).outcome = outcome k ∧
      (calls.call k).finish = (calls.call k).start + took k := by
  intro calls
  have count : calls.stateAt k = k := by
    induction k with
    | zero => rfl
    | succ k ih => exact congrArg (· + 1) ih
  have replied : (calls.call k).outcome = outcome (calls.stateAt k) := rfl
  have waited : (calls.call k).finish = (calls.call k).start + took (calls.stateAt k) := rfl
  rw [count] at replied waited
  exact ⟨count, replied, waited⟩

end Script

section Retry

/-- The calls of a retried query, without an end: the pauses double up to five seconds. -/
def retries (world : World I σ) (query : Attempt I QueryError α) (now : Nat) (state : σ) :
    Series I QueryError α σ :=
  ⟨world, query, fun k => min (BackoffConfig.defaultInitialDelay * 2 ^ k) maxDelay, now, state⟩

/-- A retried query, exactly. A timeout that is no longer than the first delay is refused, and no
call is made. Otherwise, if the clock has room for the session, the calls are those of the series
with doubling pauses up to the first that gives a value, or the last that begins by the deadline.
The value is given when that call ends, or else its error with the number of calls made. The calls
can have any outcomes and take any time (`call_script`). -/
theorem retry_exactly (participant operation : String) (timeout : Nat)
    (query : Attempt I QueryError α) (world : World I σ) (now : Nat) (state : σ) :
    (timeout ≤ BackoffConfig.defaultInitialDelay →
      (retry participant operation timeout query).Plays world now state []
        (.error (.backoff (.timeoutTooShort timeout BackoffConfig.defaultInitialDelay))) now
        state) ∧
    (BackoffConfig.defaultInitialDelay < timeout →
      FitsClock now timeout →
      let calls := retries world query now state
      ∃ n, calls.LastCall (now + allotted now timeout)
          (fun k => (calls.call k).outcome.isOk = true) n ∧
        (retry participant operation timeout query).Plays world now state (calls.exchanges (n + 1))
          (match (calls.call n).outcome with
            | .ok value => .ok value
            | .error error => .error (.retriesExhausted participant operation (n + 1) error))
          (calls.call n).finish (calls.stateAt (n + 1))) := by
  constructor
  · intro short
    have refused : start (.doubling timeout) now = .error (.timeoutTooShort timeout _) :=
      start_short (show 0 < BackoffConfig.defaultInitialDelay by decide) short now
    refine .readClock_bind ?_
    rw [refused]
    exact plays_throw _
  · intro room fits calls
    rw [← fits.budget_eq]
    have pauses (k : Nat) : 0 < calls.pause k :=
      Nat.lt_min.2 ⟨Nat.mul_pos (by decide) (Nat.two_pow_pos k), by decide⟩
    have paced : calls.pause = BackoffConfig.delayAfter (.doubling timeout) :=
      funext fun k => (BackoffConfig.delayAfter_doubling timeout k).symm
    obtain ⟨n, last⟩ := calls.exists_lastCall (fun k => (calls.call k).outcome.isOk = true) pauses
      (Nat.le_add_right now (budget now timeout))
    obtain ⟨session, started⟩ := start_doubling room now
    refine ⟨n, last, ?_⟩
    have plays := (last.calls paced started).retry participant operation id
    rw [Attempt.widen_id, retryEnd, List.length_map, List.length_range] at plays
    cases outcome : (calls.call n).outcome with
    | ok value => rwa [outcome] at plays
    | error error => rwa [outcome] at plays

/-- Replies of a second each, of which the third is the first with a value. -/
def recovering : World (outcomes Nat) Nat :=
  script (fun count => if count < 2 then .error (.status 503) else .ok 7) fun _ => Duration.ofSecs 1

/-- The third call gives a value within the budget of ten seconds. No call is made on a budget of
fifty milliseconds. -/
theorem retry_exactly_sample :
    (retry "node0" "status" (Duration.ofMillis 50) told).Plays recovering 0 0 []
      (.error (.backoff (.timeoutTooShort (Duration.ofMillis 50) (Duration.ofMillis 100)))) 0 0 ∧
    (retry "node0" "status" (Duration.ofSecs 10) told).Plays recovering 0 0
      [⟨0, (), .error (.status 503), Duration.ofSecs 1⟩,
        ⟨Duration.ofMillis 1100, (), .error (.status 503), Duration.ofSecs 1⟩,
        ⟨Duration.ofMillis 2300, (), .ok 7, Duration.ofSecs 1⟩]
      (.ok 7) (Duration.ofMillis 3300) 3 := by
  refine ⟨(retry_exactly _ _ _ told recovering 0 0).1 (by decide), ?_⟩
  obtain ⟨n, last, plays⟩ :=
    (retry_exactly "node0" "status" (Duration.ofSecs 10) told recovering 0 0).2 (by decide)
      (by decide)
  obtain rfl : n = 2 := by
    have le : n ≤ 2 := Nat.not_lt.1 fun less => last.unmet 2 less rfl
    match n, last.ended with
    | 0, .inl met => cases met
    | 0, .inr past => exact absurd past (by decide)
    | 1, .inl met => cases met
    | 1, .inr past => exact absurd past (by decide)
    | 2, _ => rfl
  exact plays

end Retry

section Poll

/-- The calls of a polled query, without an end: a pause of a second each. -/
def polls (world : World I σ) (query : Attempt I QueryError α) (now : Nat) (state : σ) :
    Series I QueryError α σ :=
  ⟨world, query, fun _ => pollInterval, now, state⟩

variable {calls : Series I QueryError α σ} {awaited : α → StateM τ Bool} {memory : τ} {n k : Nat}
  {session : Backoff} {participant operation : String} {timeout : Nat} {text : α → String}

lemma judge_of_meets {value : α} (met : calls.Meets awaited memory k value) :
    judge awaited (calls.remembered awaited memory k) (calls.call k).outcome =
      (some value, calls.remembered awaited memory (k + 1)) := by
  obtain ⟨given, yes⟩ := met
  rw [calls.remembered_succ, given]
  exact congrArg (·, _) (if_pos yes)

lemma judge_of_unmet (unmet : ¬ ∃ value, calls.Meets awaited memory k value) :
    judge awaited (calls.remembered awaited memory k) (calls.call k).outcome =
      (none, calls.remembered awaited memory (k + 1)) := by
  rw [calls.remembered_succ]
  cases given : (calls.call k).outcome with
  | error error => rfl
  | ok value => exact congrArg (·, _) (if_neg fun yes => unmet ⟨value, given, yes⟩)

/-- A poll ends with a call that meets its predicate. -/
lemma pollByFrom_of_meets {value : α} (last : Option α)
    (met : calls.Meets awaited memory n value)
    (inStep : calls.InStep (.fixed timeout pollInterval) n session) :
    (pollByFrom participant operation timeout text calls.attempt awaited
      (calls.remembered awaited memory n) n last session).Plays calls.world (calls.call n).start
      (calls.stateAt n) (calls.exchangesAt n)
      (.ok (⟨value, n + 1, (calls.call n).finish - calls.start,
          budget calls.start timeout - ((calls.call n).finish - calls.start)⟩,
        calls.remembered awaited memory (n + 1)))
      (calls.call n).finish (calls.stateAt (n + 1)) := by
  obtain ⟨elapsed, remaining⟩ := inStep.times_after
  rw [BackoffConfig.fixed] at remaining
  rw [pollByFrom, ← List.append_nil (calls.exchangesAt n)]
  refine (calls.plays n).timed_bind ?_
  dsimp only
  rw [judge_of_meets met, ← remaining, ← elapsed]
  exact plays_pure _

/-- A poll whose call does not meet its predicate goes on after a wait that is granted. -/
lemma pollByFrom_again {next : Backoff} {es : List (Exchange I)}
    {result : Except (QueryError × τ) (Poll α × τ)} {finish : Nat} {final : σ} {last : Option α}
    (unmet : ¬ ∃ value, calls.Meets awaited memory k value)
    (granted : (calls.after k session).wait = .ok next)
    (rest : (pollByFrom participant operation timeout text calls.attempt awaited
      (calls.remembered awaited memory (k + 1)) (k + 1) ((calls.call k).outcome.toOption.or last)
      next).Plays calls.world ((calls.call k).finish + session.delay) (calls.stateAt (k + 1)) es
      result finish final) :
    (pollByFrom participant operation timeout text calls.attempt awaited
      (calls.remembered awaited memory k) k last session).Plays calls.world (calls.call k).start
      (calls.stateAt k) (calls.exchangesAt k ++ es) result finish final := by
  rw [pollByFrom]
  refine (calls.plays k).timed_bind ?_
  dsimp only
  rw [judge_of_unmet unmet]
  dsimp only
  split
  · rename_i next' granted'
    cases granted.symm.trans granted'
    exact .sleep_bind rest
  · rename_i refused
    cases granted.symm.trans refused

/-- A poll whose call does not meet its predicate fails if the wait is refused. -/
lemma pollByFrom_refused {reason : BackoffError} (last : Option α)
    (unmet : ¬ ∃ value, calls.Meets awaited memory n value)
    (refused : (calls.after n session).wait = .error reason) :
    (pollByFrom participant operation timeout text calls.attempt awaited
      (calls.remembered awaited memory n) n last session).Plays calls.world (calls.call n).start
      (calls.stateAt n) (calls.exchangesAt n)
      (.error (.unsatisfied participant operation timeout
        (inspectOption text ((calls.call n).outcome.toOption.or last)),
        calls.remembered awaited memory (n + 1)))
      (calls.call n).finish (calls.stateAt (n + 1)) := by
  rw [pollByFrom, ← List.append_nil (calls.exchangesAt n)]
  refine (calls.plays n).timed_bind ?_
  dsimp only
  rw [judge_of_unmet unmet]
  dsimp only
  split
  · rename_i granted
    cases refused.symm.trans granted
  · exact plays_throw _

/-- A poll goes through the calls of its series to what its last call comes to. -/
lemma pollByFrom_through {result : Except (QueryError × τ) (Poll α × τ)}
    (last : calls.LastCall (calls.start + budget calls.start timeout)
      (fun k => ∃ value, calls.Meets awaited memory k value) n)
    (paced : calls.pause = BackoffConfig.delayAfter (.fixed timeout pollInterval))
    (ends : ∀ session, calls.InStep (.fixed timeout pollInterval) n session →
      (pollByFrom participant operation timeout text calls.attempt awaited
        (calls.remembered awaited memory n) n (calls.values n).getLast? session).Plays calls.world
        (calls.call n).start (calls.stateAt n) (calls.exchangesAt n) result (calls.call n).finish
        (calls.stateAt (n + 1)))
    (inStep : calls.InStep (.fixed timeout pollInterval) 0 session) :
    (pollByFrom participant operation timeout text calls.attempt awaited memory 0 none
      session).Plays calls.world calls.start calls.state (calls.exchanges (n + 1)) result
      (calls.call n).finish (calls.stateAt (n + 1)) := by
  refine last.rounds (P := fun k session ks =>
    (pollByFrom participant operation timeout text calls.attempt awaited
      (calls.remembered awaited memory k) k (calls.values k).getLast? session).Plays calls.world
      (calls.call k).start (calls.stateAt k) (ks.flatMap calls.exchangesAt) result
      (calls.call n).finish (calls.stateAt (n + 1))) paced ?_ ?_ inStep
  · intro session inStep
    rw [List.flatMap_singleton]
    exact ends session inStep
  · intro k session next rest less granted start plays
    rw [← start, calls.getLast?_values_succ] at plays
    exact pollByFrom_again (last.unmet k less) granted plays

/-- A polled query, exactly. A timeout that is no longer than a second is refused, and no call is
made. Otherwise, if the clock has room for the session, the calls are those of the series with
pauses of a second up to the first whose value the predicate takes for the awaited one, or the last
that begins by the deadline. The value is given when that call ends, with the time that has passed
and that is left, or else the last value there was. The predicate has been asked once about each
value, in their order. The calls can have any outcomes and take any time (`call_script`). -/
theorem poll_exactly (participant operation : String) (timeout : Nat) (text : α → String)
    (query : Attempt I QueryError α) (awaited : α → StateM τ Bool) (memory : τ)
    (world : World I σ) (now : Nat) (state : σ) :
    (timeout ≤ pollInterval →
      (pollBy participant operation timeout text query awaited memory).Plays world now state []
        (.error (.backoff (.timeoutTooShort timeout pollInterval), memory)) now state) ∧
    (pollInterval < timeout →
      FitsClock now timeout →
      let calls := polls world query now state
      ∃ n, n + 1 ≤ timeout / pollInterval + 1 ∧
        calls.LastCall (now + allotted now timeout)
          (fun k => ∃ value, calls.Meets awaited memory k value) n ∧
        ((∃ value, calls.Meets awaited memory n value ∧
            (pollBy participant operation timeout text query awaited memory).Plays world now state
              (calls.exchanges (n + 1))
              (.ok (⟨value, n + 1, (calls.call n).finish - now,
                  allotted now timeout - ((calls.call n).finish - now)⟩,
                calls.remembered awaited memory (n + 1)))
              (calls.call n).finish (calls.stateAt (n + 1))) ∨
          (¬ ∃ value, calls.Meets awaited memory n value) ∧
            (pollBy participant operation timeout text query awaited memory).Plays world now state
              (calls.exchanges (n + 1))
              (.error (.unsatisfied participant operation timeout
                  (inspectOption text (calls.values (n + 1)).getLast?),
                calls.remembered awaited memory (n + 1)))
              (calls.call n).finish (calls.stateAt (n + 1)))) := by
  constructor
  · intro short
    have refused : start (.fixed timeout pollInterval) now = .error (.timeoutTooShort timeout _) :=
      start_short (show 0 < pollInterval by decide) short now
    refine .readClock_bind ?_
    rw [refused]
    exact plays_throw _
  · intro room fits calls
    rw [← fits.budget_eq]
    have interval : 0 < pollInterval := by decide
    have paced : calls.pause = BackoffConfig.delayAfter (.fixed timeout pollInterval) :=
      funext fun k => (BackoffConfig.delayAfter_fixed timeout pollInterval k).symm
    obtain ⟨n, last⟩ := calls.exists_lastCall
      (fun k => ∃ value, calls.Meets awaited memory k value) (fun _ => interval)
      (Nat.le_add_right now (budget now timeout))
    obtain ⟨session, started⟩ : ∃ session, start (.fixed timeout pollInterval) now = .ok session :=
      exists_start interval room now
    have few : n ≤ timeout / pollInterval := by
      have late : now + n * pollInterval ≤ (calls.call n).start :=
        calls.le_start (fun _ => Nat.le_refl _) n
      have early := last.begun n (Nat.le_refl n)
      have le := budget_le now timeout
      exact (Nat.le_div_iff_mul_le interval).2 (by omega)
    refine ⟨n, Nat.succ_le_succ few, last, ?_⟩
    have inStep := calls.inStep_of_start started
    by_cases met : ∃ value, calls.Meets awaited memory n value
    · obtain ⟨value, met⟩ := met
      refine .inl ⟨value, met, .readClock_bind ?_⟩
      rw [started]
      exact pollByFrom_through last paced
        (fun session inStep => pollByFrom_of_meets _ met inStep) inStep
    · refine .inr ⟨met, .readClock_bind ?_⟩
      rw [started]
      refine pollByFrom_through last paced (fun session inStep => ?_) inStep
      rw [calls.getLast?_values_succ]
      exact pollByFrom_refused _ met (last.refused paced met inStep)

/-- A value, a failure, and another value in a reply that takes four seconds. -/
def climbing : World (outcomes Nat) Nat :=
  script
    (fun count => if count = 0 then .ok 3 else if count = 1 then .error (.status 503) else .ok 5)
    fun count => if count < 2 then 0 else Duration.ofSecs 4

/-- Whether a value is five, by a predicate that remembers what it was asked about. -/
def five (value : Nat) : StateM (List Nat) Bool := do
  modify (· ++ [value])
  return value == 5

/-- The third call gives the awaited value after the deadline of three seconds. No call is made on a
budget of a second. -/
theorem poll_exactly_sample :
    (pollBy "node0" "height" (Duration.ofSecs 1) toString told five []).Plays climbing 0 0 []
      (.error (.backoff (.timeoutTooShort (Duration.ofSecs 1) (Duration.ofSecs 1)), [])) 0 0 ∧
    (pollBy "node0" "height" (Duration.ofSecs 3) toString told five []).Plays climbing 0 0
      [⟨0, (), .ok 3, 0⟩, ⟨Duration.ofSecs 1, (), .error (.status 503), 0⟩,
        ⟨Duration.ofSecs 2, (), .ok 5, Duration.ofSecs 4⟩]
      (.ok (⟨5, 3, Duration.ofSecs 6, 0⟩, [3, 5])) (Duration.ofSecs 6) 3 := by
  refine ⟨(poll_exactly _ _ _ _ told five [] climbing 0 0).1 (by decide), ?_⟩
  obtain ⟨n, -, last, result⟩ :=
    (poll_exactly "node0" "height" (Duration.ofSecs 3) toString told five [] climbing 0 0).2
      (by decide) (by decide)
  have met : (polls climbing told 0 0).Meets five [] 2 5 := ⟨rfl, rfl⟩
  obtain rfl : n = 2 := by
    have le : n ≤ 2 := Nat.not_lt.1 fun less => last.unmet 2 less ⟨5, met⟩
    match n, last.ended with
    | 0, .inl ⟨_, rfl, wrong⟩ => cases wrong
    | 0, .inr past => exact absurd past (by decide)
    | 1, .inl ⟨_, failed, _⟩ => cases failed
    | 1, .inr past => exact absurd past (by decide)
    | 2, _ => rfl
  rcases result with ⟨value, ⟨given, _⟩, plays⟩ | ⟨unmet, _⟩
  · obtain rfl : 5 = value := Except.ok.inj (met.1.symm.trans given)
    exact plays
  · exact absurd ⟨5, met⟩ unmet

end Poll

end Query

end UpgradeDrill
