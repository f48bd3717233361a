import UpgradeDrill.Proofs.Query.Exact

/-!
# The errors that loops absorb

An error that is no failed attempt (`Series.Terminal`) is for the caller of a loop: a loop that
heeds it ends with the first such call and hands its error on (`Query.heed`). Retries and polls do
not look at which error a call ends with. They go on after every one, so they end as loops that heed
do only where nothing is to be heeded (`every_error_absorbed`).
-/

namespace UpgradeDrill

open Attempt Backoff

variable {I : Interface} {α β ε σ τ : Type}

namespace Series

/-- A call ends with an error that is no failed attempt. -/
def Terminal (calls : Series I QueryError α σ) (k : Nat) : Prop :=
  ∃ error, (calls.call k).outcome = .error error ∧ error.isAttempt = false

end Series

namespace Query

/-- What a loop gives after a call if it hands on an error that is no failed attempt. -/
def heed (handOn : QueryError → ε) (usual : Except ε β) : Except QueryError α → Except ε β
  | .ok _ => usual
  | .error error => if error.isAttempt then usual else .error (handOn error)

/-- A loop absorbs every error of its calls. It ends with the call `n`, and gives what is usual
then. If it heeded errors that are no failed attempts, it would end with the call `m`. -/
structure Absorbs (x : Attempt I ε β) (calls : Series I QueryError α σ) (deadline : Nat)
    (enough : Nat → Prop) (usual : Nat → Except ε β) (handOn : Nat → QueryError → ε)
    (n m : Nat) : Prop where
  last : calls.LastCall deadline enough n
  makes : calls.Makes x n (usual n)
  due : calls.LastCall deadline (fun k => enough k ∨ calls.Terminal k) m
  le : m ≤ n
  /-- The loop does as one that heeds exactly if no call ends with an error to be handed on, or only
  the last one does, with the very error that the loop gives. -/
  heeds : calls.Makes x m (heed (handOn m) (usual m) (calls.call m).outcome) ↔
    ∀ k ≤ n, ∀ error, (calls.call k).outcome = .error error → error.isAttempt = false →
      k = n ∧ usual n = .error (handOn n error)

section Absorbs

variable {x : Attempt I ε β} {calls : Series I QueryError α σ} {deadline : Nat}
  {enough : Nat → Prop} {usual : Nat → Except ε β} {handOn : Nat → QueryError → ε} {n m : Nat}

lemma heed_eq_usual {handOn : QueryError → ε} {usual : Except ε β} {outcome : Except QueryError α}
    (same : ∀ error, outcome = .error error → error.isAttempt = false →
      usual = .error (handOn error)) : heed handOn usual outcome = usual := by
  cases outcome with
  | ok value => rfl
  | error error =>
    rw [heed]
    split
    · rfl
    · rename_i final
      exact (same error rfl (Bool.eq_false_iff.2 final)).symm

/-- The call up to which there is nothing to be heeded is the last one. -/
lemma eq_of_nothing_hidden (last : calls.LastCall deadline enough n)
    (due : calls.LastCall deadline (fun k => enough k ∨ calls.Terminal k) m) (le : m ≤ n)
    (only : calls.Terminal m → m = n) : m = n := by
  refine le.eq_or_lt.resolve_right fun less => ?_
  rcases due.ended with (met | final) | past
  · exact last.unmet m less met
  · exact Nat.ne_of_lt less (only final)
  · exact Nat.not_lt.2 (last.begun (m + 1) less) past

/-- A loop that ends with its last call, whatever the errors of the calls before it were. -/
theorem exists_absorbs (pauses : ∀ k, 0 < calls.pause k) (begun : calls.start ≤ deadline)
    (last : calls.LastCall deadline enough n) (makes : calls.Makes x n (usual n)) :
    ∃ m, Absorbs x calls deadline enough usual handOn n m := by
  obtain ⟨m, due⟩ :=
    calls.exists_lastCall (fun k => enough k ∨ calls.Terminal k) pauses begun
  have le : m ≤ n := Series.LastCall.le (fun _ => .inl) due last
  refine ⟨m, last, makes, due, le, ?_, ?_⟩
  · intro heeding k bound error failed final
    -- Both runs end at the same time, and no two calls do.
    obtain ⟨given, time⟩ := Plays.unique heeding makes
    obtain rfl : m = n := (calls.finish_strictMono pauses).injective time
    rcases bound.eq_or_lt with rfl | less
    · refine ⟨rfl, ?_⟩
      rw [← given, failed, heed, final]
      rfl
    · exact absurd (.inr ⟨error, failed, final⟩) (due.unmet k less)
  · intro only
    obtain rfl : m = n := by
      refine eq_of_nothing_hidden last due le ?_
      rintro ⟨error, failed, final⟩
      exact (only m le error failed final).1
    rwa [heed_eq_usual fun error failed final => (only m le error failed final).2]

end Absorbs

section Loops

variable {world : World I σ} {query : Attempt I QueryError α} {now timeout n : Nat} {state : σ}
  (participant operation : String)

/-- What a retried query gives when a call was its last one. -/
def retried (calls : Series I QueryError α σ) (n : Nat) : Except QueryError α :=
  (calls.call n).outcome.mapError (.retriesExhausted participant operation (n + 1))

/-- A retried query gives no error of a call as it is. -/
lemma retried_ne {calls : Series I QueryError α σ} {error : QueryError}
    (failed : (calls.call n).outcome = .error error) :
    retried participant operation calls n ≠ .error error := by
  rw [retried, failed]
  intro same
  have size := congrArg sizeOf (Except.error.inj same)
  simp at size

lemma retries_pause_eq (timeout : Nat) :
    (retries world query now state).pause = BackoffConfig.delayAfter (.doubling timeout) :=
  funext fun k => (BackoffConfig.delayAfter_doubling timeout k).symm

/-- A retried query ends with the last call of its series. -/
lemma makes_retry (room : BackoffConfig.defaultInitialDelay < timeout)
    (last : (retries world query now state).LastCall (now + budget now timeout)
      (fun k => ((retries world query now state).call k).outcome.isOk = true) n) :
    (retries world query now state).Makes (retry participant operation timeout query) n
      (retried participant operation (retries world query now state) n) := by
  obtain ⟨session, started⟩ := start_doubling room now
  have plays := (last.calls (retries_pause_eq timeout) started).retry participant operation id
  rwa [Attempt.widen_id, retryEnd, List.length_map, List.length_range] at plays

variable (text : α → String) (awaited : α → StateM τ Bool) (memory : τ)

/-- What a polled query gives when a call was its last one. -/
def polled (timeout : Nat) (calls : Series I QueryError α σ) (n : Nat) :
    Except (QueryError × τ) (Poll α × τ) :=
  let elapsed := (calls.call n).finish - calls.start
  let remembered := calls.remembered awaited memory (n + 1)
  match (judge awaited (calls.remembered awaited memory n) (calls.call n).outcome).1 with
  | some value => .ok (⟨value, n + 1, elapsed, budget calls.start timeout - elapsed⟩, remembered)
  | none =>
    .error (.unsatisfied participant operation timeout
      (inspectOption text (calls.values (n + 1)).getLast?), remembered)

/-- A polled query ends with the last call of its series. -/
lemma makes_pollBy (room : pollInterval < timeout)
    (last : (polls world query now state).LastCall (now + budget now timeout)
      (fun k => ∃ value, (polls world query now state).Meets awaited memory k value) n) :
    (polls world query now state).Makes
      (pollBy participant operation timeout text query awaited memory) n
      (polled participant operation text awaited memory timeout (polls world query now state)
        n) := by
  have paced : (polls world query now state).pause =
      BackoffConfig.delayAfter (.fixed timeout pollInterval) :=
    funext fun k => (BackoffConfig.delayAfter_fixed timeout pollInterval k).symm
  obtain ⟨session, started⟩ : ∃ session, start (.fixed timeout pollInterval)
      (polls world query now state).start = .ok session :=
    exists_start (show 0 < pollInterval by decide) room now
  refine .readClock_bind ?_
  rw [started]
  refine pollByFrom_through last paced (fun session inStep => ?_) (Series.inStep_of_start _ started)
  by_cases met : ∃ value, (polls world query now state).Meets awaited memory n value
  · obtain ⟨value, met⟩ := met
    rw [polled, judge_of_meets met]
    exact pollByFrom_of_meets _ met inStep
  · rw [polled, judge_of_unmet met, Series.getLast?_values_succ]
    exact pollByFrom_refused _ met (last.refused paced met inStep)

/-- Retried and polled queries absorb every error. Whatever the outcomes of its calls are and
however long they take, a loop goes on after each error, ones that are no failed attempts among
them, up to the first call that is enough or the last that begins by the deadline. So it does as a
loop that heeds these errors exactly if there are none, but for one of the last call that the loop
gives itself. A retried query never gives the error of its last call itself. -/
theorem every_error_absorbed {I : Interface} {α σ τ : Type} (participant operation : String)
    (timeout : Nat) (text : α → String) (query : Attempt I QueryError α)
    (awaited : α → StateM τ Bool) (memory : τ) (world : World I σ) (now : Nat) (state : σ) :
    (BackoffConfig.defaultInitialDelay < timeout →
      let calls := retries world query now state
      ∃ n m, Absorbs (retry participant operation timeout query) calls
        (now + budget now timeout)
        (fun k => (calls.call k).outcome.isOk = true) (retried participant operation calls)
        (fun _ error => error) n m ∧
        ∀ error, (calls.call n).outcome = .error error →
          retried participant operation calls n ≠ .error error) ∧
    (pollInterval < timeout →
      let calls := polls world query now state
      ∃ n m, Absorbs (pollBy participant operation timeout text query awaited memory) calls
        (now + budget now timeout) (fun k => ∃ value, calls.Meets awaited memory k value)
        (polled participant operation text awaited memory timeout calls)
        (fun k error => (error, calls.remembered awaited memory (k + 1))) n m) := by
  constructor
  · intro room calls
    have begun : calls.start ≤ now + budget now timeout := Nat.le_add_right ..
    have pauses (k : Nat) : 0 < calls.pause k := by
      rw [retries_pause_eq timeout]
      exact BackoffConfig.delayAfter_doubling_pos timeout k
    obtain ⟨n, last⟩ := calls.exists_lastCall _ pauses begun
    obtain ⟨m, absorbs⟩ :=
      exists_absorbs pauses begun last (makes_retry participant operation room last)
    exact ⟨n, m, absorbs, fun _ => retried_ne participant operation⟩
  · intro room calls
    have begun : calls.start ≤ now + budget now timeout := Nat.le_add_right ..
    have pauses (k : Nat) : 0 < calls.pause k := show 0 < pollInterval by decide
    obtain ⟨n, last⟩ := calls.exists_lastCall _ pauses begun
    exact ⟨n, exists_absorbs pauses begun last (makes_pollBy _ _ _ _ _ room last)⟩

end Loops

section Sample

/-- A wait that was given up, and then a value. -/
def lateValue : World (outcomes Nat) Nat :=
  script
    (fun count => if count = 0 then .error (.retriesExhausted "a" "b" 2 (.status 500)) else .ok 7)
    fun _ => 0

def seven (value : Nat) : StateM Unit Bool := pure (value == 7)

lemma retries_lateValue :
    (retries lateValue told 0 0).LastCall (0 + budget 0 (Duration.ofSecs 2))
      (fun k => ((retries lateValue told 0 0).call k).outcome.isOk = true) 1 where
  unmet
    | 0, _ => nofun
  begun
    | 0, _ | 1, _ => by decide
  ended := .inl rfl

lemma polls_lateValue :
    (polls lateValue told 0 0).LastCall (0 + budget 0 (Duration.ofSecs 2))
      (fun k => ∃ value, (polls lateValue told 0 0).Meets seven () k value) 1 where
  unmet
    | 0, _ => nofun
  begun
    | 0, _ | 1, _ => by decide
  ended := .inl ⟨7, rfl, rfl⟩

/-- The value is given, by the second call. A loop that heeds errors ends with the first one. -/
theorem every_error_absorbed_sample :
    Absorbs (retry "node0" "status" (Duration.ofSecs 2) told) (retries lateValue told 0 0)
      (0 + budget 0 (Duration.ofSecs 2))
      (fun k => ((retries lateValue told 0 0).call k).outcome.isOk = true)
      (retried "node0" "status" (retries lateValue told 0 0)) (fun _ error => error) 1 0 ∧
    Absorbs (pollBy "node0" "status" (Duration.ofSecs 2) toString told seven ())
      (polls lateValue told 0 0) (0 + budget 0 (Duration.ofSecs 2))
      (fun k => ∃ value, (polls lateValue told 0 0).Meets seven () k value)
      (polled "node0" "status" toString seven () (Duration.ofSecs 2) (polls lateValue told 0 0))
      (fun _ error => (error, ())) 1 0 := by
  obtain ⟨retrying, polling⟩ :=
    every_error_absorbed "node0" "status" (Duration.ofSecs 2) toString told seven () lateValue 0 0
  have final : (QueryError.retriesExhausted "a" "b" 2 (.status 500)).isAttempt = false := rfl
  constructor
  · obtain ⟨n, m, absorbs, -⟩ := retrying (by decide)
    obtain rfl : n = 1 := retries_lateValue.unique absorbs.last
    obtain rfl : m = 0 :=
      Nat.eq_zero_of_not_pos fun less => absorbs.due.unmet 0 less (.inr ⟨_, rfl, final⟩)
    exact absorbs
  · obtain ⟨n, m, absorbs⟩ := polling (by decide)
    obtain rfl : n = 1 := polls_lateValue.unique absorbs.last
    obtain rfl : m = 0 :=
      Nat.eq_zero_of_not_pos fun less => absorbs.due.unmet 0 less (.inr ⟨_, rfl, final⟩)
    exact absorbs

/-- An error that is no failed attempt does not end a retried or a polled query, though another call
and a pause before it follow. -/
theorem terminal_error_retried :
    (retry "node0" "status" (Duration.ofSecs 2) told).Plays lateValue 0 0
      [⟨0, (), .error (.retriesExhausted "a" "b" 2 (.status 500)), 0⟩,
        ⟨Duration.ofMillis 100, (), .ok 7, 0⟩]
      (.ok 7) (Duration.ofMillis 100) 2 ∧
    (pollBy "node0" "status" (Duration.ofSecs 2) toString told seven ()).Plays lateValue 0 0
      [⟨0, (), .error (.retriesExhausted "a" "b" 2 (.status 500)), 0⟩,
        ⟨Duration.ofSecs 1, (), .ok 7, 0⟩]
      (.ok (⟨7, 2, Duration.ofSecs 1, Duration.ofSecs 1⟩, ())) (Duration.ofSecs 1) 2 :=
  ⟨makes_retry _ _ (by decide) retries_lateValue,
    makes_pollBy _ _ _ _ _ (by decide) polls_lateValue⟩

end Sample

end Query

end UpgradeDrill
