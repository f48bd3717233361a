import UpgradeDrill.Proofs.Backoff
import UpgradeDrill.Proofs.Query.Plain
import UpgradeDrill.Proofs.Routine.Plays

/-!
# The calls of a loop

A loop makes a call until one is enough or its session refuses the wait before the next one. `Calls`
lists them with the instants at which they begin and end, whatever loop makes them. Against a world
a retried query (`Paced.retry`) and a polled one (`Paced.pollUntil`) make the calls that their
sessions pace, and what they give is read off these calls.
-/

namespace UpgradeDrill

/-- A call made by a loop: when it began, how it ended, and when. -/
structure Call (ε α : Type) where
  start : Nat
  outcome : Except ε α
  finish : Nat

/-- The last value among the outcomes of calls, if there is none another one. -/
def lastValue {ε α : Type} (calls : List (Call ε α)) (last : Option α) : Option α :=
  calls.foldl (fun last call => call.outcome.toOption.or last) last

section Calls

open Attempt

variable {I : Interface} {ε α σ : Type} (world : World I σ) (x : Attempt I ε α)
  (enough : Except ε α → Bool)

/-- The calls of a loop from a state of its session on, with their exchanges and the outcome of the
last one. Both the call and the wait after it count against the budget of the session. -/
inductive Calls : Backoff → Nat → σ → List (Call ε α) → List (Exchange I) → Except ε α → Nat →
    σ → Prop where
  | met {session now state es outcome finish last} :
    x.Plays world now state es outcome finish last →
    enough outcome = true →
    Calls session now state [⟨now, outcome, finish⟩] es outcome finish last
  | refused {session now state es outcome finish last reason} :
    x.Plays world now state es outcome finish last →
    enough outcome = false →
    (session.pass (finish - now)).wait = .error reason →
    Calls session now state [⟨now, outcome, finish⟩] es outcome finish last
  | again {session next now state es outcome time mid calls es' final finish last} :
    x.Plays world now state es outcome time mid →
    enough outcome = false →
    (session.pass (time - now)).wait = .ok next →
    Calls next (time + session.delay) mid calls es' final finish last →
    Calls session now state (⟨now, outcome, time⟩ :: calls) (es ++ es') final finish last

/-- Every session comes to its last call. -/
theorem exists_calls (session : Backoff) (now : Nat) (state : σ) :
    ∃ calls es outcome finish last,
      Calls world x enough session now state calls es outcome finish last := by
  induction session using Backoff.wait_induction generalizing now state with
  | again session ih =>
    obtain ⟨es, outcome, time, mid, plays⟩ := exists_plays world x now state
    cases met : enough outcome with
    | true => exact ⟨_, _, _, _, _, .met plays met⟩
    | false =>
      cases granted : (session.pass (time - now)).wait with
      | error reason => exact ⟨_, _, _, _, _, .refused plays met granted⟩
      | ok next =>
        obtain ⟨_, _, _, _, _, calls⟩ := ih _ next granted (time + session.delay) mid
        exact ⟨_, _, _, _, _, .again plays met granted calls⟩

/-- The calls of a loop with a budget: none if its session cannot start, and then the reason. -/
inductive Paced (config : BackoffConfig) (now : Nat) (state : σ) : List (Call ε α) →
    List (Exchange I) → Except BackoffError (Except ε α) → Nat → σ → Prop where
  | refused {reason} :
    Backoff.start config now = .error reason →
    Paced config now state [] [] (.error reason) now state
  | begun {session calls es outcome finish last} :
    Backoff.start config now = .ok session →
    Calls world x enough session now state calls es outcome finish last →
    Paced config now state calls es (.ok outcome) finish last

theorem exists_paced (config : BackoffConfig) (now : Nat) (state : σ) :
    ∃ calls es ending finish last,
      Paced world x enough config now state calls es ending finish last := by
  cases started : Backoff.start config now with
  | error reason => exact ⟨_, _, _, _, _, .refused started⟩
  | ok session =>
    obtain ⟨_, _, _, _, _, calls⟩ := exists_calls world x enough session now state
    exact ⟨_, _, _, _, _, .begun started calls⟩

end Calls

lemma Except.toOption_mapError {ε ε' α : Type} (f : ε → ε') (outcome : Except ε α) :
    (outcome.mapError f).toOption = outcome.toOption := by
  cases outcome with
  | error error => rfl
  | ok value => rfl

section Query

open Attempt

variable {I : Interface} {ε α σ : Type} {world : World I σ} {x : Attempt I ε α} {now finish : Nat}
  {state final : σ} {calls : List (Call ε α)} {es : List (Exchange I)} {outcome : Except ε α}
  {ending : Except BackoffError (Except ε α)} {session : Backoff} (participant operation : String)
  (widen : ε → QueryError)

lemma Calls.le {enough : Except ε α → Bool}
    (made : Calls world x enough session now state calls es outcome finish final) :
    now ≤ finish := by
  induction made with
  | met plays _ => exact plays.le
  | refused plays _ _ => exact plays.le
  | again plays _ _ _ ih => exact Nat.le_trans plays.le (Nat.le_trans (Nat.le_add_right ..) ih)

/-- What a retried query gives after its calls. -/
def Query.retryEnd (calls : List (Call ε α)) :
    Except BackoffError (Except ε α) → Except QueryError α
  | .error reason => .error (.backoff reason)
  | .ok outcome =>
    outcome.mapError fun error =>
      .retriesExhausted participant operation calls.length (widen error)

lemma Calls.retryFrom
    (made : Calls world x (·.isOk) session now state calls es outcome finish final) :
    (Query.retryFrom participant operation (x.widen widen) session).Plays world now state es
      (outcome.mapError fun error =>
        .retriesExhausted participant operation (session.waits + calls.length) (widen error))
      finish final := by
  induction made with
  | @met _ _ _ es outcome _ _ plays met =>
    rw [Query.retryFrom, ← List.append_nil es]
    refine (plays.widen widen).timed_bind ?_
    cases outcome with
    | error error => cases met
    | ok value => exact plays_pure value
  | @refused _ _ _ es outcome _ _ _ plays unmet refused =>
    rw [Query.retryFrom, ← List.append_nil es]
    refine (plays.widen widen).timed_bind ?_
    cases outcome with
    | ok value => cases unmet
    | error error =>
      dsimp only [Except.mapError]
      split
      · rename_i granted
        cases refused.symm.trans granted
      · exact plays_throw _
  | @again session next _ _ _ outcome _ _ calls _ _ _ _ plays unmet granted _ ih =>
    have count : session.waits + (calls.length + 1) = next.waits + calls.length := by
      rw [(Backoff.wait_ok granted).1, Nat.add_right_comm, Nat.add_assoc]
      rfl
    rw [Query.retryFrom, List.length_cons, count]
    refine (plays.widen widen).timed_bind ?_
    cases outcome with
    | ok value => cases unmet
    | error error =>
      dsimp only [Except.mapError]
      split
      · rename_i next' granted'
        cases granted.symm.trans granted'
        exact .sleep_bind ih
      · rename_i refused
        cases granted.symm.trans refused

/-- A retried query makes the calls that doubling delays pace. -/
theorem Paced.retry {timeout : Nat}
    (paced : Paced world x (·.isOk) (.doubling timeout) now state calls es ending finish final) :
    (Query.retry participant operation timeout (x.widen widen)).Plays world now state es
      (Query.retryEnd participant operation widen calls ending) finish final := by
  refine .readClock_bind ?_
  cases paced with
  | refused refused =>
    rw [refused]
    exact plays_throw _
  | begun started made =>
    rw [started]
    have plays := made.retryFrom participant operation widen
    rw [(Backoff.start_ok started).1, Nat.zero_add] at plays
    exact plays

variable (timeout : Nat) (text : α → String) (awaited : α → Bool)

/-- What a polled query gives when the last call of some number ended with an outcome, at a time
that left another, and the last value was the one given. -/
def Query.pollGives (count elapsed remaining : Nat) (last : Option α) (outcome : Except ε α) :
    Except QueryError (Query.Poll α) :=
  match outcome.toOption.filter awaited with
  | some value => .ok ⟨value, count, elapsed, remaining⟩
  | none => .error (.unsatisfied participant operation timeout (inspectOption text last))

section PollGives

variable {participant operation timeout text awaited} {count elapsed remaining : Nat}
  {last : Option α}

lemma Query.pollGives_of_some {value : α} (found : outcome.toOption.filter awaited = some value) :
    pollGives participant operation timeout text awaited count elapsed remaining last outcome =
      .ok ⟨value, count, elapsed, remaining⟩ := by
  rw [pollGives, found]

lemma Query.pollGives_of_none (missed : outcome.toOption.filter awaited = none) :
    pollGives participant operation timeout text awaited count elapsed remaining last outcome =
      .error (.unsatisfied participant operation timeout (inspectOption text last)) := by
  rw [pollGives, missed]

end PollGives

/-- What a polled query gives after its calls. -/
def Query.pollEnd (elapsed remaining : Nat) (calls : List (Call ε α)) :
    Except BackoffError (Except ε α) → Except QueryError (Query.Poll α)
  | .error reason => .error (.backoff reason)
  | .ok outcome =>
    Query.pollGives participant operation timeout text awaited calls.length elapsed remaining
      (lastValue calls none) outcome

lemma Calls.pollFrom (attempts : Nat) (last : Option α)
    (made : Calls world x (fun outcome => (outcome.toOption.filter awaited).isSome) session now
      state calls es outcome finish final) :
    (Query.pollFrom participant operation timeout text (x.widen widen) awaited attempts last
      session).Plays world now state es
        (Query.pollGives participant operation timeout text awaited (attempts + calls.length)
          (session.elapsed + (finish - now)) (session.deadline - (session.elapsed + (finish - now)))
          (lastValue calls last) outcome) finish final := by
  induction made generalizing attempts last with
  | @met session _ _ es outcome _ _ plays met =>
    rw [Query.pollFrom_eq, ← List.append_nil es]
    refine (plays.widen widen).timed_bind ?_
    dsimp only
    rw [Except.toOption_mapError]
    split
    · rename_i found
      rw [Query.pollGives_of_some found]
      exact plays_pure _
    · rename_i missed
      rw [missed] at met
      cases met
  | @refused session _ _ es outcome _ _ _ plays unmet refused =>
    rw [Query.pollFrom_eq, ← List.append_nil es]
    refine (plays.widen widen).timed_bind ?_
    dsimp only
    rw [Except.toOption_mapError]
    split
    · rename_i found
      rw [found] at unmet
      cases unmet
    · rename_i missed
      rw [Query.pollGives_of_none missed]
      split
      · rename_i granted
        cases refused.symm.trans granted
      · exact plays_throw _
  | @again session next now _ _ outcome time _ calls _ _ finish _ plays unmet granted rest ih =>
    obtain ⟨-, elapsed, deadline⟩ := Backoff.wait_ok granted
    have passed : session.elapsed + (finish - now) =
        next.elapsed + (finish - (time + session.delay)) := by
      have before := plays.le
      have after := rest.le
      rw [elapsed]
      simp only [Backoff.pass]
      omega
    have count : attempts + (calls.length + 1) = attempts + 1 + calls.length :=
      Nat.add_right_comm attempts calls.length 1
    have same : session.deadline = next.deadline := deadline.symm
    rw [Query.pollFrom_eq, List.length_cons, count, passed, same]
    refine (plays.widen widen).timed_bind ?_
    dsimp only
    rw [Except.toOption_mapError]
    split
    · rename_i found
      rw [found] at unmet
      cases unmet
    · split
      · rename_i next' granted'
        cases granted.symm.trans granted'
        exact .sleep_bind (ih _ _)
      · rename_i refused
        cases granted.symm.trans refused

/-- A polled query makes the calls that a fixed delay paces. -/
theorem Paced.pollUntil
    (paced : Paced world x (fun outcome => (outcome.toOption.filter awaited).isSome)
      (.fixed timeout Query.pollInterval) now state calls es ending finish final) :
    ∃ remaining,
      (Query.pollUntil participant operation timeout text (x.widen widen) awaited).Plays world now
        state es
        (Query.pollEnd participant operation timeout text awaited (finish - now) remaining calls
          ending)
        finish final := by
  rw [Query.pollUntil_eq]
  cases paced with
  | refused refused =>
    refine ⟨0, .readClock_bind ?_⟩
    rw [refused]
    exact plays_throw _
  | begun started made =>
    have plays := made.pollFrom participant operation widen timeout text awaited 0 none
    rw [(Backoff.start_ok started).2, Nat.zero_add, Nat.zero_add] at plays
    exact ⟨_, .readClock_bind (by rw [started]; exact plays)⟩

end Query

end UpgradeDrill
