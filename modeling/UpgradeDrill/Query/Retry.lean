import UpgradeDrill.Query.Error
import UpgradeDrill.Routine.Basic
import UpgradeDrill.Text.Inspect

/-!
# Retried queries

A query is retried with doubling delays until it gives a value, or polled every second until its
value is the awaited one. Both give up when the budget has no room for another wait, so both end
whatever the query does.
-/

namespace UpgradeDrill.Query

variable {I : Interface} {α τ : Type}

def pollInterval : Nat := Duration.ofSecs 1

/-- The value that ended a poll. -/
structure Poll (α : Type) where
  value : α
  /-- Queries made, the last one included. -/
  attempts : Nat
  elapsed : Nat
  remaining : Nat
  deriving DecidableEq, Repr

/-- A retried query from some state of its session on. -/
def retryFrom (participant operation : String) (query : Attempt I QueryError α)
    (session : Backoff) : Attempt I QueryError α := do
  let (outcome, took) ← query.timed
  match outcome with
  | .ok value => return value
  | .error error =>
    -- The attempt and the wait after it both count against the budget.
    let session := session.pass took
    match _granted : session.wait with
    | .ok next => do
      Attempt.sleep session.delay
      retryFrom participant operation query next
    | .error _ => throw (.retriesExhausted participant operation (session.waits + 1) error)
termination_by session.remaining
decreasing_by
  exact Nat.lt_of_lt_of_le (Backoff.remaining_lt_of_wait _granted) (Backoff.remaining_pass_le _ _)

/-- Makes a query until it succeeds, with doubling delays between the attempts. -/
def retry (participant operation : String) (timeout : Nat) (query : Attempt I QueryError α) :
    Attempt I QueryError α := do
  match Backoff.start (.doubling timeout) (← Attempt.readClock) with
  | .ok session => retryFrom participant operation query session
  | .error error => throw (.backoff error)

/-- What a predicate that has a memory makes of an outcome: the value if it is the awaited one, and
what is remembered then. The predicate is asked once about a value, and not about a failure. -/
def judge (awaited : α → StateM τ Bool) (memory : τ) : Except QueryError α → Option α × τ
  | .ok value =>
    let (met, memory) := (awaited value).run memory
    (if met then some value else none, memory)
  | .error _ => (none, memory)

/-- A poll from some state of its session on, after some attempts, with what its predicate remembers
and with the last value. What is remembered in the end is handed back. -/
def pollByFrom (participant operation : String) (timeout : Nat) (text : α → String)
    (query : Attempt I QueryError α) (awaited : α → StateM τ Bool) (memory : τ) (attempts : Nat)
    (last : Option α) (session : Backoff) : Attempt I (QueryError × τ) (Poll α × τ) := do
  let (outcome, took) ← query.timed
  let session := session.pass took
  match judge awaited memory outcome with
  | (some value, memory) =>
    return (⟨value, attempts + 1, session.elapsed, session.remaining⟩, memory)
  | (none, memory) =>
    let last := outcome.toOption.or last
    match _granted : session.wait with
    | .ok next => do
      Attempt.sleep session.delay
      pollByFrom participant operation timeout text query awaited memory (attempts + 1) last next
    | .error _ =>
      throw (.unsatisfied participant operation timeout (inspectOption text last), memory)
termination_by session.remaining
decreasing_by
  exact Nat.lt_of_lt_of_le (Backoff.remaining_lt_of_wait _granted) (Backoff.remaining_pass_le _ _)

/-- Makes a query every second until a predicate takes its value for the awaited one. Failed queries
count for nothing, and the last value observed is reported in the end. -/
def pollBy (participant operation : String) (timeout : Nat) (text : α → String)
    (query : Attempt I QueryError α) (awaited : α → StateM τ Bool) (memory : τ) :
    Attempt I (QueryError × τ) (Poll α × τ) := do
  match Backoff.start (.fixed timeout pollInterval) (← Attempt.readClock) with
  | .ok session =>
    pollByFrom participant operation timeout text query awaited memory 0 none session
  | .error error => throw (.backoff error, memory)

/-- What an attempt gives without what is remembered. -/
def forget (attempt : Attempt I (QueryError × τ) (α × τ)) : Attempt I QueryError α :=
  Prod.fst <$> attempt.widen Prod.fst

/-- A poll by a predicate that remembers nothing. -/
def pollUntil (participant operation : String) (timeout : Nat) (text : α → String)
    (query : Attempt I QueryError α) (awaited : α → Bool) : Attempt I QueryError (Poll α) :=
  forget (pollBy participant operation timeout text query (fun value => pure (awaited value)) ())

end UpgradeDrill.Query
