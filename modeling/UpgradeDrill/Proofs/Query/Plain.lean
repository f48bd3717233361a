import Mathlib.Tactic.Lemma
import UpgradeDrill.Query.Retry

/-!
# Polls by a plain predicate

A poll whose predicate remembers nothing is the loop that keeps no memory: `pollFrom` unfolds to
that loop (`pollFrom_eq`), and `pollUntil` begins it (`pollUntil_eq`).
-/

namespace UpgradeDrill.Query

variable {I : Interface} {α β τ : Type}

section Forget

lemma run_forget (x : Attempt I (QueryError × τ) (α × τ)) :
    (forget x).run = (fun outcome => (outcome.mapError Prod.fst).map Prod.fst) <$> x.run := by
  have widened : (x.widen Prod.fst).run = Except.mapError Prod.fst <$> x.run := rfl
  rw [forget, ExceptT.run_map, widened, Functor.map_map]

/-- What a routine does first stays first. -/
lemma forget_lift_bind (r : Routine I β) (f : β → Attempt I (QueryError × τ) (α × τ)) :
    forget (ExceptT.lift r >>= f) = ExceptT.lift r >>= fun value => forget (f value) := by
  refine ExceptT.ext ?_
  simp only [run_forget, ExceptT.run_bind_lift, map_bind]

end Forget

lemma judge_plain (awaited : α → Bool) (outcome : Except QueryError α) :
    judge (fun value => pure (awaited value)) () outcome =
      (outcome.toOption.filter awaited, ()) := by
  cases outcome with
  | ok value => rfl
  | error error => rfl

variable (participant operation : String) (timeout : Nat) (text : α → String)
  (query : Attempt I QueryError α) (awaited : α → Bool)

/-- A poll by a plain predicate from some state of its session on. -/
def pollFrom (attempts : Nat) (last : Option α) (session : Backoff) :
    Attempt I QueryError (Poll α) :=
  forget (pollByFrom participant operation timeout text query (fun value => pure (awaited value)) ()
    attempts last session)

/-- The loop that keeps no memory. -/
theorem pollFrom_eq (attempts : Nat) (last : Option α) (session : Backoff) :
    pollFrom participant operation timeout text query awaited attempts last session = (do
      let (outcome, took) ← query.timed
      let session := session.pass took
      match outcome.toOption.filter awaited with
      | some value => return ⟨value, attempts + 1, session.elapsed, session.remaining⟩
      | none =>
        let last := outcome.toOption.or last
        match session.wait with
        | .ok next => do
          Attempt.sleep session.delay
          pollFrom participant operation timeout text query awaited (attempts + 1) last next
        | .error _ =>
          throw (.unsatisfied participant operation timeout (inspectOption text last))) := by
  rw [pollFrom, pollByFrom, Attempt.timed, forget_lift_bind]
  refine congrArg _ (funext fun timed => ?_)
  obtain ⟨outcome, took⟩ := timed
  dsimp only
  rw [judge_plain]
  cases outcome.toOption.filter awaited with
  | some value => rfl
  | none =>
    dsimp only
    split
    · rename_i next granted
      rw [granted]
      exact forget_lift_bind _ _
    · rename_i refused
      rw [refused]
      rfl

theorem pollUntil_eq :
    pollUntil participant operation timeout text query awaited = (do
      match Backoff.start (.fixed timeout pollInterval) (← Attempt.readClock) with
      | .ok session => pollFrom participant operation timeout text query awaited 0 none session
      | .error error => throw (.backoff error)) := by
  rw [pollUntil, pollBy, Attempt.readClock, forget_lift_bind]
  refine congrArg _ (funext fun now => ?_)
  cases Backoff.start (.fixed timeout pollInterval) now with
  | ok session => rfl
  | error error => rfl

end UpgradeDrill.Query
