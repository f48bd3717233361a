import UpgradeDrill.Routine.Basic

/-!
# Running routines

A world answers requests from a state of its own that it may change with each answer. Running a
routine against a world moves a clock forward by every wait, and the routine may read it.
-/

namespace UpgradeDrill

/-- How the outside answers: from its state and the time, the reply, how long the reply takes to
arrive, and the new state. -/
structure World (I : Interface) (σ : Type) where
  answer : σ → (now : Nat) → (request : I.Request) → I.Reply request × Nat × σ

/-- How a run ended: the result, the time, and the state of the world. -/
structure Ending (α σ : Type) where
  value : α
  time : Nat
  state : σ

namespace Routine

variable {I : Interface} {α β σ : Type}

/-- Runs a routine against a world from a given time and state. -/
def run (world : World I σ) : Routine I α → Nat → σ → Ending α σ
  | done value, now, state => ⟨value, now, state⟩
  | ask request next, now, state =>
    let (reply, took, state) := world.answer state now request
    (next reply took).run world now state
  | wait pause next, now, state => next.run world (now + pause) state
  | clock next, now, state => (next now).run world now state

@[simp] theorem run_done (world : World I σ) (value : α) (now : Nat) (state : σ) :
    (done value : Routine I α).run world now state = ⟨value, now, state⟩ := rfl

@[simp] theorem run_wait (world : World I σ) (pause : Nat) (next : Routine I α) (now : Nat)
    (state : σ) : (wait pause next).run world now state = next.run world (now + pause) state := rfl

@[simp] theorem run_clock (world : World I σ) (next : Nat → Routine I α) (now : Nat) (state : σ) :
    (clock next).run world now state = (next now).run world now state := rfl

/-- A routine that goes on with the result of another runs from where that one ended. -/
theorem run_bind (world : World I σ) (routine : Routine I α) (f : α → Routine I β) (now : Nat)
    (state : σ) :
    (routine >>= f).run world now state =
      (f (routine.run world now state).value).run world (routine.run world now state).time
        (routine.run world now state).state := by
  induction routine generalizing now state with
  | done value => rfl
  | ask request next ih => exact ih _ _ _ _
  | wait pause next ih => exact ih _ _
  | clock next ih => exact ih _ _ _

end Routine

end UpgradeDrill
