/-!
# Routines

A routine is what one agent does, step by step: it asks the outside for something, waits, reads the
clock, or is done. It is a tree, so it can be reasoned about before anything answers it. Asking
takes no time of its own: a reply comes with the time it takes to arrive, and whoever asked waits
for it.
-/

namespace UpgradeDrill

/-- What can be asked of the outside, and what each request is answered with. -/
structure Interface where
  Request : Type
  Reply : Request → Type

/-- The steps of one agent over an interface. -/
inductive Routine (I : Interface) (α : Type) where
  | done (value : α)
  | ask (request : I.Request) (next : I.Reply request → (took : Nat) → Routine I α)
  | wait (pause : Nat) (next : Routine I α)
  | clock (next : (now : Nat) → Routine I α)

/-- A routine that may fail. -/
abbrev Attempt (I : Interface) (ε α : Type) : Type := ExceptT ε (Routine I) α

namespace Routine

variable {I : Interface} {α β γ : Type}

protected def bind : Routine I α → (α → Routine I β) → Routine I β
  | done value, f => f value
  | ask request next, f => ask request fun reply took => (next reply took).bind f
  | wait pause next, f => wait pause (next.bind f)
  | clock next, f => clock fun now => (next now).bind f

instance : Monad (Routine I) where
  pure := done
  bind := Routine.bind

@[simp] theorem pure_eq (value : α) : (pure value : Routine I α) = done value := rfl

@[simp] theorem done_bind (value : α) (f : α → Routine I β) : (done value >>= f) = f value := rfl

@[simp] theorem ask_bind (request : I.Request) (next : I.Reply request → Nat → Routine I α)
    (f : α → Routine I β) :
    (ask request next >>= f) = ask request fun reply took => next reply took >>= f := rfl

@[simp] theorem wait_bind (pause : Nat) (next : Routine I α) (f : α → Routine I β) :
    (wait pause next >>= f) = wait pause (next >>= f) := rfl

@[simp] theorem clock_bind (next : Nat → Routine I α) (f : α → Routine I β) :
    (clock next >>= f) = clock fun now => next now >>= f := rfl

theorem bind_done (routine : Routine I α) : routine >>= done = routine := by
  induction routine with
  | done value => rfl
  | ask request next ih => simp only [ask_bind, ih]
  | wait pause next ih => simp only [wait_bind, ih]
  | clock next ih => simp only [clock_bind, ih]

theorem bind_bind (routine : Routine I α) (f : α → Routine I β) (g : β → Routine I γ) :
    routine >>= f >>= g = routine >>= fun value => f value >>= g := by
  induction routine with
  | done value => rfl
  | ask request next ih => simp only [ask_bind, ih]
  | wait pause next ih => simp only [wait_bind, ih]
  | clock next ih => simp only [clock_bind, ih]

instance : LawfulMonad (Routine I) :=
  LawfulMonad.mk' (Routine I)
    (fun routine => bind_done routine)
    (fun _ _ => rfl)
    bind_bind

/-- Asks once and waits for the reply. -/
def request (request : I.Request) : Routine I (I.Reply request) :=
  ask request fun reply took => wait took (done reply)

def sleep (pause : Nat) : Routine I Unit := wait pause (done ())

def readClock : Routine I Nat := clock done

/-- The result of a routine with the time it took, `spent` of it before the routine began. -/
def timedFrom (spent : Nat) : Routine I α → Routine I (α × Nat)
  | done value => done (value, spent)
  | ask request next => ask request fun reply took => (next reply took).timedFrom spent
  | wait pause next => wait pause (next.timedFrom (spent + pause))
  | clock next => clock fun now => (next now).timedFrom spent

def timed (routine : Routine I α) : Routine I (α × Nat) := routine.timedFrom 0

end Routine

namespace Attempt

variable {I : Interface} {ε ε' α : Type}

def request (request : I.Request) : Attempt I ε (I.Reply request) :=
  ExceptT.lift (Routine.request request)

def sleep (pause : Nat) : Attempt I ε Unit := ExceptT.lift (Routine.sleep pause)

def readClock : Attempt I ε Nat := ExceptT.lift Routine.readClock

/-- The outcome of an attempt, a failure included, with the time it took. -/
def timed (attempt : Attempt I ε α) : Attempt I ε' (Except ε α × Nat) :=
  ExceptT.lift (Routine.timed attempt.run)

/-- The outcome of an attempt, a failure included. -/
def outcome (attempt : Attempt I ε α) : Attempt I ε' (Except ε α) := ExceptT.lift attempt.run

/-- An attempt that has already been decided. -/
def ofExcept (result : Except ε α) : Attempt I ε α := ExceptT.mk (Routine.done result)

/-- The same attempt with its errors seen as those of a wider operation. -/
def widen (f : ε → ε') (attempt : Attempt I ε α) : Attempt I ε' α := ExceptT.adapt f attempt

end Attempt

end UpgradeDrill
