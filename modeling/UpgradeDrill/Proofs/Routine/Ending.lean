import Mathlib.Tactic.Lemma
import UpgradeDrill.Routine.Run

/-!
# How runs of attempts end

`Ends` says of an attempt with which outcome, when and in which state of a world its run ends. A
world answers in one way only, so the run of an attempt is put together from the runs of its parts,
with one rule for each way of building an attempt.
-/

namespace UpgradeDrill

open Routine

namespace Routine

variable {I : Interface} {α β σ : Type} (world : World I σ)

lemma le_run_time (r : Routine I α) (now : Nat) (state : σ) :
    now ≤ (r.run world now state).time := by
  induction r generalizing now state with
  | done value => exact Nat.le_refl _
  | ask request next ih => exact ih _ _ _ _
  | wait pause next ih => exact Nat.le_trans (Nat.le_add_right ..) (ih _ _)
  | clock next ih => exact ih _ _ _

/-- A routine whose time is taken runs as it does otherwise. -/
lemma run_timedFrom (r : Routine I α) (spent now : Nat) (state : σ) :
    (r.timedFrom spent).run world now state =
      ⟨((r.run world now state).value, spent + ((r.run world now state).time - now)),
        (r.run world now state).time, (r.run world now state).state⟩ := by
  induction r generalizing spent now state with
  | done value => rw [timedFrom, run_done, run_done, Nat.sub_self, Nat.add_zero]
  | ask request next ih => exact ih _ _ _ _ _
  | wait pause next ih =>
    have le := le_run_time world next (now + pause) state
    rw [timedFrom, run_wait, run_wait, ih]
    rw [show spent + pause + ((next.run world (now + pause) state).time - (now + pause)) =
      spent + ((next.run world (now + pause) state).time - now) by omega]
  | clock next ih => exact ih _ _ _ _

end Routine

namespace Attempt

variable {I : Interface} {ε ε' α β σ : Type} {world : World I σ} {now time finish : Nat}
  {state mid last : σ}

/-- The run of an attempt from a time and a state ends with an outcome, at a time and in a state. -/
def Ends (world : World I σ) (x : Attempt I ε α) (now : Nat) (state : σ) (outcome : Except ε α)
    (finish : Nat) (last : σ) : Prop :=
  x.run.run world now state = ⟨outcome, finish, last⟩

lemma ends_pure (value : α) :
    (pure value : Attempt I ε α).Ends world now state (.ok value) now state :=
  rfl

lemma ends_throw (error : ε) :
    (throw error : Attempt I ε α).Ends world now state (.error error) now state :=
  rfl

lemma ends_ofExcept (result : Except ε α) :
    (ofExcept result : Attempt I ε α).Ends world now state result now state :=
  rfl

/-- An attempt goes on from where its first part ended. -/
lemma Ends.bind {x : Attempt I ε α} {f : α → Attempt I ε β} {value : α} {outcome : Except ε β}
    (first : x.Ends world now state (.ok value) time mid)
    (second : (f value).Ends world time mid outcome finish last) :
    (x >>= f).Ends world now state outcome finish last := by
  unfold Ends at *
  rw [ExceptT.run_bind, run_bind, first]
  exact second

/-- An attempt fails with its first part. -/
lemma Ends.bind_error {x : Attempt I ε α} {error : ε}
    (first : x.Ends world now state (.error error) finish last) (f : α → Attempt I ε β) :
    (x >>= f).Ends world now state (.error error) finish last := by
  unfold Ends at *
  rw [ExceptT.run_bind, run_bind, first]
  rfl

/-- The run of a mapped routine. -/
lemma run_map {r : Routine I α} {f : α → β} {value : α}
    (ended : r.run world now state = ⟨value, finish, last⟩) :
    (f <$> r).run world now state = ⟨f value, finish, last⟩ := by
  rw [map_eq_pure_bind, run_bind, ended]
  rfl

lemma Ends.widen {x : Attempt I ε α} {outcome : Except ε α}
    (ends : x.Ends world now state outcome finish last) (f : ε → ε') :
    (x.widen f).Ends world now state (outcome.mapError f) finish last :=
  run_map ends

lemma Ends.outcome {x : Attempt I ε α} {outcome : Except ε α}
    (ends : x.Ends world now state outcome finish last) :
    (Attempt.outcome x : Attempt I ε' _).Ends world now state (.ok outcome) finish last :=
  run_map ends

lemma Ends.timed {x : Attempt I ε α} {outcome : Except ε α}
    (ends : x.Ends world now state outcome finish last) :
    (Attempt.timed x : Attempt I ε' _).Ends world now state (.ok (outcome, finish - now)) finish
      last := by
  refine run_map ?_
  rw [Routine.timed, run_timedFrom, ends, Nat.zero_add]

lemma ends_sleep (pause : Nat) :
    (Attempt.sleep pause : Attempt I ε Unit).Ends world now state (.ok ()) (now + pause) state :=
  rfl

lemma ends_readClock :
    (Attempt.readClock : Attempt I ε Nat).Ends world now state (.ok now) now state :=
  rfl

lemma ends_request {request : I.Request} {reply : I.Reply request} {took : Nat}
    (answered : world.answer state now request = (reply, took, last)) :
    (Attempt.request request : Attempt I ε _).Ends world now state (.ok reply) (now + took)
      last := by
  refine run_map ?_
  rw [Routine.request, run]
  simp only [answered, run_wait, run_done]

/-- Against a world without a state, a run that succeeds is told by its value and its time. -/
lemma ends_of_stateless {world : World I Unit} {x : Attempt I ε α} {value : α}
    (given : (x.run.run world now ()).value.toOption = some value)
    (timed : (x.run.run world now ()).time = finish) :
    x.Ends world now () (.ok value) finish () := by
  unfold Ends
  subst timed
  generalize x.run.run world now () = ending at *
  obtain ⟨outcome, time, state⟩ := ending
  cases outcome with
  | ok value' => cases given; rfl
  | error error => cases given

end Attempt

end UpgradeDrill
