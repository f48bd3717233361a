import UpgradeDrill.Proofs.Routine.Attempt
import UpgradeDrill.Proofs.Routine.Ending

/-!
# The run of an attempt

`Plays` tells all of the run of an attempt against a world: its exchanges, its outcome, and when and
in which state of the world it ends. There is one run from a time and a state, so the run of a bind
is made up of those of its parts (`Plays.bind`) and comes apart into them (`Plays.bind_cases`).
-/

namespace UpgradeDrill

namespace Routine

variable {I : Interface} {α β σ : Type} (world : World I σ)

/-- The exchanges of a routine that goes on with the result of another follow those of that one. -/
lemma exchanges_bind (r : Routine I α) (f : α → Routine I β) (now : Nat) (state : σ) :
    (r >>= f).exchanges world now state =
      r.exchanges world now state ++
        (f (r.run world now state).value).exchanges world (r.run world now state).time
          (r.run world now state).state := by
  induction r generalizing now state with
  | done value => rfl
  | ask request next ih => exact congrArg (List.cons _) (ih _ _ _ _)
  | wait pause next ih => exact ih _ _
  | clock next ih => exact ih _ _ _

lemma exchanges_map (f : α → β) (r : Routine I α) (now : Nat) (state : σ) :
    (f <$> r).exchanges world now state = r.exchanges world now state := by
  rw [map_eq_pure_bind, exchanges_bind]
  exact List.append_nil _

lemma exchanges_timedFrom (r : Routine I α) (spent now : Nat) (state : σ) :
    (r.timedFrom spent).exchanges world now state = r.exchanges world now state := by
  induction r generalizing spent now state with
  | done value => rfl
  | ask request next ih => exact congrArg (List.cons _) (ih _ _ _ _ _)
  | wait pause next ih => exact ih _ _ _
  | clock next ih => exact ih _ _ _ _

end Routine

namespace Attempt

open Routine

variable {I : Interface} {ε ε' α β σ : Type} {world : World I σ} {now time finish : Nat}
  {state mid last : σ} {es es' : List (Exchange I)}

/-- The run of an attempt from a time and a state: its exchanges, and how it ends. -/
structure Plays (world : World I σ) (x : Attempt I ε α) (now : Nat) (state : σ)
    (es : List (Exchange I)) (outcome : Except ε α) (finish : Nat) (last : σ) : Prop where
  exchanges : x.run.exchanges world now state = es
  ends : x.Ends world now state outcome finish last

lemma exists_plays (world : World I σ) (x : Attempt I ε α) (now : Nat) (state : σ) :
    ∃ es outcome finish last, x.Plays world now state es outcome finish last :=
  ⟨_, _, _, _, rfl, rfl⟩

lemma plays_of_value {x : Attempt I ε α} {outcome : Except ε α}
    (ended : (x.run.run world now state).value = outcome) :
    ∃ finish last,
      x.Plays world now state (x.run.exchanges world now state) outcome finish last := by
  subst ended
  exact ⟨_, _, rfl, rfl⟩

lemma Plays.value {x : Attempt I ε α} {outcome : Except ε α}
    (plays : x.Plays world now state es outcome finish last) :
    (x.run.run world now state).value = outcome :=
  congrArg Ending.value (show x.run.run world now state = ⟨outcome, finish, last⟩ from plays.ends)

lemma Plays.unique {x : Attempt I ε α} {outcome outcome' : Except ε α} {finish' : Nat} {last' : σ}
    (plays : x.Plays world now state es outcome finish last)
    (plays' : x.Plays world now state es' outcome' finish' last') :
    outcome = outcome' ∧ finish = finish' := by
  cases plays.ends.symm.trans plays'.ends
  exact ⟨rfl, rfl⟩

lemma plays_pure (value : α) :
    (pure value : Attempt I ε α).Plays world now state [] (.ok value) now state :=
  ⟨rfl, ends_pure value⟩

lemma plays_throw (error : ε) :
    (throw error : Attempt I ε α).Plays world now state [] (.error error) now state :=
  ⟨rfl, ends_throw error⟩

lemma Plays.bind {x : Attempt I ε α} {f : α → Attempt I ε β} {value : α} {outcome : Except ε β}
    (first : x.Plays world now state es (.ok value) time mid)
    (second : (f value).Plays world time mid es' outcome finish last) :
    (x >>= f).Plays world now state (es ++ es') outcome finish last := by
  refine ⟨?_, first.ends.bind second.ends⟩
  have ended : x.run.run world now state = ⟨.ok value, time, mid⟩ := first.ends
  rw [ExceptT.run_bind, exchanges_bind, ended, first.exchanges]
  exact congrArg (es ++ ·) second.exchanges

lemma Plays.bind_error {x : Attempt I ε α} {error : ε}
    (first : x.Plays world now state es (.error error) finish last) (f : α → Attempt I ε β) :
    (x >>= f).Plays world now state es (.error error) finish last := by
  refine ⟨?_, first.ends.bind_error f⟩
  have ended : x.run.run world now state = ⟨.error error, finish, last⟩ := first.ends
  rw [ExceptT.run_bind, exchanges_bind, ended, first.exchanges]
  exact List.append_nil es

/-- The run of a bind fails in its first part, or goes on from where that ended. -/
lemma Plays.bind_cases {x : Attempt I ε α} {f : α → Attempt I ε β} {outcome : Except ε β}
    (plays : (x >>= f).Plays world now state es outcome finish last) :
    (∃ error, outcome = .error error ∧ x.Plays world now state es (.error error) finish last) ∨
      ∃ first second value time mid, es = first ++ second ∧
        x.Plays world now state first (.ok value) time mid ∧
        (f value).Plays world time mid second outcome finish last := by
  obtain ⟨first, mid, time, state', left⟩ := exists_plays world x now state
  have ended : (x >>= f).run.run world now state = ⟨outcome, finish, last⟩ := plays.ends
  obtain ⟨rfl, _⟩ := plays
  cases mid with
  | error error =>
    have failed := left.bind_error f
    cases ended.symm.trans failed.ends
    exact .inl ⟨error, rfl, failed.exchanges.symm ▸ left⟩
  | ok value =>
    obtain ⟨second, _, _, _, right⟩ := exists_plays world (f value) time state'
    have went := left.bind right
    cases ended.symm.trans went.ends
    exact .inr ⟨first, second, value, time, state', went.exchanges, left, right⟩

/-- A run is one way to an outcome. -/
lemma Plays.yields {x : Attempt I ε α} {outcome : Except ε α}
    (plays : x.Plays world now state es outcome finish last) :
    x.Yields now es outcome finish := by
  have path := yields_run world x now state
  have ended : x.run.run world now state = ⟨outcome, finish, last⟩ := plays.ends
  rwa [plays.exchanges, ended] at path

lemma Plays.sleep_bind {pause : Nat} {x : Attempt I ε β} {outcome : Except ε β}
    (rest : x.Plays world (now + pause) state es outcome finish last) :
    (Attempt.sleep pause >>= fun _ => x).Plays world now state es outcome finish last :=
  Plays.bind ⟨rfl, ends_sleep pause⟩ rest

lemma Plays.readClock_bind {f : Nat → Attempt I ε β} {outcome : Except ε β}
    (rest : (f now).Plays world now state es outcome finish last) :
    (Attempt.readClock >>= f).Plays world now state es outcome finish last :=
  Plays.bind ⟨rfl, ends_readClock⟩ rest

lemma Plays.widen {x : Attempt I ε α} {outcome : Except ε α}
    (plays : x.Plays world now state es outcome finish last) (f : ε → ε') :
    (x.widen f).Plays world now state es (outcome.mapError f) finish last :=
  ⟨(exchanges_map world _ _ _ _).trans plays.exchanges, plays.ends.widen f⟩

lemma Plays.timed {x : Attempt I ε α} {outcome : Except ε α}
    (plays : x.Plays world now state es outcome finish last) :
    (Attempt.timed x : Attempt I ε' _).Plays world now state es (.ok (outcome, finish - now)) finish
      last := by
  refine ⟨?_, plays.ends.timed⟩
  rw [Attempt.timed, ExceptT.run_lift, exchanges_map]
  exact (exchanges_timedFrom world _ _ _ _).trans plays.exchanges

lemma Plays.le {x : Attempt I ε α} {outcome : Except ε α}
    (plays : x.Plays world now state es outcome finish last) : now ≤ finish :=
  Reaches.le plays.yields

/-- An attempt that goes on with the outcome of a call and the time it took. -/
lemma Plays.timed_bind {x : Attempt I ε α} {f : Except ε α × Nat → Attempt I ε' β}
    {outcome : Except ε α} {result : Except ε' β}
    (first : x.Plays world now state es outcome time mid)
    (second : (f (outcome, time - now)).Plays world time mid es' result finish last) :
    (Attempt.timed x >>= f).Plays world now state (es ++ es') result finish last :=
  first.timed.bind second

end Attempt

end UpgradeDrill
