import Mathlib.Tactic.Lemma
import UpgradeDrill.Routine.Run

/-!
# Paths of routines

What can happen on the way of a routine, whatever answers it: `Reaches` relates a routine to the
exchanges it makes and to what is left of it after them, with the times of both. A run against a
world is one such path (`reaches_run`), a path of a bind splits at the result of its first part
(`Reaches.bind_cases`), and every beginning of a path is a path.
-/

namespace UpgradeDrill

/-- A request with its reply. -/
structure Exchange (I : Interface) where
  /-- When the request was made. -/
  time : Nat
  request : I.Request
  reply : I.Reply request
  /-- How long the reply took to arrive. -/
  took : Nat

/-- When the reply was there. -/
def Exchange.arrival {I : Interface} (exchange : Exchange I) : Nat := exchange.time + exchange.took

lemma Exchange.time_le_arrival {I : Interface} (exchange : Exchange I) :
    exchange.time ≤ exchange.arrival :=
  Nat.le_add_right ..

namespace Routine

variable {I : Interface} {α β σ : Type}

/-- From a time on, a routine gets through exchanges to what is left of it at another time. -/
inductive Reaches : Routine I α → Nat → List (Exchange I) → Routine I α → Nat → Prop where
  | here {routine : Routine I α} {now} :
    Reaches routine now [] routine now
  | ask {request next now reply took es} {rest : Routine I α} {finish} :
    Reaches (next reply took) now es rest finish →
    Reaches (ask request next) now (⟨now, request, reply, took⟩ :: es) rest finish
  | wait {pause next now es} {rest : Routine I α} {finish} :
    Reaches next (now + pause) es rest finish →
    Reaches (wait pause next) now es rest finish
  | clock {next now es} {rest : Routine I α} {finish} :
    Reaches (next now) now es rest finish →
    Reaches (clock next) now es rest finish

/-- Time does not go back on a path. -/
lemma Reaches.le {r r' : Routine I α} {now es finish} (path : Reaches r now es r' finish) :
    now ≤ finish := by
  induction path with
  | here => exact Nat.le_refl _
  | ask _ ih | clock _ ih => exact ih
  | wait _ ih => exact Nat.le_trans (Nat.le_add_right ..) ih

/-- The exchanges of a path are made while it lasts. -/
lemma Reaches.time_mem {r r' : Routine I α} {now es finish} (path : Reaches r now es r' finish)
    {e : Exchange I} (mem : e ∈ es) : now ≤ e.time ∧ e.time ≤ finish := by
  induction path with
  | here => cases mem
  | ask path ih =>
    cases mem with
    | head => exact ⟨Nat.le_refl _, path.le⟩
    | tail _ mem => exact ih mem
  | wait _ ih => exact ⟨Nat.le_trans (Nat.le_add_right ..) (ih mem).1, (ih mem).2⟩
  | clock _ ih => exact ih mem

/-- Nothing happens any more to a routine that is done. -/
lemma reaches_done_iff {value : α} {r' : Routine I α} {now es finish} :
    Reaches (done value) now es r' finish ↔ es = [] ∧ r' = done value ∧ finish = now := by
  constructor
  · intro path
    cases path
    exact ⟨rfl, rfl, rfl⟩
  · rintro ⟨rfl, rfl, rfl⟩
    exact .here

/-- Paths follow on each other. -/
lemma Reaches.trans {r mid r' : Routine I α} {now time finish first second}
    (left : Reaches r now first mid time) (right : Reaches mid time second r' finish) :
    Reaches r now (first ++ second) r' finish := by
  induction left with
  | here => exact right
  | ask _ ih => exact .ask (ih right)
  | wait _ ih => exact .wait (ih right)
  | clock _ ih => exact .clock (ih right)

/-- A routine that goes on with the result of another is still under way in that one, or the other
has come to a result and the rest follows from there. -/
lemma Reaches.bind_cases {r : Routine I α} {f : α → Routine I β} {r' : Routine I β}
    {now es finish} (path : Reaches (r >>= f) now es r' finish) :
    (∃ left, Reaches r now es left finish ∧ r' = left >>= f ∧ ∀ value, r' ≠ done value) ∨
      ∃ first second value time, es = first ++ second ∧
        Reaches r now first (done value) time ∧ Reaches (f value) time second r' finish := by
  induction r generalizing now es with
  | done value => exact .inr ⟨[], es, value, now, rfl, .here, path⟩
  | ask request next ih =>
    cases path with
    | here => exact .inl ⟨_, .here, rfl, nofun⟩
    | ask path =>
      rcases ih _ _ path with ⟨left, path, rest⟩ | ⟨first, second, value, time, rfl, left, right⟩
      · exact .inl ⟨left, .ask path, rest⟩
      · exact .inr ⟨_ :: first, second, value, time, rfl, .ask left, right⟩
  | wait pause next ih =>
    cases path with
    | here => exact .inl ⟨_, .here, rfl, nofun⟩
    | wait path =>
      rcases ih path with ⟨left, path, rest⟩ | ⟨first, second, value, time, rfl, left, right⟩
      · exact .inl ⟨left, .wait path, rest⟩
      · exact .inr ⟨first, second, value, time, rfl, .wait left, right⟩
  | clock next ih =>
    cases path with
    | here => exact .inl ⟨_, .here, rfl, nofun⟩
    | clock path =>
      rcases ih _ path with ⟨left, path, rest⟩ | ⟨first, second, value, time, rfl, left, right⟩
      · exact .inl ⟨left, .clock path, rest⟩
      · exact .inr ⟨first, second, value, time, rfl, .clock left, right⟩

/-- The path of a bind from the paths of its parts. -/
lemma Reaches.bind {r : Routine I α} {f : α → Routine I β} {r' : Routine I β} {value : α}
    {now time finish first second} (left : Reaches r now first (done value) time)
    (right : Reaches (f value) time second r' finish) :
    Reaches (r >>= f) now (first ++ second) r' finish := by
  induction r generalizing now first with
  | done value =>
    obtain ⟨rfl, eq, rfl⟩ := reaches_done_iff.1 left
    cases eq
    exact right
  | ask request next ih =>
    cases left with
    | ask left => exact .ask (ih _ _ left)
  | wait pause next ih =>
    cases left with
    | wait left => exact .wait (ih left)
  | clock next ih =>
    cases left with
    | clock left => exact .clock (ih _ left)

/-- A routine whose time is taken gets as far as it does otherwise. -/
lemma Reaches.timedFrom_cases {r : Routine I α} {r' : Routine I (α × Nat)} {spent now es finish}
    (path : Reaches (r.timedFrom spent) now es r' finish) :
    ∃ left, Reaches r now es left finish ∧ r' = left.timedFrom (spent + (finish - now)) := by
  induction r generalizing spent now es with
  | done value =>
    obtain ⟨rfl, rfl, rfl⟩ := reaches_done_iff.1 path
    exact ⟨_, .here, by rw [Nat.sub_self, Nat.add_zero]; rfl⟩
  | ask request next ih =>
    cases path with
    | here => exact ⟨_, .here, by rw [Nat.sub_self]; rfl⟩
    | ask path =>
      obtain ⟨left, reached, eq⟩ := ih _ _ path
      exact ⟨left, .ask reached, eq⟩
  | wait pause next ih =>
    cases path with
    | here => exact ⟨_, .here, by rw [Nat.sub_self]; rfl⟩
    | wait path =>
      obtain ⟨left, reached, eq⟩ := ih path
      have le := path.le
      refine ⟨left, .wait reached, ?_⟩
      rw [eq, show spent + pause + (finish - (now + pause)) = spent + (finish - now) by omega]
  | clock next ih =>
    cases path with
    | here => exact ⟨_, .here, by rw [Nat.sub_self]; rfl⟩
    | clock path =>
      obtain ⟨left, reached, eq⟩ := ih _ path
      exact ⟨left, .clock reached, eq⟩

/-- The exchanges of a run against a world. -/
def exchanges (world : World I σ) : Routine I α → Nat → σ → List (Exchange I)
  | done _, _, _ => []
  | ask request next, now, state =>
    let (reply, took, state) := world.answer state now request
    ⟨now, request, reply, took⟩ :: (next reply took).exchanges world now state
  | wait pause next, now, state => next.exchanges world (now + pause) state
  | clock next, now, state => (next now).exchanges world now state

/-- All replies of a run are answers of the world. -/
lemma answered_of_mem_exchanges {world : World I σ} {r : Routine I α} {now : Nat} {state : σ}
    {e : Exchange I} (mem : e ∈ r.exchanges world now state) :
    ∃ state, e.reply = (world.answer state e.time e.request).1 := by
  induction r generalizing now state with
  | done value => cases mem
  | ask request next ih =>
    rcases List.mem_cons.1 mem with rfl | mem
    · exact ⟨state, rfl⟩
    · exact ih _ _ mem
  | wait pause next ih => exact ih mem
  | clock next ih => exact ih _ mem

/-- A run against a world is a path to its result. -/
theorem reaches_run (world : World I σ) (r : Routine I α) (now : Nat) (state : σ) :
    Reaches r now (r.exchanges world now state) (done (r.run world now state).value)
      (r.run world now state).time := by
  induction r generalizing now state with
  | done value => exact .here
  | ask request next ih => exact .ask (ih _ _ _ _)
  | wait pause next ih => exact .wait (ih _ _)
  | clock next ih => exact .clock (ih _ _ _)

end Routine

end UpgradeDrill
