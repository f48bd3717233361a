import UpgradeDrill.Proofs.Query.Plain
import UpgradeDrill.Proofs.Routine.Plays
import UpgradeDrill.Proofs.Backoff

/-!
# Requests that are handled

A handler carries out each request of an interface by a routine over another one. Every world for
the second interface is then one for the first, where a request is answered with what its routine
comes to. An attempt over the second carries out one over the first (`CarriesOut`) if both always
run alike, so the requests of the first one tell what the other has done. This holds of attempts
that are built alike, retries and polls among them.
-/

namespace UpgradeDrill

/-- How each request of an interface is carried out over another one. -/
def Handler (J I : Interface) : Type := ∀ request : J.Request, Routine I (J.Reply request)

/-- The world that answers requests by carrying them out in another world. -/
def World.handled {I J : Interface} {σ : Type} (world : World I σ) (handler : Handler J I) :
    World J σ where
  answer state now request :=
    let ending := (handler request).run world now state
    (ending.value, ending.time - now, ending.state)

namespace Attempt

open Routine

variable {I J : Interface} {ε ε' α β : Type} {handler : Handler J I}

/-- In every world, an attempt runs as another one does whose requests are handled there. -/
def CarriesOut (handler : Handler J I) (x : Attempt I ε α) (y : Attempt J ε α) : Prop :=
  ∀ ⦃σ : Type⦄ (world : World I σ) (now : Nat) (state : σ),
    x.run.run world now state = y.run.run (world.handled handler) now state

lemma CarriesOut.ends_iff {x : Attempt I ε α} {y : Attempt J ε α} (carries : CarriesOut handler x y)
    {σ : Type} {world : World I σ} {now finish : Nat} {state last : σ} {outcome : Except ε α} :
    x.Ends world now state outcome finish last ↔
      y.Ends (world.handled handler) now state outcome finish last := by
  unfold Ends
  rw [carries]

lemma carriesOut_pure (value : α) :
    CarriesOut handler (pure value : Attempt I ε α) (pure value) :=
  fun _ _ _ _ => rfl

lemma carriesOut_throw (error : ε) :
    CarriesOut handler (throw error : Attempt I ε α) (throw error) :=
  fun _ _ _ _ => rfl

lemma carriesOut_ofExcept (result : Except ε α) :
    CarriesOut handler (ofExcept result : Attempt I ε α) (ofExcept result) :=
  fun _ _ _ _ => rfl

lemma carriesOut_sleep (pause : Nat) :
    CarriesOut handler (Attempt.sleep pause : Attempt I ε Unit) (Attempt.sleep pause) :=
  fun _ _ _ _ => rfl

lemma carriesOut_readClock :
    CarriesOut handler (Attempt.readClock : Attempt I ε Nat) Attempt.readClock :=
  fun _ _ _ _ => rfl

/-- A request is carried out by what handles it. -/
lemma carriesOut_request {x : Attempt I ε α} {request : J.Request}
    {understand : J.Reply request → Except ε α}
    (handled : x.run = understand <$> handler request) :
    CarriesOut handler x (do
      let reply ← Attempt.request request
      Attempt.ofExcept (understand reply)) := by
  intro σ world now state
  have asked : Ends (world.handled handler)
      (do
        let reply ← Attempt.request request
        Attempt.ofExcept (understand reply))
      now state _ _ _ :=
    (ends_request rfl).bind (ends_ofExcept _)
  have le := le_run_time world (handler request) now state
  rw [handled, run_map rfl]
  refine Eq.trans ?_ asked.symm
  rw [World.handled, Nat.add_sub_of_le le]

lemma CarriesOut.bind {x : Attempt I ε α} {y : Attempt J ε α} {f : α → Attempt I ε β}
    {g : α → Attempt J ε β} (first : CarriesOut handler x y)
    (second : ∀ value, CarriesOut handler (f value) (g value)) :
    CarriesOut handler (x >>= f) (y >>= g) := by
  intro σ world now state
  rw [ExceptT.run_bind, ExceptT.run_bind, run_bind, run_bind, first world now state]
  cases (y.run.run (world.handled handler) now state).value with
  | ok value => exact second value world _ _
  | error error => rfl

lemma CarriesOut.map {x : Attempt I ε α} {y : Attempt J ε α} (f : Except ε α → Except ε' β)
    (carries : CarriesOut handler x y) :
    CarriesOut handler (ExceptT.mk (f <$> x.run)) (ExceptT.mk (f <$> y.run)) := by
  intro σ world now state
  exact (run_map (carries world now state)).trans (run_map rfl).symm

lemma CarriesOut.widen {x : Attempt I ε α} {y : Attempt J ε α} (carries : CarriesOut handler x y)
    (f : ε → ε') : CarriesOut handler (x.widen f) (y.widen f) :=
  carries.map _

lemma CarriesOut.outcome {x : Attempt I ε α} {y : Attempt J ε α}
    (carries : CarriesOut handler x y) :
    CarriesOut handler (Attempt.outcome x : Attempt I ε' _) (Attempt.outcome y) :=
  carries.map Except.ok

lemma CarriesOut.timed {x : Attempt I ε α} {y : Attempt J ε α} (carries : CarriesOut handler x y) :
    CarriesOut handler (Attempt.timed x : Attempt I ε' _) (Attempt.timed y) := by
  intro σ world now state
  have left : (Attempt.timed x : Attempt I ε' _).Ends world now state _ _ _ :=
    Ends.timed (carries world now state)
  have right : (Attempt.timed y : Attempt J ε' _).Ends (world.handled handler) now state _ _ _ :=
    Ends.timed rfl
  exact left.trans right.symm

end Attempt

namespace Query

open Attempt

variable {I J : Interface} {α : Type} {handler : Handler J I} {x : Attempt I QueryError α}
  {y : Attempt J QueryError α} (participant operation : String) (timeout : Nat) (text : α → String)
  (awaited : α → Bool)

lemma carriesOut_pollFrom (carries : CarriesOut handler x y) (attempts : Nat) (last : Option α)
    (session : Backoff) :
    CarriesOut handler
      (pollFrom participant operation timeout text x awaited attempts last session)
      (pollFrom participant operation timeout text y awaited attempts last session) := by
  induction session using Backoff.wait_induction generalizing attempts last with
  | again session ih =>
    rw [pollFrom_eq, pollFrom_eq]
    refine carries.timed.bind fun timed => ?_
    obtain ⟨outcome, took⟩ := timed
    dsimp only
    cases outcome.toOption.filter awaited with
    | some value => exact carriesOut_pure _
    | none =>
      dsimp only
      cases granted : (session.pass took).wait with
      | ok next => exact (carriesOut_sleep _).bind fun _ => ih took next granted _ _
      | error _ => exact carriesOut_throw _

/-- A poll is carried out by polling what carries out its query. -/
lemma carriesOut_pollUntil (carries : CarriesOut handler x y) :
    CarriesOut handler (pollUntil participant operation timeout text x awaited)
      (pollUntil participant operation timeout text y awaited) := by
  rw [pollUntil_eq, pollUntil_eq]
  refine carriesOut_readClock.bind fun now => ?_
  cases Backoff.start (.fixed timeout pollInterval) now with
  | ok session => exact carriesOut_pollFrom _ _ _ _ _ carries _ _ _
  | error error => exact carriesOut_throw _

end Query

end UpgradeDrill
