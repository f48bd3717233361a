import Mathlib.Data.List.Forall2
import UpgradeDrill.Proofs.Routine.Path

/-!
# Outcomes of attempts

`Yields` relates an attempt to the exchanges on its way and the outcome it comes to. Each way of
building an attempt has a lemma that takes its paths apart. `AsksOnly` says that whatever is asked
on any path, ended or not, is of one kind, and holds of an attempt if it holds of its parts.
`Returns` and `Fails` say the same of the values that an attempt gives and of its errors.
-/

namespace UpgradeDrill

open Routine

namespace Routine

variable {I : Interface} {α β : Type} {K : I.Request → Prop}

/-- All that a routine may ask is of a kind. -/
def AsksOnly (K : I.Request → Prop) (r : Routine I α) : Prop :=
  ∀ ⦃now es rest finish⦄, Reaches r now es rest finish → ∀ e ∈ es, K e.request

lemma asksOnly_done (value : α) : AsksOnly K (done value : Routine I α) := by
  intro now es rest finish path e mem
  obtain ⟨rfl, _⟩ := reaches_done_iff.1 path
  cases mem

lemma AsksOnly.bind {r : Routine I α} {f : α → Routine I β} (first : AsksOnly K r)
    (second : ∀ value, AsksOnly K (f value)) : AsksOnly K (r >>= f) := by
  intro now es rest finish path e mem
  rcases path.bind_cases with ⟨left, path, _⟩ | ⟨es₁, es₂, value, time, rfl, left, right⟩
  · exact first path e mem
  · rcases List.mem_append.1 mem with mem | mem
    · exact first left e mem
    · exact second value right e mem

lemma AsksOnly.map {r : Routine I α} (f : α → β) (only : AsksOnly K r) : AsksOnly K (f <$> r) :=
  only.bind fun value => asksOnly_done (f value)

lemma AsksOnly.timed {r : Routine I α} (only : AsksOnly K r) : AsksOnly K r.timed := by
  intro now es rest finish path
  obtain ⟨left, path, _⟩ := path.timedFrom_cases
  exact only path

lemma asksOnly_request {request : I.Request} (kind : K request) :
    AsksOnly K (Routine.request request) := by
  intro now es rest finish path e mem
  cases path with
  | here => cases mem
  | ask path =>
    cases mem with
    | head => exact kind
    | tail _ mem =>
      cases path with
      | here => cases mem
      | wait path =>
        obtain ⟨rfl, _⟩ := reaches_done_iff.1 path
        cases mem

lemma asksOnly_sleep (pause : Nat) : AsksOnly K (Routine.sleep pause : Routine I Unit) := by
  intro now es rest finish path e mem
  cases path with
  | here => cases mem
  | wait path =>
    obtain ⟨rfl, _⟩ := reaches_done_iff.1 path
    cases mem

lemma asksOnly_readClock : AsksOnly K (Routine.readClock : Routine I Nat) := by
  intro now es rest finish path e mem
  cases path with
  | here => cases mem
  | clock path =>
    obtain ⟨rfl, _⟩ := reaches_done_iff.1 path
    cases mem

end Routine

namespace Attempt

variable {I : Interface} {ε ε' α β : Type}

/-- An attempt comes to an outcome through exchanges, from a time to another. -/
def Yields (x : Attempt I ε α) (now : Nat) (es : List (Exchange I)) (outcome : Except ε α)
    (finish : Nat) : Prop :=
  Reaches x.run now es (done outcome) finish

/-- A run against a world is one way to an outcome. -/
lemma yields_run {σ : Type} (world : World I σ) (x : Attempt I ε α) (now : Nat) (state : σ) :
    x.Yields now (x.run.exchanges world now state) (x.run.run world now state).value
      (x.run.run world now state).time :=
  reaches_run world x.run now state

/-- A bind is under way in its first part, has failed there, or goes on with its result. -/
lemma reaches_bind_cases {x : Attempt I ε α} {f : α → Attempt I ε β}
    {rest : Routine I (Except ε β)} {now es finish}
    (path : Reaches (x >>= f).run now es rest finish) :
    (∃ left, Reaches x.run now es left finish ∧
        ∀ outcome, rest = done outcome →
          ∃ error, outcome = .error error ∧ left = done (.error error)) ∨
      ∃ first second value time, es = first ++ second ∧ x.Yields now first (.ok value) time ∧
        Reaches (f value).run time second rest finish := by
  rcases Reaches.bind_cases path with
    ⟨left, part, rfl, under⟩ | ⟨first, second, outcome, time, rfl, left, right⟩
  · exact .inl ⟨left, part, fun outcome eq => (under outcome eq).elim⟩
  · cases outcome with
    | ok value => exact .inr ⟨first, second, value, time, rfl, left, right⟩
    | error error =>
      obtain ⟨rfl, rfl, rfl⟩ := reaches_done_iff.1 right
      rw [List.append_nil]
      refine .inl ⟨_, left, fun outcome eq => ?_⟩
      cases eq
      exact ⟨error, rfl, rfl⟩

/-- A bind fails with its first part, or comes to what follows from its result. -/
lemma Yields.bind_cases {x : Attempt I ε α} {f : α → Attempt I ε β} {now es outcome finish}
    (path : (x >>= f).Yields now es outcome finish) :
    (∃ error, outcome = .error error ∧ x.Yields now es (.error error) finish) ∨
      ∃ first second value time, es = first ++ second ∧ x.Yields now first (.ok value) time ∧
        (f value).Yields time second outcome finish := by
  rcases reaches_bind_cases path with ⟨left, path, failed⟩ | ended
  · obtain ⟨error, rfl, rfl⟩ := failed _ rfl
    exact .inl ⟨error, rfl, path⟩
  · exact .inr ended

/-- A bind that succeeds does so in both parts. -/
lemma Yields.bind_ok {x : Attempt I ε α} {f : α → Attempt I ε β} {now es value finish}
    (path : (x >>= f).Yields now es (.ok value) finish) :
    ∃ first second mid time, es = first ++ second ∧ x.Yields now first (.ok mid) time ∧
      (f mid).Yields time second (.ok value) finish := by
  rcases path.bind_cases with ⟨_, eq, _⟩ | ended
  · cases eq
  · exact ended

lemma yields_done_iff {x : Attempt I ε α} {result : Except ε α} {now es outcome finish}
    (eq : x.run = done result) :
    x.Yields now es outcome finish ↔ es = [] ∧ outcome = result ∧ finish = now := by
  rw [Yields, eq, reaches_done_iff, Routine.done.injEq]

lemma yields_pure_iff {value : α} {now es outcome finish} :
    (pure value : Attempt I ε α).Yields now es outcome finish ↔
      es = [] ∧ outcome = .ok value ∧ finish = now :=
  yields_done_iff rfl

lemma yields_throw_iff {error : ε} {now es outcome finish} :
    (throw error : Attempt I ε α).Yields now es outcome finish ↔
      es = [] ∧ outcome = .error error ∧ finish = now :=
  yields_done_iff rfl

lemma yields_ofExcept_iff {result : Except ε α} {now es outcome finish} :
    (ofExcept result : Attempt I ε α).Yields now es outcome finish ↔
      es = [] ∧ outcome = result ∧ finish = now :=
  yields_done_iff rfl

/-- A mapped routine gets as far as the routine. -/
lemma reaches_map_cases {r : Routine I α} {f : α → β} {rest : Routine I β} {now es finish}
    (path : Reaches (f <$> r) now es rest finish) :
    ∃ left, Reaches r now es left finish ∧
      ∀ value, rest = done value → ∃ result, left = done result ∧ value = f result := by
  rcases Reaches.bind_cases path with
    ⟨left, part, rfl, under⟩ | ⟨first, second, result, time, rfl, left, right⟩
  · exact ⟨left, part, fun value eq => (under value eq).elim⟩
  · obtain ⟨rfl, rfl, rfl⟩ := reaches_done_iff.1 right
    refine ⟨done result, by rwa [List.append_nil], fun value eq => ⟨result, rfl, ?_⟩⟩
    cases eq
    rfl

/-- A routine is mapped when its value is there. -/
lemma reaches_map_done_iff {r : Routine I α} {f : α → β} {now es value finish} :
    Reaches (f <$> r) now es (done value) finish ↔
      ∃ result, Reaches r now es (done result) finish ∧ value = f result := by
  constructor
  · intro path
    obtain ⟨left, reached, ended⟩ := reaches_map_cases path
    obtain ⟨result, rfl, rfl⟩ := ended value rfl
    exact ⟨result, reached, rfl⟩
  · rintro ⟨result, path, rfl⟩
    have mapped := path.bind (f := fun value => done (f value)) .here
    rwa [List.append_nil] at mapped

/-- What a wider operation makes of an outcome. -/
lemma yields_widen_iff {x : Attempt I ε α} {g : ε → ε'} {now es outcome finish} :
    (x.widen g).Yields now es outcome finish ↔
      ∃ result, x.Yields now es result finish ∧ outcome = result.mapError g :=
  reaches_map_done_iff

lemma yields_widen_ok {x : Attempt I ε α} {g : ε → ε'} {now es value finish} :
    (x.widen g).Yields now es (.ok value) finish ↔ x.Yields now es (.ok value) finish := by
  rw [yields_widen_iff]
  constructor
  · rintro ⟨result, path, eq⟩
    cases result with
    | ok value' => cases eq; exact path
    | error error => cases eq
  · intro path
    exact ⟨_, path, rfl⟩

lemma yields_outcome_iff {x : Attempt I ε α} {now es} {outcome : Except ε' (Except ε α)} {finish} :
    (Attempt.outcome x : Attempt I ε' _).Yields now es outcome finish ↔
      ∃ result, x.Yields now es result finish ∧ outcome = .ok result :=
  reaches_map_done_iff

/-- The time that is taken of an attempt is that of its path. -/
lemma Yields.of_timed {x : Attempt I ε α} {now es} {outcome : Except ε' (Except ε α × Nat)} {finish}
    (path : (Attempt.timed x : Attempt I ε' _).Yields now es outcome finish) :
    ∃ result, x.Yields now es result finish ∧ outcome = .ok (result, finish - now) := by
  obtain ⟨timed, inner, rfl⟩ := reaches_map_done_iff.1 path
  obtain ⟨left, reached, eq⟩ := Reaches.timedFrom_cases inner
  cases left with
  | done result =>
    rw [timedFrom, Nat.zero_add] at eq
    cases eq
    exact ⟨result, reached, rfl⟩
  | ask | wait | clock => cases eq

/-- A request is a single exchange, and its reply is waited for. -/
lemma yields_request_iff {request : I.Request} {now es} {outcome : Except ε (I.Reply request)}
    {finish} :
    (Attempt.request request : Attempt I ε _).Yields now es outcome finish ↔
      ∃ reply took, es = [⟨now, request, reply, took⟩] ∧ outcome = .ok reply ∧
        finish = now + took := by
  rw [Yields]
  constructor
  · intro path
    obtain ⟨reply, path, rfl⟩ := reaches_map_done_iff.1 path
    cases path with
    | ask path =>
      cases path with
      | wait path =>
        obtain ⟨rfl, eq, rfl⟩ := reaches_done_iff.1 path
        cases eq
        exact ⟨_, _, rfl, rfl, rfl⟩
  · rintro ⟨reply, took, rfl, rfl, rfl⟩
    exact reaches_map_done_iff.2 ⟨reply, .ask (.wait .here), rfl⟩

lemma yields_sleep_iff {pause now es} {outcome : Except ε Unit} {finish} :
    (Attempt.sleep pause : Attempt I ε _).Yields now es outcome finish ↔
      es = [] ∧ outcome = .ok () ∧ finish = now + pause := by
  rw [Yields]
  constructor
  · intro path
    obtain ⟨_, path, rfl⟩ := reaches_map_done_iff.1 path
    cases path with
    | wait path =>
      obtain ⟨rfl, _, rfl⟩ := reaches_done_iff.1 path
      exact ⟨rfl, rfl, rfl⟩
  · rintro ⟨rfl, rfl, rfl⟩
    exact reaches_map_done_iff.2 ⟨(), .wait .here, rfl⟩

/-- The clock is read at once. -/
lemma yields_readClock_iff {now es} {outcome : Except ε Nat} {finish} :
    (Attempt.readClock : Attempt I ε Nat).Yields now es outcome finish ↔
      es = [] ∧ outcome = .ok now ∧ finish = now := by
  rw [Yields]
  constructor
  · intro path
    obtain ⟨_, path, rfl⟩ := reaches_map_done_iff.1 path
    cases path with
    | clock path =>
      obtain ⟨rfl, eq, rfl⟩ := reaches_done_iff.1 path
      cases eq
      exact ⟨rfl, rfl, rfl⟩
  · rintro ⟨rfl, rfl, rfl⟩
    exact reaches_map_done_iff.2 ⟨finish, .clock .here, rfl⟩

/-- What follows a reading of the clock goes on with it at that time. -/
lemma yields_readClock_bind_iff {f : Nat → Attempt I ε α} {now es outcome finish} :
    (Attempt.readClock >>= f).Yields now es outcome finish ↔
      (f now).Yields now es outcome finish := by
  constructor
  · intro path
    cases path with
    | clock path => exact path
  · exact fun path => .clock path

section Each

variable {γ : Type} {list : List γ} {f : γ → Attempt I ε PUnit} {R : γ → Exchange I → Prop}

end Each

/-- All that an attempt may ask is of a kind. -/
def AsksOnly (K : I.Request → Prop) (x : Attempt I ε α) : Prop := x.run.AsksOnly K

section AsksOnly

variable {K : I.Request → Prop}

lemma asksOnly_pure (value : α) : AsksOnly K (pure value : Attempt I ε α) :=
  asksOnly_done (Except.ok value)

lemma asksOnly_throw (error : ε) : AsksOnly K (throw error : Attempt I ε α) :=
  asksOnly_done (Except.error error)

lemma asksOnly_ofExcept (result : Except ε α) : AsksOnly K (ofExcept result : Attempt I ε α) :=
  asksOnly_done result

lemma AsksOnly.bind {x : Attempt I ε α} {f : α → Attempt I ε β} (first : AsksOnly K x)
    (second : ∀ value, AsksOnly K (f value)) : AsksOnly K (x >>= f) := by
  refine Routine.AsksOnly.bind first fun outcome => ?_
  cases outcome with
  | ok value => exact second value
  | error error => exact asksOnly_done _

lemma AsksOnly.map {x : Attempt I ε α} (f : α → β) (only : AsksOnly K x) :
    AsksOnly K (f <$> x) := by
  refine Routine.AsksOnly.bind only fun outcome => ?_
  cases outcome with
  | ok value => exact asksOnly_done _
  | error error => exact asksOnly_done _

lemma AsksOnly.widen {x : Attempt I ε α} (g : ε → ε') (only : AsksOnly K x) :
    AsksOnly K (x.widen g) :=
  Routine.AsksOnly.map _ only

lemma AsksOnly.outcome {x : Attempt I ε α} (only : AsksOnly K x) :
    AsksOnly K (Attempt.outcome x : Attempt I ε' _) :=
  Routine.AsksOnly.map _ only

lemma AsksOnly.timed {x : Attempt I ε α} (only : AsksOnly K x) :
    AsksOnly K (Attempt.timed x : Attempt I ε' _) :=
  Routine.AsksOnly.map _ (Routine.AsksOnly.timed only)

lemma asksOnly_request {request : I.Request} (kind : K request) :
    AsksOnly K (Attempt.request request : Attempt I ε _) :=
  Routine.AsksOnly.map _ (Routine.asksOnly_request kind)

lemma asksOnly_sleep (pause : Nat) : AsksOnly K (Attempt.sleep pause : Attempt I ε Unit) :=
  Routine.AsksOnly.map _ (Routine.asksOnly_sleep pause)

lemma asksOnly_readClock : AsksOnly K (Attempt.readClock : Attempt I ε Nat) :=
  Routine.AsksOnly.map _ Routine.asksOnly_readClock

lemma AsksOnly.forM {γ : Type} {list : List γ} {f : γ → Attempt I ε PUnit}
    (only : ∀ item ∈ list, AsksOnly K (f item)) : AsksOnly K (list.forM f) := by
  induction list with
  | nil => exact asksOnly_pure _
  | cons item rest ih =>
    exact AsksOnly.bind (only item List.mem_cons_self) fun _ =>
      ih fun item mem => only item (List.mem_cons_of_mem _ mem)

/-- What is of a kind is of any wider kind. -/
lemma AsksOnly.mono {x : Attempt I ε α} {K' : I.Request → Prop} (only : AsksOnly K x)
    (wider : ∀ request, K request → K' request) : AsksOnly K' x :=
  fun _ _ _ _ path e mem => wider _ (only path e mem)

end AsksOnly

/-- Every value that an attempt gives has a property. -/
def Returns (V : α → Prop) (x : Attempt I ε α) : Prop :=
  ∀ ⦃now es value finish⦄, x.Yields now es (.ok value) finish → V value

section Returns

variable {V : α → Prop}

lemma returns_pure {value : α} (holds : V value) : Returns V (pure value : Attempt I ε α) := by
  intro now es value' finish path
  obtain ⟨_, eq, _⟩ := yields_pure_iff.1 path
  cases eq
  exact holds

lemma returns_throw (error : ε) : Returns V (throw error : Attempt I ε α) := by
  intro now es value finish path
  obtain ⟨_, eq, _⟩ := yields_throw_iff.1 path
  cases eq

lemma returns_ofExcept {result : Except ε α} (holds : ∀ value, result = .ok value → V value) :
    Returns V (ofExcept result : Attempt I ε α) := by
  intro now es value finish path
  obtain ⟨_, eq, _⟩ := yields_ofExcept_iff.1 path
  exact holds value eq.symm

/-- What the second part of a bind gives has the properties of that part. -/
lemma Returns.bind {W : β → Prop} {x : Attempt I ε α} {f : α → Attempt I ε β}
    (first : Returns V x) (second : ∀ value, V value → Returns W (f value)) :
    Returns W (x >>= f) := by
  intro now es value finish path
  obtain ⟨_, _, mid, _, _, left, right⟩ := path.bind_ok
  exact second mid (first left) right

/-- What a bind gives, its second part gives. -/
lemma returns_bind {x : Attempt I ε β} {f : β → Attempt I ε α}
    (second : ∀ value, Returns V (f value)) : Returns V (x >>= f) :=
  Returns.bind (V := fun _ => True) (fun _ _ _ _ _ => trivial) fun value _ => second value

lemma Returns.widen {x : Attempt I ε α} (g : ε → ε') (returns : Returns V x) :
    Returns V (x.widen g) :=
  fun _ _ _ _ path => returns (yields_widen_ok.1 path)

/-- The second part of a bind may rely on what the first part gives. -/
lemma AsksOnly.bind_returns {K : I.Request → Prop} {x : Attempt I ε α} {f : α → Attempt I ε β}
    (first : AsksOnly K x) (returns : Returns V x)
    (second : ∀ value, V value → AsksOnly K (f value)) : AsksOnly K (x >>= f) := by
  intro now es rest finish path e mem
  rcases reaches_bind_cases path with
    ⟨left, path, _⟩ | ⟨first', second', value, time, rfl, left, right⟩
  · exact first path e mem
  · rcases List.mem_append.1 mem with mem | mem
    · exact first left e mem
    · exact second value (returns left) right e mem

end Returns

/-- Every error that an attempt fails with has a property. -/
def Fails (E : ε → Prop) (x : Attempt I ε α) : Prop :=
  ∀ ⦃now es error finish⦄, x.Yields now es (.error error) finish → E error

section Fails

variable {E : ε → Prop}

lemma fails_pure {value : α} : Fails E (pure value : Attempt I ε α) := by
  intro now es error finish path
  obtain ⟨_, eq, _⟩ := yields_pure_iff.1 path
  cases eq

lemma fails_throw {error : ε} (holds : E error) : Fails E (throw error : Attempt I ε α) := by
  intro now es error' finish path
  obtain ⟨_, eq, _⟩ := yields_throw_iff.1 path
  cases eq
  exact holds

lemma fails_ofExcept {result : Except ε α} (holds : ∀ error, result = .error error → E error) :
    Fails E (ofExcept result : Attempt I ε α) := by
  intro now es error finish path
  obtain ⟨_, eq, _⟩ := yields_ofExcept_iff.1 path
  exact holds error eq.symm

lemma fails_request {request : I.Request} : Fails E (Attempt.request request : Attempt I ε _) := by
  intro now es error finish path
  obtain ⟨_, _, _, eq, _⟩ := yields_request_iff.1 path
  cases eq

lemma fails_sleep {pause : Nat} : Fails E (Attempt.sleep pause : Attempt I ε Unit) := by
  intro now es error finish path
  obtain ⟨_, eq, _⟩ := yields_sleep_iff.1 path
  cases eq

lemma fails_readClock : Fails E (Attempt.readClock : Attempt I ε Nat) := by
  intro now es error finish path
  obtain ⟨_, eq, _⟩ := yields_readClock_iff.1 path
  cases eq

lemma fails_timed {x : Attempt I ε' α} : Fails E (Attempt.timed x : Attempt I ε _) := by
  intro now es error finish path
  obtain ⟨_, _, eq⟩ := Yields.of_timed path
  cases eq

lemma Fails.bind {x : Attempt I ε α} {f : α → Attempt I ε β} (first : Fails E x)
    (second : ∀ value, Fails E (f value)) : Fails E (x >>= f) := by
  intro now es error finish path
  rcases path.bind_cases with ⟨error', eq, left⟩ | ⟨_, _, value, _, _, _, right⟩
  · cases eq
    exact first left
  · exact second value right

/-- What follows may rely on what was decided. -/
lemma fails_decided {result : Except ε α} {f : α → Attempt I ε β}
    (holds : ∀ error, result = .error error → E error)
    (second : ∀ value, result = .ok value → Fails E (f value)) :
    Fails E (ofExcept result >>= f) := by
  cases result with
  | ok value => exact second value rfl
  | error error => exact fails_throw (holds error rfl)

lemma Fails.map {x : Attempt I ε α} (f : α → β) (fails : Fails E x) : Fails E (f <$> x) := by
  rw [map_eq_pure_bind]
  exact fails.bind fun _ => fails_pure

lemma Fails.mono {E' : ε → Prop} {x : Attempt I ε α} (fails : Fails E x)
    (wider : ∀ error, E error → E' error) : Fails E' x :=
  fun _ _ _ _ path => wider _ (fails path)

/-- A wider operation fails with what it makes of the errors of the attempt. -/
lemma Fails.widen {E' : ε' → Prop} {x : Attempt I ε α} (fails : Fails E x) {g : ε → ε'}
    (holds : ∀ error, E error → E' (g error)) : Fails E' (x.widen g) := by
  intro now es error finish path
  obtain ⟨result, inner, eq⟩ := yields_widen_iff.1 path
  cases result with
  | ok value => cases eq
  | error error' =>
    cases eq
    exact holds error' (fails inner)

/-- The errors of a wider operation have a property if it makes only such errors. -/
lemma fails_widen {x : Attempt I ε' α} {g : ε' → ε} (holds : ∀ error, E (g error)) :
    Fails E (x.widen g) :=
  Fails.widen (fun _ _ _ _ _ => trivial) fun error (_ : True) => holds error

lemma fails_outcome {x : Attempt I ε' α} : Fails E (outcome x : Attempt I ε _) := by
  intro now es error finish path
  obtain ⟨_, _, eq⟩ := yields_outcome_iff.1 path
  cases eq

lemma Fails.forM {γ : Type} {list : List γ} {f : γ → Attempt I ε PUnit}
    (fails : ∀ item ∈ list, Fails E (f item)) : Fails E (list.forM f) := by
  induction list with
  | nil => exact fails_pure
  | cons item rest ih =>
    exact Fails.bind (fails item List.mem_cons_self) fun _ =>
      ih fun item mem => fails item (List.mem_cons_of_mem _ mem)

end Fails

end Attempt

end UpgradeDrill
