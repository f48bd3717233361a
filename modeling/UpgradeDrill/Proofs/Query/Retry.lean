import Mathlib.Algebra.Group.Nat.Defs
import UpgradeDrill.Proofs.Backoff
import UpgradeDrill.Proofs.Query.Plain
import UpgradeDrill.Proofs.Routine.Attempt

/-!
# Retried and polled queries

`Retried` and `Polled` describe the ways a retried and a polled query can go, one constructor for
each thing that can happen after an attempt. Every path of the loops is of this form
(`retried_of_yields`, `polled_of_yields`), so what holds of the loops is proved by induction on the
way they went. A retried query gives the value of its last attempt, or gives up because the delay
that comes next does not fit into its budget.
-/

namespace UpgradeDrill

namespace Backoff

/-- A session with doubling delays that was started at a time with a timeout, now at another. -/
structure Doubling (timeout start now : Nat) (session : Backoff) : Prop
    extends Of (.doubling timeout) start session where
  elapsed : start + session.elapsed = now

/-- The delay after some waits does not fit any more into the budget of a session. -/
def NoRoom (timeout start now waits : Nat) : Prop :=
  start + budget start timeout <
    now + min (BackoffConfig.defaultInitialDelay * 2 ^ waits) maxDelay

lemma defaultInitialDelay_le_maxDelay : BackoffConfig.defaultInitialDelay ≤ maxDelay := by decide

/-- A session starts with the first delay. -/
lemma doubling_of_start {timeout now : Nat} {session : Backoff}
    (started : start (.doubling timeout) now = .ok session) : Doubling timeout now now session :=
  ⟨of_start started, congrArg (now + ·) (start_ok started).2⟩

namespace Doubling

variable {timeout start now time : Nat} {session next : Backoff}

lemma pass (doubling : Doubling timeout start now session) (le : now ≤ time) :
    Doubling timeout start time (session.pass (time - now)) := by
  refine ⟨doubling.toOf.pass _, ?_⟩
  have elapsed := doubling.elapsed
  simp only [Backoff.pass]
  omega

lemma wait (doubling : Doubling timeout start now session) (granted : session.wait = .ok next) :
    Doubling timeout start (now + session.delay) next := by
  refine ⟨doubling.toOf.wait granted, ?_⟩
  rw [(wait_ok granted).2.1, ← doubling.elapsed, Nat.add_assoc]

/-- A wait is refused only if it does not fit into the budget. -/
lemma noRoom {reason : BackoffError} (doubling : Doubling timeout start now session)
    (refused : session.wait = .error reason) : NoRoom timeout start now session.waits := by
  have cannot := mt doubling.canWait_iff.2 (wait_error_iff.1 refused).1
  rw [doubling.deadline, doubling.delay, BackoffConfig.delayAfter_doubling, Nat.not_le] at cannot
  rw [NoRoom, ← doubling.elapsed, Nat.add_assoc]
  exact Nat.add_lt_add_left cannot start

end Doubling

end Backoff

namespace Query

open Attempt Routine

variable {I : Interface} {α : Type}

section Retry

variable (participant operation : String) (query : Attempt I QueryError α)

/-- The ways of a retried query from a state of its session on. -/
inductive Retried : Backoff → Nat → List (Exchange I) → Except QueryError α → Nat → Prop where
  | value {session now es value finish} :
    query.Yields now es (.ok value) finish →
    Retried session now es (.ok value) finish
  | exhausted {session now es error finish reason} :
    query.Yields now es (.error error) finish →
    (session.pass (finish - now)).wait = .error reason →
    Retried session now es
      (.error (.retriesExhausted participant operation (session.waits + 1) error)) finish
  | again {session next now es error time es' outcome finish} :
    query.Yields now es (.error error) time →
    (session.pass (time - now)).wait = .ok next →
    Retried next (time + session.delay) es' outcome finish →
    Retried session now (es ++ es') outcome finish

variable {participant operation query}

/-- A retried query goes one of its ways. -/
theorem retried_of_yields {session : Backoff} {now es outcome finish}
    (path : (retryFrom participant operation query session).Yields now es outcome finish) :
    Retried participant operation query session now es outcome finish := by
  induction session using retryFrom.induct generalizing now es with
  | case1 session ih =>
    rw [retryFrom] at path
    rcases path.bind_cases with ⟨_, _, failed⟩ | ⟨first, second, timed, time, rfl, left, right⟩
    · obtain ⟨_, _, eq⟩ := failed.of_timed
      cases eq
    · obtain ⟨result, attempt, eq⟩ := left.of_timed
      cases eq
      cases result with
      | ok value =>
        obtain ⟨rfl, rfl, rfl⟩ := yields_pure_iff.1 right
        rw [List.append_nil]
        exact .value attempt
      | error error =>
        dsimp only at right
        split at right
        · rename_i next granted
          rcases right.bind_cases with ⟨_, _, failed⟩ | ⟨_, rest, _, _, rfl, slept, right⟩
          · obtain ⟨_, eq, _⟩ := yields_sleep_iff.1 failed
            cases eq
          · obtain ⟨rfl, _, rfl⟩ := yields_sleep_iff.1 slept
            exact .again attempt granted (ih _ next granted right)
        · obtain ⟨rfl, rfl, rfl⟩ := yields_throw_iff.1 right
          rw [List.append_nil]
          exact .exhausted attempt ‹_›

/-- A retried query with a valid budget goes one of the ways of a new session. -/
lemma Retried.of_retry {timeout now es outcome finish}
    (room : BackoffConfig.defaultInitialDelay < timeout)
    (path : (retry participant operation timeout query).Yields now es outcome finish) :
    ∃ session, session.Doubling timeout now now ∧
      Retried participant operation query session now es outcome finish := by
  obtain ⟨session, started⟩ := Backoff.start_doubling room now
  rw [retry, yields_readClock_bind_iff, started] at path
  exact ⟨session, Backoff.doubling_of_start started, retried_of_yields path⟩

/-- A retried query fails by exhaustion only: there is no room for the delay that comes next. -/
theorem Retried.error {session : Backoff} {timeout start now es error finish}
    (way : Retried participant operation query session now es (.error error) finish)
    (doubling : session.Doubling timeout start now) :
    ∃ waits last, error = .retriesExhausted participant operation (waits + 1) last ∧
      Backoff.NoRoom timeout start finish waits := by
  generalize eq : Except.error error = outcome at way
  induction way with
  | value path => cases eq
  | exhausted path refused =>
    cases eq
    exact ⟨_, _, rfl, (doubling.pass path.le).noRoom refused⟩
  | again path granted _ ih => exact ih ((doubling.pass path.le).wait granted) eq

end Retry

/-- An exchange is a request whose reply is understood as an outcome. -/
def Brings (request : I.Request) (understand : I.Reply request → Except QueryError α)
    (outcome : Except QueryError α) (e : Exchange I) : Prop :=
  ∃ time reply took, e = ⟨time, request, reply, took⟩ ∧ understand reply = outcome

lemma Brings.unique {request : I.Request} {understand : I.Reply request → Except QueryError α}
    {outcome outcome' : Except QueryError α} {e : Exchange I}
    (brings : Brings request understand outcome e)
    (brings' : Brings request understand outcome' e) :
    outcome = outcome' := by
  obtain ⟨_, reply, _, rfl, rfl⟩ := brings
  obtain ⟨_, _, _, eq, rfl⟩ := brings'
  cases eq
  rfl

/-- A query of one exchange, and which exchange brings which outcome. A failing attempt need not get
as far as the exchange. -/
structure Single (query : Attempt I QueryError α)
    (Brings : Except QueryError α → Exchange I → Prop) : Prop where
  value : ∀ {now es value finish}, query.Yields now es (.ok value) finish →
    ∃ e, es = [e] ∧ Brings (.ok value) e ∧ e.time = now ∧ e.arrival = finish
  error : ∀ {now es error finish}, query.Yields now es (.error error) finish →
    ∀ e ∈ es, ∃ error, Brings (.error error) e

/-- A request whose reply is understood has not been made yet, or is the one exchange. -/
lemma reaches_understand {ε : Type} {request : I.Request}
    {understand : I.Reply request → Except ε α} {now es rest finish}
    (path : Reaches
      (ExceptT.run do
        let reply ← Attempt.request request
        Attempt.ofExcept (understand reply))
      now es rest finish) :
    (es = [] ∧ ∀ outcome, rest ≠ done outcome) ∨
      ∃ reply took, es = [⟨now, request, reply, took⟩] ∧
        ∀ outcome, rest = done outcome → outcome = understand reply ∧ finish = now + took := by
  cases path with
  | here => exact .inl ⟨rfl, nofun⟩
  | @ask _ _ _ reply took _ _ _ path =>
    cases path with
    | here => exact .inr ⟨reply, took, rfl, nofun⟩
    | wait path =>
      obtain ⟨rfl, rfl, rfl⟩ := reaches_done_iff.1 path
      refine .inr ⟨reply, took, rfl, fun outcome eq => ?_⟩
      cases eq
      exact ⟨rfl, rfl⟩

lemma yields_understand_iff {ε : Type} {request : I.Request}
    {understand : I.Reply request → Except ε α} {now es outcome finish} :
    Yields
        (do
          let reply ← Attempt.request request
          Attempt.ofExcept (understand reply))
        now es outcome finish ↔
      ∃ reply took, es = [⟨now, request, reply, took⟩] ∧ outcome = understand reply ∧
        finish = now + took := by
  constructor
  · intro path
    rcases reaches_understand path with ⟨_, under⟩ | ⟨reply, took, rfl, ended⟩
    · exact (under _ rfl).elim
    · obtain ⟨rfl, rfl⟩ := ended _ rfl
      exact ⟨reply, took, rfl, rfl, rfl⟩
  · rintro ⟨reply, took, rfl, rfl, rfl⟩
    exact Reaches.bind (yields_request_iff.2 ⟨reply, took, rfl, rfl, rfl⟩) .here

lemma single_request {request : I.Request} (understand : I.Reply request → Except QueryError α) :
    Single
      (do
        let reply ← Attempt.request request
        Attempt.ofExcept (understand reply))
      (Brings request understand) where
  value path := by
    obtain ⟨reply, took, rfl, eq, rfl⟩ := yields_understand_iff.1 path
    exact ⟨_, rfl, ⟨_, reply, took, rfl, eq.symm⟩, rfl, rfl⟩
  error path e mem := by
    obtain ⟨reply, took, rfl, eq, rfl⟩ := yields_understand_iff.1 path
    exact ⟨_, _, reply, took, List.mem_singleton.1 mem, eq.symm⟩

/-- A retried query of one exchange that gives a value got it in the last exchange, and all
exchanges before that failed. -/
theorem Single.retried_ok {participant operation : String} {query : Attempt I QueryError α}
    {Brings : Except QueryError α → Exchange I → Prop} {session : Backoff} {now es value finish}
    (single : Single query Brings)
    (way : Retried participant operation query session now es (.ok value) finish) :
    ∃ failed e, es = failed ++ [e] ∧ (∀ d ∈ failed, ∃ error, Brings (.error error) d) ∧
      Brings (.ok value) e ∧ now ≤ e.time ∧ e.arrival = finish := by
  generalize eq : Except.ok value = outcome at way
  induction way with
  | value path =>
    cases eq
    obtain ⟨e, rfl, brings, rfl, rfl⟩ := single.value path
    exact ⟨[], e, rfl, nofun, brings, Nat.le_refl _, rfl⟩
  | exhausted _ _ => cases eq
  | again path _ way ih =>
    obtain ⟨failed, e, rfl, failures, brings, le, arrival⟩ := ih eq
    refine ⟨_ ++ failed, e, (List.append_assoc ..).symm, fun d mem => ?_, brings, ?_, arrival⟩
    · rcases List.mem_append.1 mem with mem | mem
      · exact single.error path d mem
      · exact failures d mem
    · exact Nat.le_trans path.le (Nat.le_trans (Nat.le_add_right ..) le)

/-- All exchanges of a retried query of one exchange that gives no value failed. -/
theorem Single.retried_error {participant operation : String} {query : Attempt I QueryError α}
    {Brings : Except QueryError α → Exchange I → Prop} {session : Backoff} {now es error finish}
    (single : Single query Brings)
    (way : Retried participant operation query session now es (.error error) finish) :
    ∀ e ∈ es, ∃ error, Brings (.error error) e := by
  generalize eq : Except.error error = outcome at way
  induction way with
  | value _ => cases eq
  | exhausted path _ => exact single.error path
  | again path _ way ih =>
    intro e mem
    rcases List.mem_append.1 mem with mem | mem
    · exact single.error path e mem
    · exact ih eq e mem

section Poll

variable (participant operation : String) (timeout : Nat) (text : α → String)
  (query : Attempt I QueryError α) (awaited : α → Bool)

/-- The ways of a polled query after some attempts, with the last value and from a state of its
session on. -/
inductive Polled : Nat → Option α → Backoff → Nat → List (Exchange I) →
    Except QueryError (Poll α) → Nat → Prop where
  | satisfied {attempts last session now es value finish} :
    query.Yields now es (.ok value) finish →
    awaited value = true →
    Polled attempts last session now es
      (.ok ⟨value, attempts + 1, (session.pass (finish - now)).elapsed,
        (session.pass (finish - now)).remaining⟩) finish
  | unsatisfied {attempts last session now es outcome finish reason} :
    query.Yields now es outcome finish →
    outcome.toOption.filter awaited = none →
    (session.pass (finish - now)).wait = .error reason →
    Polled attempts last session now es
      (.error (.unsatisfied participant operation timeout
        (inspectOption text (outcome.toOption.or last)))) finish
  | again {attempts last session next now es outcome time es' result finish} :
    query.Yields now es outcome time →
    outcome.toOption.filter awaited = none →
    (session.pass (time - now)).wait = .ok next →
    Polled (attempts + 1) (outcome.toOption.or last) next (time + session.delay) es' result finish →
    Polled attempts last session now (es ++ es') result finish

variable {participant operation timeout text query awaited}

/-- A polled query goes one of its ways. -/
theorem polled_of_yields {attempts : Nat} {last : Option α} {session : Backoff}
    {now es outcome finish}
    (path : (pollFrom participant operation timeout text query awaited attempts last
      session).Yields now es outcome finish) :
    Polled participant operation timeout text query awaited attempts last session now es outcome
      finish := by
  induction session using Backoff.wait_induction generalizing attempts last now es with
  | again session ih =>
    rw [pollFrom_eq] at path
    rcases path.bind_cases with ⟨_, _, failed⟩ | ⟨first, second, timed, time, rfl, left, right⟩
    · obtain ⟨_, _, eq⟩ := failed.of_timed
      cases eq
    · obtain ⟨result, attempt, eq⟩ := left.of_timed
      cases eq
      dsimp only at right
      split at right
      · rename_i value found
        obtain ⟨rfl, rfl, rfl⟩ := yields_pure_iff.1 right
        obtain ⟨given, yes⟩ := Option.filter_eq_some_iff.1 found
        cases result with
        | ok value =>
          cases given
          rw [List.append_nil]
          exact .satisfied attempt yes
        | error error => cases given
      · rename_i missed
        split at right
        · rename_i next granted
          rcases right.bind_cases with ⟨_, _, failed⟩ | ⟨_, rest, _, _, rfl, slept, right⟩
          · obtain ⟨_, eq, _⟩ := yields_sleep_iff.1 failed
            cases eq
          · obtain ⟨rfl, _, rfl⟩ := yields_sleep_iff.1 slept
            exact .again attempt missed granted (ih _ next granted right)
        · obtain ⟨rfl, rfl, rfl⟩ := yields_throw_iff.1 right
          rw [List.append_nil]
          exact .unsatisfied attempt missed ‹_›

/-- A poll ends with an attempt that gives an awaited value and is made by the deadline. -/
theorem Polled.value {attempts : Nat} {last : Option α} {session : Backoff} {config : BackoffConfig}
    {start now es poll finish}
    (way : Polled participant operation timeout text query awaited attempts last session now es
      (.ok poll) finish)
    (of : session.Of config start) (clock : start + session.elapsed = now)
    (early : now ≤ start + Backoff.budget start config.timeout) :
    awaited poll.value = true ∧ ∃ before after time, es = before ++ after ∧ now ≤ time ∧
      time ≤ start + Backoff.budget start config.timeout ∧
      query.Yields time after (.ok poll.value) finish := by
  generalize eq : Except.ok poll = outcome at way
  induction way with
  | satisfied path yes =>
    cases eq
    exact ⟨yes, [], _, _, rfl, Nat.le_refl _, early, path⟩
  | unsatisfied _ _ _ => cases eq
  | @again _ _ session next now _ _ time _ _ _ path _ granted _ ih =>
    have le := path.le
    have fits : session.elapsed + (time - now) + session.delay ≤ session.deadline :=
      (Backoff.wait_ok_iff.1 ⟨next, granted⟩).2
    have elapsed : next.elapsed = session.elapsed + (time - now) + session.delay :=
      (Backoff.wait_ok granted).2.1
    rw [of.deadline] at fits
    obtain ⟨yes, before, after, time', rfl, le', early', path'⟩ :=
      ih ((of.pass _).wait granted) (by omega) (by omega) eq
    refine ⟨yes, _ ++ before, after, time', (List.append_assoc ..).symm, ?_, early', path'⟩
    exact Nat.le_trans le (Nat.le_trans (Nat.le_add_right ..) le')

/-- A poll that succeeds ends with an attempt that gives an awaited value, and that is made while
the budget lasts. -/
lemma value_of_pollUntil {now es poll finish}
    (path : (pollUntil participant operation timeout text query awaited).Yields now es (.ok poll)
      finish) :
    awaited poll.value = true ∧ ∃ before after time, es = before ++ after ∧ now ≤ time ∧
      time ≤ now + timeout ∧ query.Yields time after (.ok poll.value) finish := by
  rw [pollUntil_eq, yields_readClock_bind_iff] at path
  split at path
  · rename_i session started
    have clock : now + session.elapsed = now := congrArg (now + ·) (Backoff.start_ok started).2
    obtain ⟨yes, before, after, time, eq, le, early, last⟩ :=
      (polled_of_yields path).value (Backoff.of_start started) clock (Nat.le_add_right ..)
    refine ⟨yes, before, after, time, eq, le, Nat.le_trans early ?_, last⟩
    exact Nat.add_le_add_left (Backoff.budget_le now timeout) now
  · obtain ⟨_, eq, _⟩ := yields_throw_iff.1 path
    cases eq

end Poll

section AsksOnly

variable {K : I.Request → Prop} {query : Attempt I QueryError α}

lemma asksOnly_retryFrom (participant operation : String) (only : query.AsksOnly K)
    (session : Backoff) : (retryFrom participant operation query session).AsksOnly K := by
  induction session using retryFrom.induct with
  | case1 session ih =>
    rw [retryFrom]
    refine .bind only.timed fun timed => ?_
    obtain ⟨outcome, took⟩ := timed
    cases outcome with
    | ok value => exact asksOnly_pure value
    | error error =>
      dsimp only
      split
      · rename_i next granted
        exact .bind (asksOnly_sleep _) fun _ => ih took next granted
      · exact asksOnly_throw _

lemma asksOnly_retry (participant operation : String) (timeout : Nat) (only : query.AsksOnly K) :
    (retry participant operation timeout query).AsksOnly K := by
  refine .bind asksOnly_readClock fun now => ?_
  split
  · exact asksOnly_retryFrom participant operation only _
  · exact asksOnly_throw _

lemma asksOnly_pollFrom (participant operation : String) (timeout : Nat) (text : α → String)
    (awaited : α → Bool) (only : query.AsksOnly K) (attempts : Nat) (last : Option α)
    (session : Backoff) :
    (pollFrom participant operation timeout text query awaited attempts last session).AsksOnly
      K := by
  induction session using Backoff.wait_induction generalizing attempts last with
  | again session ih =>
    rw [pollFrom_eq]
    refine .bind only.timed fun timed => ?_
    obtain ⟨outcome, took⟩ := timed
    dsimp only
    split
    · exact asksOnly_pure _
    · split
      · rename_i next granted
        exact .bind (asksOnly_sleep _) fun _ => ih took next granted _ _
      · exact asksOnly_throw _

lemma asksOnly_pollUntil (participant operation : String) (timeout : Nat) (text : α → String)
    (awaited : α → Bool) (only : query.AsksOnly K) :
    (pollUntil participant operation timeout text query awaited).AsksOnly K := by
  rw [pollUntil_eq]
  refine .bind asksOnly_readClock fun now => ?_
  split
  · exact asksOnly_pollFrom participant operation timeout text awaited only _ _ _
  · exact asksOnly_throw _

end AsksOnly

end Query

end UpgradeDrill
