import UpgradeDrill.Proofs.Query.Retry
import UpgradeDrill.Query.GrpcCall
import UpgradeDrill.Query.JsonRpc

/-!
# How retried queries settle

A retried query goes on until a reply brings a result, whatever the replies before that were. The
result is then read once: a malformed one fails the query at once, with no more attempts. So a query
of this form settles in one of three ways, told apart by the exchanges it made (`Settled`).
-/

namespace UpgradeDrill

namespace Query

open Attempt

variable {I : Interface} {α β : Type}

/-- An exchange brings a result that is read with an outcome. -/
def Reads (request : I.Request) (understand : I.Reply request → Except QueryError β)
    (read : β → Except QueryError α) (outcome : Except QueryError α) (e : Exchange I) : Prop :=
  ∃ result, Brings request understand (.ok result) e ∧ read result = outcome

lemma Reads.unique {request : I.Request} {understand : I.Reply request → Except QueryError β}
    {read : β → Except QueryError α} {outcome outcome' : Except QueryError α} {e : Exchange I}
    (reads : Reads request understand read outcome e)
    (reads' : Reads request understand read outcome' e) : outcome = outcome' := by
  obtain ⟨result, brings, rfl⟩ := reads
  obtain ⟨result', brings', rfl⟩ := reads'
  cases brings.unique brings'
  rfl

/-- What a failed exchange brings is not read. -/
lemma Brings.not_reads {request : I.Request} {understand : I.Reply request → Except QueryError β}
    {read : β → Except QueryError α} {outcome : Except QueryError α} {e : Exchange I}
    {error : QueryError} (brings : Brings request understand (.error error) e) :
    ¬ Reads request understand read outcome e := by
  rintro ⟨result, brings', _⟩
  cases brings.unique brings'

/-- The outcome of a retried query as its exchanges determine it. -/
structure Settled (Reads : Except QueryError α → Exchange I → Prop)
    (participant operation : String) (timeout now : Nat) (es : List (Exchange I))
    (outcome : Except QueryError α) (finish : Nat) : Prop where
  /-- A value is given exactly if a well-formed result was brought. -/
  value : ∀ value, outcome = .ok value ↔ ∃ e ∈ es, Reads (.ok value) e
  /-- The error of a single attempt is given exactly if a malformed result was brought. -/
  malformed : ∀ error, outcome = .error error ∧ error.isAttempt = true ↔
    ∃ e ∈ es, Reads (.error error) e
  /-- Any other error tells that there was no room for another attempt. -/
  exhausted : ∀ error, error.isAttempt = false → outcome = .error error →
    ∃ waits last, error = .retriesExhausted participant operation (waits + 1) last ∧
      Backoff.NoRoom timeout now finish waits

namespace Settled

variable {Reads : Except QueryError α → Exchange I → Prop} {participant operation : String}
  {timeout now finish : Nat} {es : List (Exchange I)}

/-- Nothing was read, and there was no room for another attempt. -/
lemma of_noRoom {waits : Nat} {last : QueryError}
    (none : ∀ outcome, ¬ ∃ e ∈ es, Reads outcome e)
    (noRoom : Backoff.NoRoom timeout now finish waits) :
    Settled Reads participant operation timeout now es
      (.error (.retriesExhausted participant operation (waits + 1) last)) finish where
  value _ := ⟨nofun, fun some => (none _ some).elim⟩
  malformed error := by
    refine ⟨?_, fun some => (none _ some).elim⟩
    rintro ⟨eq, attempt⟩
    cases eq
    cases attempt
  exhausted error _ eq := by
    cases eq
    exact ⟨waits, last, rfl, noRoom⟩

/-- The outcome is what was read, which fails with the error of a single attempt only. -/
lemma of_read {outcome : Except QueryError α}
    (reads : ∀ outcome', outcome = outcome' ↔ ∃ e ∈ es, Reads outcome' e)
    (once : ∀ error, outcome = .error error → error.isAttempt = true) :
    Settled Reads participant operation timeout now es outcome finish where
  value value := reads (.ok value)
  malformed error := by rw [← reads, and_iff_left_of_imp (once error)]
  exhausted error attempt failed := by
    rw [once error failed] at attempt
    cases attempt

end Settled

section Settle

variable {participant operation : String} {timeout now finish : Nat} {es : List (Exchange I)}
  {outcome : Except QueryError α} {query : Attempt I QueryError β} {request : I.Request}
  {understand : I.Reply request → Except QueryError β} {read : β → Except QueryError α}

/-- A retried query whose result is read settles. -/
theorem settled_of_yields (single : Single query (Brings request understand))
    (reading : ∀ result error, read result = .error error → error.isAttempt = true)
    (room : BackoffConfig.defaultInitialDelay < timeout)
    (path : Yields
      (do
        let result ← retry participant operation timeout query
        Attempt.ofExcept (read result))
      now es outcome finish) :
    Settled (Reads request understand read) participant operation timeout now es outcome
      finish := by
  rcases path.bind_cases with ⟨error, rfl, failed⟩ | ⟨first, second, result, time, rfl, left, right⟩
  · obtain ⟨session, doubling, way⟩ := Retried.of_retry room failed
    obtain ⟨waits, last, rfl, noRoom⟩ := way.error doubling
    refine .of_noRoom ?_ noRoom
    rintro outcome ⟨e, mem, reads⟩
    obtain ⟨_, brings⟩ := single.retried_error way e mem
    exact brings.not_reads reads
  · obtain ⟨session, doubling, way⟩ := Retried.of_retry room left
    obtain ⟨failed, e, rfl, failures, brings, _⟩ := single.retried_ok way
    obtain ⟨rfl, eq, rfl⟩ := yields_ofExcept_iff.1 right
    have last : Reads request understand read outcome e := ⟨result, brings, eq.symm⟩
    rw [List.append_nil]
    refine .of_read (fun outcome' => ⟨?_, ?_⟩) fun error failed =>
      reading result error (eq ▸ failed)
    · rintro rfl
      exact ⟨e, List.mem_append_right _ List.mem_cons_self, last⟩
    · -- No exchange before the last one was read.
      rintro ⟨d, mem, reads⟩
      rcases List.mem_append.1 mem with mem | mem
      · obtain ⟨_, brings⟩ := failures d mem
        exact (brings.not_reads reads).elim
      · cases List.mem_singleton.1 mem
        exact last.unique reads

/-- A retried query whose result is taken as it is settles. -/
theorem settled_of_retry {outcome : Except QueryError β}
    (single : Single query (Brings request understand))
    (room : BackoffConfig.defaultInitialDelay < timeout)
    (path : (retry participant operation timeout query).Yields now es outcome finish) :
    Settled (Reads request understand .ok) participant operation timeout now es outcome finish := by
  refine settled_of_yields single (fun _ _ eq => by cases eq) room ?_
  have same : (fun result => Attempt.ofExcept (.ok result) : β → Attempt I QueryError β) =
      pure := rfl
  rw [same, bind_pure]
  exact path

end Settle

/-- Every run of a query against a world settles. -/
def Settles (query : Attempt network QueryError α)
    (Reads : Except QueryError α → Exchange network → Prop) (participant operation : String)
    (timeout : Nat) : Prop :=
  ∀ {σ : Type} (world : World network σ) (now : Nat) (state : σ),
    Settled Reads participant operation timeout now (query.run.exchanges world now state)
      (query.run.run world now state).value (query.run.run world now state).time

end Query

open Query

lemma JsonRpc.single_call (url method : String) (params : Json) :
    Single (call url method params)
      (Brings (I := network) (.post url (payload method params)) (ofReply method)) :=
  single_request _

/-- A call to a url that cannot be parsed fails before any exchange. -/
lemma GrpcCall.single_unary {M N : Type} [Wire.Message M] [Wire.Message N] (url path : String)
    (message : M) :
    Single (unary url path message)
      (Brings (α := N) (I := network) (.call url path (Wire.encode message)) ofReply) := by
  unfold unary
  split
  · exact single_request _
  · refine ⟨fun path => ?_, fun path e mem => ?_⟩
    · obtain ⟨_, eq, _⟩ := Attempt.yields_throw_iff.1 path
      cases eq
    · obtain ⟨rfl, _⟩ := Attempt.yields_throw_iff.1 path
      cases mem

end UpgradeDrill
