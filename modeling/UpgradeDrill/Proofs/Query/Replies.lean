import UpgradeDrill.Proofs.Routine.Plays
import UpgradeDrill.Query.JsonRpc

/-!
# JSON-RPC replies

What a reply means is told by a relation (`Means`): an `error` member in the body makes it a failed
request, whatever else the body holds. A request takes its reply for what it means unless the body
holds a result beside an error (`Both`). Then it gives the result (`request_classified`).
-/

namespace UpgradeDrill.JsonRpc

open Attempt

/-- The JSON value in the body of a reply with status 200. -/
inductive Carries : HttpReply → Json → Prop where
  | intro {text body} : Json.parse? text = some body → Carries (.response 200 text) body

/-- Why a reply carries no value. The body of another status is not looked at. -/
inductive Unread : HttpReply → QueryError → Prop where
  | lost {reason} : Unread (.failed reason) (.request reason)
  | status {status text} :
    status ≠ 200 →
    Unread (.response status text) (.status status)
  | garbled {text} :
    Json.parse? text = none →
    Unread (.response 200 text) (.request "error decoding response body")
  | binaryStatus {status} :
    status ≠ 200 →
    Unread (.binary status) (.status status)
  | binary : Unread (.binary 200) (.request "error decoding response body")

/-- What a reply to a method means. -/
inductive Means (method : String) (reply : HttpReply) : Except QueryError Json → Prop where
  | unread {error} : Unread reply error → Means method reply (.error error)
  | result {body value} :
    Carries reply body →
    body.get? "result" = some value →
    body.get? "error" = none →
    Means method reply (.ok value)
  | refused {body} :
    Carries reply body →
    body.get? "result" = none ∨ (body.get? "error").isSome →
    Means method reply (.error (.jsonRpc method ((body.get? "error").getD .null)))

/-- A reply has a result, whatever else its body holds. -/
def Gives (reply : HttpReply) (value : Json) : Prop :=
  ∃ body, Carries reply body ∧ body.get? "result" = some value

/-- A reply has a result and an error. -/
def Both (reply : HttpReply) : Prop :=
  ∃ body, Carries reply body ∧ (body.get? "result").isSome ∧ (body.get? "error").isSome

section Reply

variable {method : String} {reply : HttpReply} {outcome outcome' : Except QueryError Json}
  {body body' : Json} {error error' : QueryError}

lemma unread_or_carries (reply : HttpReply) :
    (∃ error, Unread reply error) ∨ ∃ body, Carries reply body := by
  cases reply with
  | failed reason => exact .inl ⟨_, .lost⟩
  | response status text =>
    by_cases ok : status = 200
    · subst ok
      cases parsed : Json.parse? text with
      | none => exact .inl ⟨_, .garbled parsed⟩
      | some body => exact .inr ⟨body, .intro parsed⟩
    · exact .inl ⟨_, .status ok⟩
  | binary status =>
    by_cases ok : status = 200
    · subst ok
      exact .inl ⟨_, .binary⟩
    · exact .inl ⟨_, .binaryStatus ok⟩

lemma Carries.unique (carries : Carries reply body) (carries' : Carries reply body') :
    body = body' := by
  obtain ⟨parsed⟩ := carries
  obtain ⟨parsed'⟩ := carries'
  exact Option.some.inj (parsed.symm.trans parsed')

lemma Unread.unique (unread : Unread reply error) (unread' : Unread reply error') :
    error = error' := by
  cases unread with
  | lost =>
    cases unread'
    rfl
  | status other =>
    cases unread' with
    | status => rfl
    | garbled => exact absurd rfl other
  | garbled =>
    cases unread' with
    | status other => exact absurd rfl other
    | garbled => rfl
  | binaryStatus other =>
    cases unread' with
    | binaryStatus => rfl
    | binary => exact absurd rfl other
  | binary =>
    cases unread' with
    | binaryStatus other => exact absurd rfl other
    | binary => rfl

lemma Unread.not_carries (unread : Unread reply error) : ¬ Carries reply body := by
  rintro ⟨parsed⟩
  cases unread with
  | status other => exact other rfl
  | garbled garbled => cases garbled.symm.trans parsed

/-- A reply has one meaning. -/
theorem Means.unique (means : Means method reply outcome) (means' : Means method reply outcome') :
    outcome = outcome' := by
  cases means with
  | unread unread =>
    cases means' with
    | unread unread' => rw [unread.unique unread']
    | result carries | refused carries => exact absurd carries unread.not_carries
  | result carries found clean =>
    cases means' with
    | unread unread => exact absurd carries unread.not_carries
    | result carries' found' =>
      cases carries.unique carries'
      rw [Option.some.inj (found.symm.trans found')]
    | refused carries' refused =>
      cases carries.unique carries'
      simp [found, clean] at refused
  | refused carries refused =>
    cases means' with
    | unread unread => exact absurd carries unread.not_carries
    | result carries' found clean =>
      cases carries.unique carries'
      simp [found, clean] at refused
    | refused carries' => rw [carries.unique carries']

lemma exists_means (method : String) (reply : HttpReply) :
    ∃ meant, Means method reply meant := by
  rcases unread_or_carries reply with ⟨error, unread⟩ | ⟨body, carries⟩
  · exact ⟨_, .unread unread⟩
  cases found : body.get? "result" with
  | none => exact ⟨_, .refused carries (.inl found)⟩
  | some value =>
    cases failed : body.get? "error" with
    | none => exact ⟨_, .result carries found failed⟩
    | some error => exact ⟨_, .refused carries (.inr (by rw [failed]; rfl))⟩

lemma Unread.ofReply (unread : Unread reply error) : ofReply method reply = .error error := by
  cases unread with
  | lost | binary => rfl
  | status other => exact if_pos other
  | garbled garbled => simp [JsonRpc.ofReply, garbled, notJson]
  | binaryStatus other => exact congrArg Except.error (if_pos other)

lemma Carries.ofReply (carries : Carries reply body) :
    ofReply method reply = JsonRpc.result method body := by
  obtain ⟨parsed⟩ := carries
  simp [JsonRpc.ofReply, parsed]

lemma Carries.gives_iff (carries : Carries reply body) (value : Json) :
    Gives reply value ↔ body.get? "result" = some value := by
  refine ⟨?_, fun found => ⟨body, carries, found⟩⟩
  rintro ⟨_, carries', found⟩
  rwa [carries.unique carries']

lemma Carries.both_iff (carries : Carries reply body) :
    Both reply ↔ (body.get? "result").isSome ∧ (body.get? "error").isSome := by
  refine ⟨?_, fun found => ⟨body, carries, found⟩⟩
  rintro ⟨_, carries', found⟩
  rwa [carries.unique carries']

/-- A request gives a value exactly if it is the result in the reply. -/
lemma ofReply_eq_ok_iff (method : String) (reply : HttpReply) (value : Json) :
    ofReply method reply = .ok value ↔ Gives reply value := by
  rcases unread_or_carries reply with ⟨error, unread⟩ | ⟨body, carries⟩
  · rw [unread.ofReply]
    exact ⟨nofun, fun ⟨_, carries, _⟩ => absurd carries unread.not_carries⟩
  · rw [carries.ofReply, carries.gives_iff, JsonRpc.result]
    cases body.get? "result" <;> simp

/-- A reply is taken for what it means exactly if it does not hold a result beside an error. -/
theorem means_ofReply_iff (method : String) (reply : HttpReply) :
    Means method reply (ofReply method reply) ↔ ¬ Both reply := by
  rcases unread_or_carries reply with ⟨error, unread⟩ | ⟨body, carries⟩
  · rw [unread.ofReply]
    exact ⟨fun _ ⟨_, carries, _⟩ => unread.not_carries carries, fun _ => .unread unread⟩
  rw [carries.ofReply, carries.both_iff, JsonRpc.result]
  cases found : body.get? "result" with
  | none => exact ⟨fun _ => nofun, fun _ => .refused carries (.inl found)⟩
  | some value =>
    cases failed : body.get? "error" with
    | none => exact ⟨fun _ => nofun, fun _ => .result carries found failed⟩
    | some error =>
      -- With both members there, the result is given and the reply means a failure.
      have refused : Means method reply _ := .refused carries (.inr (by rw [failed]; rfl))
      refine ⟨fun means => ?_, fun clean => (clean ⟨rfl, rfl⟩).elim⟩
      cases means.unique refused

/-- A failed request fails as a single attempt, and the reply means this failure. -/
lemma ofReply_error (failed : ofReply method reply = .error error) :
    error.isAttempt = true ∧ Means method reply (.error error) := by
  have means : Means method reply (.error error) := by
    rw [← failed, means_ofReply_iff]
    rintro ⟨body, carries, found, -⟩
    obtain ⟨value, found⟩ := Option.isSome_iff_exists.1 found
    cases failed.symm.trans ((ofReply_eq_ok_iff method reply value).2 ⟨body, carries, found⟩)
  refine ⟨?_, means⟩
  cases means with
  | unread unread => cases unread <;> rfl
  | refused => rfl

end Reply

/-- A single request, for any reply. It makes one exchange and is over when the reply is there. The
reply has one meaning, and the request ends with it exactly if the reply does not hold a result
beside an error. It gives exactly the result in the reply, and without one it fails as a single
attempt with what the reply means. -/
theorem request_classified {σ : Type} (url method : String) (params : Json)
    (world : World network σ) (now : Nat) (state : σ) :
    let request := NetworkRequest.post url (payload method params)
    let reply : HttpReply := (world.answer state now request).1
    let took := (world.answer state now request).2.1
    ∃ outcome meant,
      (call url method params).Plays world now state [⟨now, request, reply, took⟩] outcome
        (now + took) (world.answer state now request).2.2 ∧
      (∀ other, Means method reply other ↔ other = meant) ∧
      (outcome = meant ↔ ¬ Both reply) ∧
      (∀ value, outcome = .ok value ↔ Gives reply value) ∧
      ∀ error, outcome = .error error → error.isAttempt = true ∧ meant = .error error := by
  intro request reply took
  obtain ⟨meant, means⟩ := exists_means method reply
  have only (other) : Means method reply other ↔ other = meant :=
    ⟨fun means' => means'.unique means, fun same => same ▸ means⟩
  refine ⟨ofReply method reply, meant, ?_, only, ?_, ofReply_eq_ok_iff method reply, ?_⟩
  · exact Plays.bind ⟨rfl, ends_request rfl⟩ ⟨rfl, ends_ofExcept _⟩
  · rw [← only, means_ofReply_iff]
  · intro error failed
    obtain ⟨attempt, means'⟩ := ofReply_error failed
    exact ⟨attempt, ((only _).1 means').symm⟩

/-- An error beside a result. -/
def errorBesideNull : HttpReply :=
  .response 200 "\x7b\"error\":\x7b\"code\":-32603\x7d,\"result\":null\x7d"

/-- A reply that tells of an error is taken for a result. -/
theorem error_taken_for_result :
    ofReply "status" errorBesideNull = .ok .null ∧
      Means "status" errorBesideNull
        (.error (.jsonRpc "status" (.obj [("code", .num (.int (-32603)))]))) := by
  have parsed : Json.parse? "\x7b\"error\":\x7b\"code\":-32603\x7d,\"result\":null\x7d" =
      some (.obj [("error", .obj [("code", .num (.int (-32603)))]), ("result", .null)]) := by
    with_unfolding_all rfl
  have carries : Carries errorBesideNull _ := .intro parsed
  exact ⟨carries.ofReply, .refused carries (.inr rfl)⟩

end UpgradeDrill.JsonRpc
