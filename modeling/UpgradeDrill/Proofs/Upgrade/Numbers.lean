import UpgradeDrill.Proofs.Node.Sequencer
import UpgradeDrill.Proofs.Upgrade.CatchUp
import UpgradeDrill.Proofs.Upgrade.Verdict

/-!
# Who fails for a number

A failure is numerical if a height is too large or the time for a query is no budget. Polls and
retried queries have such failures only if they are given too little time. So participants and
charts have none (`Sequencer.numerate`), and neither has the check of reported changes.
-/

namespace UpgradeDrill

open Attempt

/-- A height is too large, or the time for a query is no budget. -/
def UpgradeError.Numerical : UpgradeError → Prop
  | query (.backoff _) | heightOverflow .. => True
  | _ => False

namespace Query

variable {I : Interface} {α : Type} {participant operation : String} {timeout : Nat}
  {query : Attempt I QueryError α}

/-- A failure that does not blame the budget. -/
def Budgeted (error : QueryError) : Prop := ∀ cause, error ≠ .backoff cause

lemma fails_pollFrom (text : α → String) (awaited : α → Bool) (attempts : Nat) (last : Option α)
    (session : Backoff) :
    (pollFrom participant operation timeout text query awaited attempts last session).Fails
      Budgeted := by
  induction session using Backoff.wait_induction generalizing attempts last with
  | again session ih =>
    rw [pollFrom_eq]
    refine fails_timed.bind fun timed => ?_
    obtain ⟨outcome, took⟩ := timed
    dsimp only
    cases outcome.toOption.filter awaited with
    | some value => exact fails_pure
    | none =>
      dsimp only
      cases granted : (session.pass took).wait with
      | ok next => exact fails_sleep.bind fun _ => ih took next granted _ _
      | error _ => exact fails_throw nofun

/-- A poll whose time exceeds the pause between queries does not fail for its budget. -/
lemma fails_pollUntil (text : α → String) (awaited : α → Bool) (room : pollInterval < timeout) :
    (pollUntil participant operation timeout text query awaited).Fails Budgeted := by
  rw [pollUntil_eq]
  refine fails_readClock.bind fun now => ?_
  have starts : ∃ session, Backoff.start (.fixed timeout pollInterval) now = .ok session :=
    Backoff.exists_start (show 0 < pollInterval by decide) room now
  obtain ⟨session, started⟩ := starts
  rw [started]
  exact fails_pollFrom text awaited 0 none session

/-- Nor does a query that is retried for longer than the first delay. -/
lemma fails_retry (room : BackoffConfig.defaultInitialDelay < timeout) :
    (retry participant operation timeout query).Fails Budgeted := by
  intro now es error finish path
  obtain ⟨session, doubling, way⟩ := Retried.of_retry room path
  obtain ⟨_, _, rfl, _⟩ := way.error doubling
  exact nofun

/-- A reading that fails as a single attempt does has no budget. -/
lemma FailsOnce.fails {reading : Except QueryError α} (once : FailsOnce reading) :
    (Attempt.ofExcept reading : Attempt I QueryError α).Fails Budgeted := by
  refine fails_ofExcept fun error eq cause => ?_
  rintro rfl
  cases once _ eq

end Query

/-- No party fails for a number. The single query for a height, which is polled, does not count. -/
structure Parties.Numerate {I : Interface} (parties : Parties I) : Prop where
  queries : ∀ role query, query ≠ .tryLastBlockHeight →
    (NodeQuery.of (parties.nodeOf role) query).Fails Query.Budgeted
  orders : ∀ told, (Order.of parties.deployer told).Fails fun error => ¬ error.Numerical

namespace Sequencer

variable (participant : Participant)

lemma fails_rpc {α : Type} {method : String} {params : Json} {read : Json → Except QueryError α}
    (once : ∀ result, Query.FailsOnce (read result)) :
    Fails Query.Budgeted (do
      let result ← rpc participant method params rpcTimeout
      Attempt.ofExcept (read result)) :=
  (Query.fails_retry (show _ < rpcTimeout by decide)).bind fun result => (once result).fails

lemma fails_grpc {M N : Type} [Wire.Message M] [Wire.Message N] (operation path : String)
    (message : M) :
    (grpc participant operation path message : Attempt network QueryError N).Fails Query.Budgeted :=
  Query.fails_retry (show _ < grpcTimeout by decide)

/-- All times that are allowed for the queries of a participant are budgets. -/
lemma fails_of_ne {query : NodeQuery} (retried : query ≠ .tryLastBlockHeight) :
    (query.of (node participant)).Fails Query.Budgeted := by
  cases query with
  | tryLastBlockHeight => exact absurd rfl retried
  | lastBlockHeight => exact fails_rpc participant (Json.failsOnce_uint64Field _)
  | currentAppVersion => exact fails_rpc participant (Json.failsOnce_uint64Field _)
  | genesisAppVersion => exact fails_rpc participant (Json.failsOnce_uint64Field _)
  | voteExtensionsEnableHeight =>
    exact (fails_rpc participant (Json.failsOnce_uint64Field _)).bind fun _ =>
      fails_rpc participant (Json.failsOnce_uint64Field _)
  | block _ => exact fails_grpc ..
  | upgradesInfo => exact fails_grpc ..

end Sequencer

/-- A program that fails does not fail for a number. -/
lemma Helm.fails_execute (root program : String) (arguments : List String) :
    (execute root program arguments).Fails fun error => ¬ error.Numerical := by
  refine fails_request.bind fun reply => ?_
  cases reply with
  | error cause => exact fails_throw id
  | ok output =>
    dsimp only
    split
    · exact fails_pure
    · exact fails_throw id

/-- Participants and charts do not fail for a number. -/
lemma Sequencer.numerate (upgraded reference : Participant) (root : String) :
    (⟨node upgraded, node reference, Helm.deployer root⟩ : Parties network).Numerate where
  queries role _ retried := by
    cases role with
    | upgraded => exact fails_of_ne upgraded retried
    | reference => exact fails_of_ne reference retried
  orders told := by
    cases told <;> exact Helm.fails_execute ..

lemma Registry.Verdict.not_numerical {registry : Registry} {version : Option Nat}
    {infos : List ChangeInfo} {outcome : Except UpgradeError Unit} {error : UpgradeError}
    (verdict : registry.Verdict version infos outcome) (refused : outcome = .error error) :
    ¬ error.Numerical := by
  cases verdict with
  | accepted _ _ => cases refused
  | _ =>
    cases refused
    exact id

/-- What a node reports is not refused for a number. -/
lemma Registry.not_numerical_of_checkInfo {registry : Registry} {node : String}
    {info : UpgradesInfo} {error : UpgradeError}
    (refused : registry.checkInfo node info = .error error) : ¬ error.Numerical := by
  unfold checkInfo at refused
  split at refused
  · exact (checkChanges_eq_iff.1 refused).not_numerical rfl
  · cases refused
    exact id

end UpgradeDrill
