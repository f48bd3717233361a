import UpgradeDrill.Drill.SequencerCli
import UpgradeDrill.Proofs.Query.Calls

/-!
# The loops of the command-line client

The command-line client has a retry loop and a poll of its own. Both make the calls that the loops
for queries make of the same attempts, at the same instants, and give what those give, each with
its own errors (`loops_in_step`).
-/

namespace UpgradeDrill

open Attempt

section Ends

variable (line account : String) (expected timeout : Nat)

/-- What a command that is retried gives after its calls. -/
def SequencerCli.execEnd (calls : List (Call DrillError String)) :
    Except BackoffError (Except DrillError String) → Except DrillError String
  | .error reason => .error (.backoff reason)
  | .ok outcome => outcome.mapError (.cliRetriesExhausted line calls.length)

/-- What a poll of a balance gives when its last call ended with an outcome, and the last balance
was the one given. -/
def SequencerCli.waitGives (last : Option Nat) (outcome : Except DrillError Nat) :
    Except DrillError Nat :=
  if outcome.toOption = some expected then .ok expected
  else .error (.balanceUnsatisfied account expected timeout last)

/-- What a poll of a balance gives after its calls. -/
def SequencerCli.waitEnd (calls : List (Call DrillError Nat)) :
    Except BackoffError (Except DrillError Nat) → Except DrillError Nat
  | .error reason => .error (.backoff reason)
  | .ok outcome => waitGives account expected timeout (lastValue calls none) outcome

end Ends

section Loops

variable {σ : Type} {world : World network σ} {session : Backoff} {now finish : Nat}
  {state final : σ} {es : List (Exchange network)} (cli : SequencerCli)
  (participant : Participant)

lemma Calls.execFrom (args : List String) {calls : List (Call DrillError String)}
    {outcome : Except DrillError String}
    (made : Calls world (cli.tryExec participant args) (·.isOk) session now state calls es outcome
      finish final) :
    (cli.execFrom participant args session).Plays world now state es
      (outcome.mapError (.cliRetriesExhausted (cli.command participant args).line
        (session.waits + calls.length))) finish final := by
  induction made with
  | @met _ _ _ es outcome _ _ plays met =>
    rw [SequencerCli.execFrom, ← List.append_nil es]
    refine plays.timed_bind ?_
    cases outcome with
    | error error => cases met
    | ok stdout => exact plays_pure stdout
  | @refused _ _ _ es outcome _ _ _ plays unmet refused =>
    rw [SequencerCli.execFrom, ← List.append_nil es]
    refine plays.timed_bind ?_
    cases outcome with
    | ok stdout => cases unmet
    | error error =>
      dsimp only [Except.mapError]
      split
      · rename_i granted
        cases refused.symm.trans granted
      · exact plays_throw _
  | @again session next _ _ _ outcome _ _ calls _ _ _ _ plays unmet granted _ ih =>
    have count : session.waits + (calls.length + 1) = next.waits + calls.length := by
      rw [(Backoff.wait_ok granted).1, Nat.add_right_comm]
      rfl
    rw [SequencerCli.execFrom, List.length_cons, count]
    refine plays.timed_bind ?_
    cases outcome with
    | ok stdout => cases unmet
    | error error =>
      dsimp only
      split
      · rename_i next' granted'
        cases granted.symm.trans granted'
        exact .sleep_bind ih
      · rename_i refused
        cases granted.symm.trans refused

/-- A command that is retried makes the calls that doubling delays pace. -/
theorem Paced.exec (args : List String) {calls : List (Call DrillError String)}
    {ending : Except BackoffError (Except DrillError String)}
    (paced : Paced world (cli.tryExec participant args) (·.isOk) (.doubling cli.retryTimeout) now
      state calls es ending finish final) :
    (cli.exec participant args).Plays world now state es
      (SequencerCli.execEnd (cli.command participant args).line calls ending) finish final := by
  refine .readClock_bind ?_
  cases paced with
  | refused refused =>
    rw [refused]
    exact plays_throw _
  | begun started made =>
    rw [started]
    have plays := made.execFrom cli participant args
    rw [(Backoff.start_ok started).1, Nat.zero_add] at plays
    exact plays

variable (account : String) (expected timeout : Nat)

/-- A balance is awaited as a poll awaits its value. -/
lemma isSome_filter_beq {ε : Type} (outcome : Except ε Nat) :
    (outcome.toOption.filter (· == expected)).isSome = true ↔
      outcome.toOption = some expected := by
  cases outcome with
  | error error => exact ⟨nofun, nofun⟩
  | ok value => simp [Except.toOption, Option.filter]

lemma Calls.waitFrom (last : Option Nat) {calls : List (Call DrillError Nat)}
    {outcome : Except DrillError Nat}
    (made : Calls world (cli.balance participant account)
      (fun outcome => (outcome.toOption.filter (· == expected)).isSome) session now state calls es
      outcome finish final) :
    (cli.waitFrom participant account expected timeout last session).Plays world now state es
      (SequencerCli.waitGives account expected timeout (lastValue calls last) outcome) finish
      final := by
  induction made generalizing last with
  | @met _ _ _ es outcome _ _ plays met =>
    rw [SequencerCli.waitFrom, ← List.append_nil es]
    refine plays.timed_bind ?_
    have found := (isSome_filter_beq expected outcome).1 met
    rw [SequencerCli.waitGives, if_pos found]
    dsimp only
    rw [if_pos found]
    exact plays_pure _
  | @refused _ _ _ es outcome _ _ _ plays unmet refused =>
    rw [SequencerCli.waitFrom, ← List.append_nil es]
    refine plays.timed_bind ?_
    have missed := mt (isSome_filter_beq expected outcome).2 (Bool.eq_false_iff.1 unmet)
    rw [SequencerCli.waitGives, if_neg missed]
    dsimp only
    rw [if_neg missed]
    split
    · rename_i granted
      cases refused.symm.trans granted
    · exact plays_throw _
  | @again _ _ _ _ _ outcome _ _ _ _ _ _ _ plays unmet granted _ ih =>
    rw [SequencerCli.waitFrom]
    refine plays.timed_bind ?_
    have missed := mt (isSome_filter_beq expected outcome).2 (Bool.eq_false_iff.1 unmet)
    dsimp only
    rw [if_neg missed]
    split
    · rename_i next' granted'
      cases granted.symm.trans granted'
      exact .sleep_bind (ih _)
    · rename_i refused
      cases granted.symm.trans refused

/-- A poll of a balance makes the calls that a fixed delay paces. -/
theorem Paced.waitUntilBalance {calls : List (Call DrillError Nat)}
    {ending : Except BackoffError (Except DrillError Nat)}
    (paced : Paced world (cli.balance participant account)
      (fun outcome => (outcome.toOption.filter (· == expected)).isSome)
      (.fixed timeout Query.pollInterval) now state calls es ending finish final) :
    (cli.waitUntilBalance participant account expected timeout).Plays world now state es
      (SequencerCli.waitEnd account expected timeout calls ending) finish final := by
  refine .readClock_bind ?_
  cases paced with
  | refused refused =>
    rw [refused]
    exact plays_throw _
  | begun started made =>
    rw [started]
    exact made.waitFrom cli participant account expected timeout none

/-- The loops of the command-line client keep step with those for queries. A retried command makes
the calls of a retried query of the same command, with the same exchanges, and ends with it: with
the same value, with the same number of calls and the same last failure, or because the same session
cannot start. A poll of a balance makes the calls of a polled query of the balance, and ends with
it: with the same value, with the same last balance, or because the same session cannot start. -/
theorem SequencerCli.loops_in_step {σ : Type} (cli : SequencerCli) (participant : Participant)
    (args : List String) (account : String) (expected timeout : Nat) (name operation : String)
    (widen : DrillError → QueryError) (world : World network σ) (now : Nat) (state : σ) :
    (∃ calls es ending finish final,
      Paced world (cli.tryExec participant args) (·.isOk) (.doubling cli.retryTimeout) now state
        calls es ending finish final ∧
      (cli.exec participant args).Plays world now state es
        (execEnd (cli.command participant args).line calls ending) finish final ∧
      (Query.retry name operation cli.retryTimeout
        ((cli.tryExec participant args).widen widen)).Plays world now state es
        (Query.retryEnd name operation widen calls ending) finish final) ∧
    (∃ calls es ending finish final remaining,
      Paced world (cli.balance participant account)
        (fun outcome => (outcome.toOption.filter (· == expected)).isSome)
        (.fixed timeout Query.pollInterval) now state calls es ending finish final ∧
      (cli.waitUntilBalance participant account expected timeout).Plays world now state es
        (waitEnd account expected timeout calls ending) finish final ∧
      (Query.pollUntil name operation timeout toString
        ((cli.balance participant account).widen widen) (· == expected)).Plays world now state es
        (Query.pollEnd name operation timeout toString (· == expected) (finish - now) remaining
          calls ending) finish final) := by
  constructor
  · obtain ⟨calls, es, ending, finish, final, paced⟩ :=
      exists_paced world (cli.tryExec participant args) (·.isOk) (.doubling cli.retryTimeout) now
        state
    refine ⟨calls, es, ending, finish, final, paced, ?_, ?_⟩
    · exact paced.exec cli participant args
    · exact paced.retry name operation widen
  · obtain ⟨calls, es, ending, finish, final, paced⟩ :=
      exists_paced world (cli.balance participant account)
        (fun outcome => (outcome.toOption.filter (· == expected)).isSome)
        (.fixed timeout Query.pollInterval) now state
    obtain ⟨remaining, polls⟩ := paced.pollUntil name operation widen timeout toString _
    refine ⟨calls, es, ending, finish, final, remaining, paced, ?_, polls⟩
    exact paced.waitUntilBalance cli participant account expected timeout

end Loops

end UpgradeDrill
