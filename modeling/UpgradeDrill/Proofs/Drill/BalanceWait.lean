import UpgradeDrill.Proofs.Backoff.Delays
import UpgradeDrill.Proofs.Drill.Loops
import UpgradeDrill.Proofs.Query.Exact

/-!
# How long a balance is awaited

The poll of a balance and the retried command that reads it have a budget each. A reading begins by
the deadline of the poll, but its retries know nothing of that deadline: the wait is over when those
of the last reading are, up to a whole retry budget late (`balance_wait_time`).
-/

namespace UpgradeDrill

open Attempt Backoff

variable {σ : Type}

/-- Commands take no time. -/
def World.Prompt (world : World network σ) : Prop :=
  ∀ state now command, (world.answer state now (.execute command)).2.1 = 0

/-- The last value of the calls before one. -/
lemma Series.lastValue_map_call {I : Interface} {ε α : Type} (calls : Series I ε α σ) (k : Nat) :
    lastValue ((List.range k).map calls.call) none = (calls.values k).getLast? := by
  induction k with
  | zero => rfl
  | succ k ih =>
    rw [calls.getLast?_values_succ, ← ih, List.range_succ, List.map_append, lastValue,
      List.foldl_append]
    rfl

namespace SequencerCli

section Series

variable (cli : SequencerCli) (participant : Participant)

/-- The runs of a command, without an end: the pauses double up to five seconds. -/
def runs (args : List String) (world : World network σ) (now : Nat) (state : σ) :
    Series network DrillError String σ :=
  ⟨world, cli.tryExec participant args, BackoffConfig.delayAfter (.doubling cli.retryTimeout), now,
    state⟩

/-- The readings of a balance, without an end: a pause of a second each. -/
def readings (account : String) (world : World network σ) (now : Nat) (state : σ) :
    Series network DrillError Nat σ :=
  ⟨world, cli.balance participant account, fun _ => Query.pollInterval, now, state⟩

end Series

section Runs

variable {cli : SequencerCli} {participant : Participant} {args : List String} {account : String}
  {world : World network σ} {now retries : Nat} {state : σ}

lemma tryExec_finish (prompt : world.Prompt) {es : List (Exchange network)}
    {outcome : Except DrillError String} {finish : Nat} {last : σ}
    (plays : (cli.tryExec participant args).Plays world now state es outcome finish last) :
    finish = now := by
  have run : (cli.tryExec participant args).Plays world now state _ _ _ _ :=
    Plays.bind ⟨rfl, ends_request rfl⟩ ⟨rfl, ends_ofExcept _⟩
  rw [(plays.unique run).2, prompt]
  rfl

/-- Between runs that take no time, only the pauses pass. -/
lemma runs_start (prompt : world.Prompt) (k : Nat) :
    ((cli.runs participant args world now state).call k).start =
      now + ((BackoffConfig.doubling cli.retryTimeout).delays 0 k).sum := by
  induction k with
  | zero => rfl
  | succ k ih =>
    have took := tryExec_finish prompt ((cli.runs participant args world now state).plays k)
    rw [Series.start_succ, took, ih, BackoffConfig.delays, BackoffConfig.delays,
      List.range'_1_concat, List.map_append, List.sum_append, Nat.add_assoc, Nat.zero_add]
    rfl

lemma runs_finish (prompt : world.Prompt) (k : Nat) :
    ((cli.runs participant args world now state).call k).finish =
      now + ((BackoffConfig.doubling cli.retryTimeout).delays 0 k).sum :=
  (tryExec_finish prompt ((cli.runs participant args world now state).plays k)).trans
    (runs_start prompt k)

/-- The last run of a command that is retried. -/
def LastRun (cli : SequencerCli) (participant : Participant) (args : List String)
    (world : World network σ) (now : Nat) (state : σ) (retries : Nat) : Prop :=
  let runs := cli.runs participant args world now state
  runs.LastCall (now + budget now cli.retryTimeout) (fun k => (runs.call k).outcome.isOk = true)
    retries

lemma exists_lastRun (cli : SequencerCli) (participant : Participant) (args : List String)
    (world : World network σ) (now : Nat) (state : σ) :
    ∃ retries, LastRun cli participant args world now state retries :=
  Series.exists_lastCall _ _ (BackoffConfig.delayAfter_doubling_pos _) (Nat.le_add_right ..)

/-- A retried command ends with its last run. -/
lemma LastRun.makes_exec (room : BackoffConfig.defaultInitialDelay < cli.retryTimeout)
    (last : LastRun cli participant args world now state retries) :
    (cli.runs participant args world now state).Makes (cli.exec participant args) retries
      (((cli.runs participant args world now state).call retries).outcome.mapError
        (.cliRetriesExhausted (cli.command participant args).line (retries + 1))) := by
  obtain ⟨session, started⟩ := start_doubling room now
  have ended : (cli.runs participant args world now state).LastCall
      (now + budget now (BackoffConfig.doubling cli.retryTimeout).timeout)
      (fun k => ((cli.runs participant args world now state).call k).outcome.isOk = true) retries :=
    last
  have plays := (ended.calls rfl started).exec cli participant args
  rwa [execEnd, List.length_map, List.length_range] at plays

/-- The balance in what a command printed. -/
def readBalance (line stdout : String) : Except DrillError Nat :=
  match parseBalance stdout with
  | some balance => .ok balance
  | none => .error (.unexpectedOutput line stdout)

/-- What a reading of a balance gives when its last run ended with an outcome. -/
def readEnd (line : String) (retries : Nat) (outcome : Except DrillError String) :
    Except DrillError Nat :=
  (outcome.mapError (.cliRetriesExhausted line (retries + 1))).bind (readBalance line)

/-- A reading of a balance ends with the last run of its command. -/
lemma LastRun.makes_balance (room : BackoffConfig.defaultInitialDelay < cli.retryTimeout)
    (last : LastRun cli participant (balanceArgs account) world now state retries) :
    (cli.runs participant (balanceArgs account) world now state).Makes
      (cli.balance participant account) retries
      (readEnd (cli.command participant (balanceArgs account)).line retries
        ((cli.runs participant (balanceArgs account) world now state).call retries).outcome) := by
  have makes := last.makes_exec room
  unfold balance readEnd
  cases outcome : ((cli.runs participant (balanceArgs account) world now state).call
    retries).outcome with
  | error error =>
    rw [outcome] at makes
    exact Plays.bind_error makes _
  | ok stdout =>
    rw [outcome] at makes
    -- Reading the output takes no exchange.
    unfold Series.Makes
    rw [← List.append_nil (Series.exchanges _ _)]
    refine Plays.bind makes ?_
    change Plays _ _ _ _ _ (readBalance _ stdout) _ _
    unfold readBalance
    cases parseBalance stdout with
    | some balance => exact plays_pure balance
    | none => exact plays_throw _

end Runs

section Readings

variable {cli : SequencerCli} {participant : Participant} {account : String}

/-- A reading of a balance with some retries: it makes the runs of its command up to the first that
succeeds, or the last that begins within the retry budget, and takes the time of the pauses between
them. -/
structure Reads (cli : SequencerCli) (participant : Participant) (account : String)
    (readings : Series network DrillError Nat σ) (k retries : Nat) : Prop where
  last : LastRun cli participant (balanceArgs account) readings.world (readings.call k).start
    (readings.stateAt k) retries
  exchanges : readings.exchangesAt k =
    (cli.runs participant (balanceArgs account) readings.world (readings.call k).start
      (readings.stateAt k)).exchanges (retries + 1)
  outcome : (readings.call k).outcome =
    readEnd (cli.command participant (balanceArgs account)).line retries
      ((cli.runs participant (balanceArgs account) readings.world (readings.call k).start
        (readings.stateAt k)).call retries).outcome
  finish : (readings.call k).finish = (readings.call k).start +
    ((BackoffConfig.doubling cli.retryTimeout).delays 0 retries).sum

variable {readings : Series network DrillError Nat σ}

lemma exists_reads (same : readings.attempt = cli.balance participant account)
    (prompt : readings.world.Prompt) (room : BackoffConfig.defaultInitialDelay < cli.retryTimeout)
    (k : Nat) : ∃ retries, Reads cli participant account readings k retries := by
  obtain ⟨retries, last⟩ := exists_lastRun cli participant (balanceArgs account) readings.world
    (readings.call k).start (readings.stateAt k)
  have makes := last.makes_balance room
  rw [← same] at makes
  obtain ⟨outcome, finish⟩ := (readings.plays k).unique makes
  exact ⟨retries, last, makes.exchanges, outcome, finish.trans (runs_finish prompt retries)⟩

/-- The retries of a reading are within their own budget. -/
lemma Reads.finish_le {k retries : Nat} (prompt : readings.world.Prompt)
    (reads : Reads cli participant account readings k retries) :
    (readings.call k).finish ≤
      (readings.call k).start + budget (readings.call k).start cli.retryTimeout := by
  have begun := reads.last.begun retries (Nat.le_refl _)
  rwa [runs_start prompt, ← reads.finish] at begun

end Readings

section Wait

variable {cli : SequencerCli} {participant : Participant} {account : String}
  {world : World network σ} {now timeout n : Nat} {state : σ}

/-- The wait for a balance ends with the last reading. -/
lemma makes_waitUntilBalance (expected : Nat) (room : Query.pollInterval < timeout)
    (last : (cli.readings participant account world now state).LastCall (now + budget now timeout)
      (fun k => ((cli.readings participant account world now state).call k).outcome.toOption =
        some expected) n) :
    (cli.readings participant account world now state).Makes
      (cli.waitUntilBalance participant account expected timeout) n
      (waitGives account expected timeout
        ((cli.readings participant account world now state).values (n + 1)).getLast?
        ((cli.readings participant account world now state).call n).outcome) := by
  have paced : (cli.readings participant account world now state).pause =
      BackoffConfig.delayAfter (.fixed timeout Query.pollInterval) :=
    funext fun k => (BackoffConfig.delayAfter_fixed timeout _ k).symm
  obtain ⟨session, started⟩ :
      ∃ session, start (.fixed timeout Query.pollInterval) now = .ok session :=
    exists_start (show 0 < Query.pollInterval by decide) room now
  simp only [← isSome_filter_beq] at last
  have plays := (last.calls paced started).waitUntilBalance cli participant account expected timeout
  rwa [waitEnd, Series.lastValue_map_call] at plays

/-- The time of a wait for a balance, when commands take none. The wait ends with the first reading
of the awaited balance, or else the last reading that begins by its deadline, and not before the
retries of that reading do: so past the deadline by up to the retry budget, if it retried. -/
theorem balance_wait_time (cli : SequencerCli) (participant : Participant) (account : String)
    (expected timeout : Nat) {σ : Type} (world : World network σ) (now : Nat) (state : σ)
    (prompt : world.Prompt) (retry : BackoffConfig.defaultInitialDelay < cli.retryTimeout)
    (room : Query.pollInterval < timeout) :
    let readings := cli.readings participant account world now state
    ∃ (n : Nat) (retries : Nat → Nat),
      readings.LastCall (now + budget now timeout)
        (fun k => (readings.call k).outcome.toOption = some expected) n ∧
      (∀ k, Reads cli participant account readings k (retries k)) ∧
      readings.Makes (cli.waitUntilBalance participant account expected timeout) n
        (waitGives account expected timeout (readings.values (n + 1)).getLast?
          (readings.call n).outcome) ∧
      (readings.call n).finish ≤ now + timeout + cli.retryTimeout ∧
      (now + timeout < (readings.call n).finish → 0 < retries n) := by
  intro readings
  have pauses (k : Nat) : 0 < readings.pause k := show 0 < Query.pollInterval by decide
  obtain ⟨n, last⟩ := readings.exists_lastCall
    (fun k => (readings.call k).outcome.toOption = some expected) pauses
    (Nat.le_add_right now (budget now timeout))
  have same : readings.attempt = cli.balance participant account := rfl
  choose retries reads using exists_reads same prompt retry
  -- Only the beginning of the last reading is held to the deadline of the wait.
  have begun := last.begun n (Nat.le_refl n)
  have within := budget_le now timeout
  refine ⟨n, retries, last, reads, makes_waitUntilBalance expected room last, ?_, fun late => ?_⟩
  · have finish : (readings.call n).finish ≤
        (readings.call n).start + budget (readings.call n).start cli.retryTimeout :=
      (reads n).finish_le prompt
    have within' := budget_le (readings.call n).start cli.retryTimeout
    omega
  · refine Nat.pos_of_ne_zero fun none => ?_
    have finish : (readings.call n).finish = _ := (reads n).finish
    rw [none] at finish
    change (readings.call n).finish = (readings.call n).start at finish
    omega

end Wait

section Sample

/-- The client, run as it is. -/
def plain : SequencerCli := ofProgram "astria-cli" []

/-- Every command fails at once. -/
def failing : World network Unit where
  answer _ _
    | .post _ _ => (.failed "connection refused", 0, ())
    | .call _ _ _ => (.notConnected, 0, ())
    | .execute _ => (.ok ⟨.exited 1, [], []⟩, 0, ())

lemma failing_prompt : failing.Prompt := fun _ _ _ => rfl

lemma failing_lastRun (participant : Participant) (args : List String) :
    LastRun plain participant args failing 0 () 6 where
  unmet k _ := nofun
  begun k le := by
    rw [runs_start failing_prompt]
    have fits : ∀ k ≤ 6, ((BackoffConfig.doubling defaultRetryTimeout).delays 0 k).sum ≤
        budget 0 defaultRetryTimeout := by decide
    exact Nat.add_le_add_left (fits k le) 0
  ended := by
    rw [runs_start failing_prompt]
    exact .inr (by decide)

/-- The readings of a balance while every command fails. -/
def failedReadings : Series network DrillError Nat Unit :=
  plain.readings (.validator "node1") "a" failing 0 ()

lemma failedReadings_reads : Reads plain (.validator "node1") "a" failedReadings 0 6 := by
  have same : failedReadings.attempt = plain.balance (.validator "node1") "a" := rfl
  obtain ⟨retries, reads⟩ := exists_reads same failing_prompt (by decide) 0
  obtain rfl : retries = 6 := (failing_lastRun _ _).unique reads.last
  exact reads

lemma failedReadings_finish : (failedReadings.call 0).finish = Duration.ofMillis 6300 :=
  failedReadings_reads.finish.trans (by decide)

lemma failedReadings_last :
    failedReadings.LastCall (0 + budget 0 (Duration.ofSecs 2))
      (fun k => (failedReadings.call k).outcome.toOption = some 5) 0 where
  unmet _ := nofun
  begun k le := by
    rw [Nat.le_zero.1 le]
    exact Nat.zero_le _
  ended := by
    rw [Series.start_succ, failedReadings_finish]
    exact .inr (by decide)

/-- The first reading fails after six retries, and ends the wait of two seconds. -/
theorem balance_wait_time_sample :
    failing.Prompt ∧ ∃ retries : Nat → Nat, retries 0 = 6 ∧
      failedReadings.LastCall (0 + budget 0 (Duration.ofSecs 2))
        (fun k => (failedReadings.call k).outcome.toOption = some 5) 0 ∧
      (∀ k, Reads plain (.validator "node1") "a" failedReadings k (retries k)) ∧
      failedReadings.Makes
        (plain.waitUntilBalance (.validator "node1") "a" 5 (Duration.ofSecs 2)) 0
        (waitGives "a" 5 (Duration.ofSecs 2) (failedReadings.values 1).getLast?
          (failedReadings.call 0).outcome) ∧
      (failedReadings.call 0).finish ≤ 0 + Duration.ofSecs 2 + defaultRetryTimeout ∧
      (0 + Duration.ofSecs 2 < (failedReadings.call 0).finish → 0 < retries 0) := by
  obtain ⟨n, retries, last, reads, rest⟩ :=
    balance_wait_time plain (.validator "node1") "a" 5 (Duration.ofSecs 2) failing 0 ()
      failing_prompt (by decide) (by decide)
  obtain rfl : n = 0 := failedReadings_last.unique last
  have six : retries 0 = 6 := (failing_lastRun _ _).unique (reads 0).last
  exact ⟨failing_prompt, retries, six, last, reads, rest⟩

/-- A wait of two seconds for a balance is over after more than six, though commands take no
time. -/
theorem wait_past_timeout :
    failing.Prompt ∧
      (plain.waitUntilBalance (.validator "node1") "a" 5 (Duration.ofSecs 2)).Ends failing 0 ()
        (.error (.balanceUnsatisfied "a" 5 (Duration.ofSecs 2) none)) (Duration.ofMillis 6300)
        () ∧
      Duration.ofSecs 2 < Duration.ofMillis 6300 := by
  have failed : (failedReadings.call 0).outcome.toOption = none := by
    rw [failedReadings_reads.outcome]
    rfl
  have given : waitGives "a" 5 (Duration.ofSecs 2) (failedReadings.values 1).getLast?
      (failedReadings.call 0).outcome =
        .error (.balanceUnsatisfied "a" 5 (Duration.ofSecs 2) none) := by
    rw [waitGives, Series.getLast?_values_succ, failed]
    rfl
  have makes : failedReadings.Makes _ 0 _ :=
    makes_waitUntilBalance 5 (by decide) failedReadings_last
  have ends := makes.ends
  rw [failedReadings_finish] at ends
  exact ⟨failing_prompt, given ▸ ends, by decide⟩

end Sample

end SequencerCli

end UpgradeDrill
