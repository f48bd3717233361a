import UpgradeDrill.Proofs.Backoff

/-!
# The delays of a retry session

Whatever else happens to a session, it sleeps for the delays of its configuration in their order.
Doubling delays never decrease and keep to their cap from the second one on. The first one is not
capped, so it may be longer than all others (`delay_law`).
-/

namespace UpgradeDrill

namespace BackoffConfig

variable {config : BackoffConfig} {first : Nat}

/-- The delays of some waits after others. -/
def delays (config : BackoffConfig) (first waits : Nat) : List Nat :=
  (List.range' first waits).map config.delayAfter

lemma length_delays (waits : Nat) : (config.delays first waits).length = waits := by
  rw [delays, List.length_map, List.length_range']

/-- Delays that double never decrease and keep to a cap. Others are all the same. -/
structure Lawful (config : BackoffConfig) (delays : List Nat) : Prop where
  climbing : config.exponential = true → delays.Pairwise (· ≤ ·)
  capped : config.exponential = true → ∀ delay ∈ delays, delay ≤ Backoff.maxDelay
  constant : config.exponential = false → ∀ delay ∈ delays, delay = config.initialDelay

/-- All delays but the first are capped. -/
lemma delayAfter_succ_le (doubling : config.exponential = true) (waits : Nat) :
    config.delayAfter (waits + 1) ≤ Backoff.maxDelay := by
  rw [delayAfter, if_pos doubling]
  exact Nat.min_le_right ..

/-- A delay within the cap is no longer than the next one. -/
lemma delayAfter_le_succ (doubling : config.exponential = true) {waits : Nat}
    (capped : config.delayAfter waits ≤ Backoff.maxDelay) :
    config.delayAfter waits ≤ config.delayAfter (waits + 1) := by
  have doubled : config.delayAfter waits ≤ config.initialDelay * 2 ^ waits := by
    cases waits with
    | zero => exact Nat.le_of_eq (Nat.mul_one _).symm
    | succ waits =>
      rw [delayAfter, if_pos doubling]
      exact Nat.min_le_left ..
  have longer : config.initialDelay * 2 ^ waits ≤ config.initialDelay * 2 ^ (waits + 1) :=
    Nat.mul_le_mul_left _ (Nat.pow_le_pow_right Nat.two_pos (Nat.le_succ waits))
  rw [delayAfter, if_pos doubling]
  exact Nat.le_min.2 ⟨Nat.le_trans doubled longer, capped⟩

/-- From a delay within the cap on, the delays keep to it and never decrease. -/
lemma delayAfter_mono (doubling : config.exponential = true)
    (capped : config.delayAfter first ≤ Backoff.maxDelay) {later : Nat} (le : first ≤ later) :
    config.delayAfter first ≤ config.delayAfter later ∧
      config.delayAfter later ≤ Backoff.maxDelay := by
  induction le with
  | refl => exact ⟨Nat.le_refl _, capped⟩
  | step _ ih =>
    exact ⟨Nat.le_trans ih.1 (delayAfter_le_succ doubling ih.2), delayAfter_succ_le doubling _⟩

/-- Delays are lawful if the first of them is within the cap. -/
lemma lawful_delays
    (capped : config.exponential = true → config.delayAfter first ≤ Backoff.maxDelay)
    (waits : Nat) : config.Lawful (config.delays first waits) where
  climbing doubling := by
    refine List.pairwise_map.2 ((List.pairwise_lt_range' 1).imp_of_mem fun mem _ lt => ?_)
    have within := (delayAfter_mono doubling (capped doubling) (List.mem_range'_1.1 mem).1).2
    exact (delayAfter_mono doubling within (Nat.le_of_lt lt)).1
  capped doubling := by
    refine List.forall_mem_map.2 fun k mem => ?_
    exact (delayAfter_mono doubling (capped doubling) (List.mem_range'_1.1 mem).1).2
  constant same := List.forall_mem_map.2 fun k _ => delayAfter_constant same k

lemma lawful_iff (waits : Nat) : config.Lawful (config.delays 0 waits) ↔
    (config.exponential = true → config.delays 0 waits ≠ [] →
      config.initialDelay ≤ Backoff.maxDelay) := by
  cases waits with
  | zero =>
    have none : config.Lawful [] :=
      ⟨fun _ => .nil, fun _ => List.forall_mem_nil _, fun _ => List.forall_mem_nil _⟩
    exact iff_of_true none fun _ some => absurd rfl some
  | succ waits =>
    constructor
    · intro lawful doubling _
      exact lawful.capped doubling _ List.mem_cons_self
    · intro capped
      have first (doubling : config.exponential = true) :
          config.delayAfter 0 ≤ Backoff.maxDelay := capped doubling (List.cons_ne_nil _ _)
      exact lawful_delays first _

lemma climbing_iff (waits : Nat) : (config.delays 0 waits).Pairwise (· ≤ ·) ↔
    (config.exponential = true → 1 < waits → config.initialDelay ≤ Backoff.maxDelay) := by
  -- It takes two delays to see a decrease.
  match waits with
  | 0 => exact iff_of_true .nil fun _ several => absurd several (Nat.not_lt_zero 1)
  | 1 =>
    exact iff_of_true (List.pairwise_singleton _ _) fun _ several =>
      absurd several (Nat.lt_irrefl 1)
  | waits + 2 =>
    constructor
    · intro climbing doubling _
      have le : config.initialDelay ≤ config.delayAfter 1 :=
        List.rel_of_pairwise_cons climbing List.mem_cons_self
      exact Nat.le_trans le (delayAfter_succ_le doubling 0)
    · intro capped
      cases doubling : config.exponential with
      | true =>
        have first : config.delayAfter 0 ≤ Backoff.maxDelay := capped doubling (by omega)
        exact (lawful_delays (fun _ => first) _).climbing doubling
      | false =>
        refine List.pairwise_map.2 (List.pairwise_of_forall fun k k' => ?_)
        rw [delayAfter_constant doubling, delayAfter_constant doubling]

end BackoffConfig

namespace Backoff

variable {config : BackoffConfig} {now : Nat} {session current : Backoff} {events : List Event}

/-- The sleeps since a session was in some state are the delays that are due then. -/
lemma History.sleeps_eq (history : History session events current) (of : Of config now session) :
    sleeps events = config.delays session.waits (sleeps events).length := by
  induction history with
  | none => rfl
  | slept history granted ih =>
    rw [sleeps_slept, List.length_append, List.length_singleton, BackoffConfig.delays,
      List.range'_1_concat, List.map_append, ← BackoffConfig.delays, ← ih,
      (history.of of).delay, history.waits]
    rfl
  | refused _ _ ih => rwa [sleeps_refused]
  | passed span _ ih => rwa [sleeps_passed]

/-- How a session of a configuration sleeps. -/
structure Paced (config : BackoffConfig) (slept : List Nat) : Prop where
  delays : slept = config.delays 0 slept.length
  /-- After its first sleep a session obeys the law. -/
  later : config.Lawful slept.tail
  /-- The law is broken exactly by a first delay that would double and is longer than the cap. -/
  lawful_iff : config.Lawful slept ↔
    (config.exponential = true → slept ≠ [] → config.initialDelay ≤ maxDelay)
  /-- After such a delay, the next one is shorter. -/
  climbing_iff : slept.Pairwise (· ≤ ·) ↔
    (config.exponential = true → 1 < slept.length → config.initialDelay ≤ maxDelay)

lemma paced_delays (waits : Nat) : Paced config (config.delays 0 waits) where
  delays := by rw [BackoffConfig.length_delays]
  later := by
    have rest : (config.delays 0 waits).tail = config.delays 1 (waits - 1) := by
      cases waits <;> rfl
    rw [rest]
    exact BackoffConfig.lawful_delays (BackoffConfig.delayAfter_succ_le · 0) _
  lawful_iff := BackoffConfig.lawful_iff waits
  climbing_iff := by
    rw [BackoffConfig.length_delays]
    exact BackoffConfig.climbing_iff waits

/-- Delays that double never decrease and keep to their cap, and others are constant, as soon as the
first delay keeps to the cap. Nothing else restricts the configuration, when the session
starts or what happens to it. -/
theorem delay_law (started : start config now = .ok session)
    (history : History session events current) : Paced config (sleeps events) := by
  have slept := history.sleeps_eq (of_start started)
  rw [(start_ok started).1] at slept
  rw [slept]
  exact paced_delays _

/-- A session of ten seconds doubles a delay of two, and refuses a third wait after seven. -/
theorem delay_law_sample :
    ∃ session current events,
      start ⟨Duration.ofSecs 10, Duration.ofSecs 2, true⟩ 0 = .ok session ∧
      History session events current ∧
      events = [.slept (Duration.ofSecs 2), .passed (Duration.ofSecs 1),
        .slept (Duration.ofSecs 4), .refused (.timedOut 2)] ∧
      Paced ⟨Duration.ofSecs 10, Duration.ofSecs 2, true⟩ (sleeps events) := by
  have started : start ⟨Duration.ofSecs 10, Duration.ofSecs 2, true⟩ 0 =
    .ok ⟨0, Duration.ofSecs 10, Duration.ofSecs 2, true, 0, 0, by decide⟩ := rfl
  have first : wait ⟨0, Duration.ofSecs 10, Duration.ofSecs 2, true, 0, 0, by decide⟩ =
    .ok ⟨0, Duration.ofSecs 10, Duration.ofSecs 4, true, 1, Duration.ofSecs 2, by decide⟩ := rfl
  have second : wait ⟨0, Duration.ofSecs 10, Duration.ofSecs 4, true, 1, Duration.ofSecs 3,
      by decide⟩ =
    .ok ⟨0, Duration.ofSecs 10, Duration.ofSecs 5, true, 2, Duration.ofSecs 7, by decide⟩ := rfl
  have refused : wait ⟨0, Duration.ofSecs 10, Duration.ofSecs 5, true, 2, Duration.ofSecs 7,
      by decide⟩ = .error (.timedOut 2) := rfl
  have history := History.refused (.slept (.passed (Duration.ofSecs 1) (.slept .none first)) second)
    refused
  exact ⟨_, _, _, started, history, rfl, delay_law started history⟩

/-- A session that doubles its delays and begins with one of twenty seconds sleeps for five after
that. So the delays decrease, and the first one exceeds their cap. -/
theorem delays_fall_to_cap :
    ∃ session current events,
      start ⟨Duration.ofSecs 60, Duration.ofSecs 20, true⟩ 0 = .ok session ∧
      History session events current ∧
      sleeps events = [Duration.ofSecs 20, Duration.ofSecs 5] ∧
      ¬ (sleeps events).Pairwise (· ≤ ·) ∧ ¬ ∀ delay ∈ sleeps events, delay ≤ maxDelay := by
  have started : start ⟨Duration.ofSecs 60, Duration.ofSecs 20, true⟩ 0 =
    .ok ⟨0, Duration.ofSecs 60, Duration.ofSecs 20, true, 0, 0, by decide⟩ := rfl
  have first : wait ⟨0, Duration.ofSecs 60, Duration.ofSecs 20, true, 0, 0, by decide⟩ =
    .ok ⟨0, Duration.ofSecs 60, Duration.ofSecs 5, true, 1, Duration.ofSecs 20, by decide⟩ := rfl
  have second : wait ⟨0, Duration.ofSecs 60, Duration.ofSecs 5, true, 1, Duration.ofSecs 20,
      by decide⟩ =
    .ok ⟨0, Duration.ofSecs 60, Duration.ofSecs 5, true, 2, Duration.ofSecs 25, by decide⟩ := rfl
  exact ⟨_, _, _, started, .slept (.slept .none first) second, rfl, by decide, by decide⟩

end Backoff

end UpgradeDrill
