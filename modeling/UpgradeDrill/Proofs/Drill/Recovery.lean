import UpgradeDrill.Proofs.Drill.Staging

/-!
# The recovery of the withheld validator

The last phases that deploy: the withheld validator is found stalled, upgraded, and catches up, and
then the joining validator is installed. From the stalled node's report on, nothing else happens
before it is upgraded.
-/

namespace UpgradeDrill

open Attempt

section Recovery

variable {config : Config} (lineup : Lineup config) (height : Nat)

namespace Lineup

/-- The withheld validator was asked for its height at last, and told none from which on the upgrade
is in effect. -/
def Detected : State network := fun history now => ∃ earlier d, history = earlier ++ [d] ∧
  lineup.StagedAll height earlier d.time ∧ lineup.withheld.participant.AskedForHeight d ∧
  (∀ reached, lineup.withheld.participant.ReportsHeight reached d → reached < height) ∧
  d.arrival = now

/-- The withheld validator has caught up. -/
def Resumed : State network := fun history now =>
  lineup.Recovered height history now ∧ lineup.Upgrading height lineup.initial history now

/-- Every validator was deployed as it is after the upgrade. -/
def Joined : State network := fun history now =>
  (lineup.Running history now ∧
      ∀ validator ∈ lineup.initial, Done (config.newUpgrade height validator) history now) ∧
    Done (config.newInstall height lineup.joining) history now

lemma Joined.lasting : State.Lasting (lineup.Joined height) := by
  intro history now later es le joined
  exact ⟨⟨Running.lasting lineup es le joined.1.1,
    fun v mem => Done.lasting _ es le (joined.1.2 v mem)⟩, Done.lasting _ es le joined.2⟩

variable {lineup height} {history : List (Exchange network)} {now : Nat}

/-- Once its height is captured, the withheld validator has stalled. -/
lemma stalled_of_captured
    (captured : Captured lineup.withheld.participant (lineup.Detected height) history now) :
    lineup.Stalled height history now := by
  obtain ⟨_, c, rfl, ⟨earlier, d, rfl, staged, asked, below, arrival⟩, again, ended⟩ := captured
  refine ⟨earlier, d, c, [], List.append_assoc .., staged.2, asked, ?_, below, again, nofun⟩
  rw [arrival, ← ended]
  exact c.time_le_arrival

lemma stalled_of_upgraded
    (upgraded : Upgraded config lineup.withheld.component (config.newRelease height lineup.withheld)
      lineup.withheld.participant (lineup.Detected height) history now) :
    lineup.Stalled height history now := by
  obtain ⟨_, u, rfl, captured, succeeds, ended⟩ := upgraded
  obtain ⟨earlier, d, c, rest, rfl, staged, asked, arrival, below, again, upgrades⟩ :=
    stalled_of_captured captured
  refine ⟨earlier, d, c, rest ++ [u], ?_, staged, asked, ?_, below, again, ?_⟩
  · rw [List.append_assoc, List.cons_append, List.cons_append]
  · refine Nat.le_trans arrival ?_
    rw [← ended]
    exact u.time_le_arrival
  · refine List.forall_mem_append.2 ⟨upgrades, fun e mem => ?_⟩
    rw [List.mem_singleton.1 mem]
    exact succeeds.runs

/-- The withheld validator may be upgraded once its height is captured. -/
lemma allowed_of_captured {e : Exchange network}
    (captured : Captured lineup.withheld.participant (lineup.Detected height) history e.time)
    (runs : e.Runs (config.newUpgrade height lineup.withheld)) :
    lineup.Allowed height history e := by
  have stalled := stalled_of_captured captured
  obtain ⟨_, c, rfl, ⟨earlier, d, rfl, staged, asked, _, arrival⟩, again, ended⟩ := captured
  -- Since all was staged, the withheld validator was only asked for its height, twice.
  have idle : ∀ e ∈ [d, c], e.Idle := by
    intro e mem
    rcases List.mem_pair.1 mem with rfl | rfl
    · exact asked.idle
    · exact again.idle
  have le : d.time ≤ e.time := calc
    d.time ≤ d.arrival := d.time_le_arrival
    _ = c.time := arrival
    _ ≤ c.arrival := c.time_le_arrival
    _ = e.time := ended
  rw [List.append_assoc] at stalled ⊢
  have staging := Staging.steady lineup height _ le idle staged.1
  exact .deploy runs staging.1 (.upgrade lineup.withheld_mem staging.2.2.1 fun _ => stalled)

/-- Once the withheld validator is staged, the upgrade was deployed everywhere. -/
lemma upgrading_of_upgraded {time : Nat} {restarts : List (Exchange network)}
    (upgraded : Upgraded config lineup.withheld.component (config.newRelease height lineup.withheld)
      lineup.withheld.participant (lineup.Detected height) history time)
    (restart : ∀ e ∈ restarts, e.Runs (config.restart lineup.withheld.component))
    (le : time ≤ now) : lineup.Upgrading height lineup.initial (history ++ restarts) now := by
  obtain ⟨_, u, rfl, ⟨_, c, rfl, ⟨earlier, d, rfl, staged, asked, _, before⟩, again, captured⟩,
    succeeds, ended⟩ := upgraded
  have le' : d.time ≤ now := calc
    d.time ≤ d.arrival := d.time_le_arrival
    _ = c.time := before
    _ ≤ c.arrival := c.time_le_arrival
    _ = u.time := captured
    _ ≤ u.arrival := u.time_le_arrival
    _ = time := ended
    _ ≤ now := le
  have notInstalls : ∀ e ∈ [d] ++ [c] ++ [u] ++ restarts,
      e.installs lineup.joining.component = false := by
    intro e mem
    simp only [List.mem_append, List.mem_singleton] at mem
    rcases mem with ((rfl | rfl) | rfl) | mem
    · exact asked.idle.not_deploys (.inl rfl)
    · exact again.idle.not_deploys (.inl rfl)
    · exact succeeds.runs.runsAny.trans (Config.deploys_deployment_of_ne (by decide))
    · exact (restart e mem).runsAny.trans Config.deploys_restart
  have eq : earlier ++ [d] ++ [c] ++ [u] ++ restarts =
      earlier ++ ([d] ++ [c] ++ [u] ++ restarts) := by
    simp only [List.append_assoc]
  rw [eq]
  refine ⟨List.forall_mem_append.2 ⟨staged.1.2.1, notInstalls⟩,
    Running.lasting lineup _ le' staged.1.2.2.1, fun validator mem => ?_⟩
  rcases List.mem_append.1 mem with mem | mem
  · exact Done.lasting _ _ le' (staged.1.2.2.2 validator mem)
  · rw [List.mem_singleton.1 mem]
    refine ⟨u, List.mem_append_right _ ?_, succeeds, ended ▸ le⟩
    exact List.mem_append_left _ (List.mem_append_right _ List.mem_cons_self)

end Lineup

variable {lineup height}

/-- A withheld validator that goes on has told a height short of activation, if any. -/
lemma Drill.ensures_detectStall :
    Ensures (lineup.Allowed height) (lineup.StagedAll height)
      (Lifecycle.detectStall lineup.withheld.node height)
      fun stalled history now => stalled.activationHeight = height ∧
        lineup.Detected height history now := by
  refine (Ensures.of_makes (Sequencer.makes_tryLastBlockHeight _) ?_).bind fun outcome => ?_
  · exact fun history e _ asked => .idle asked.idle
  cases outcome with
  | ok told =>
    dsimp only
    split
    · exact .throw
    · rename_i short
      refine .pure ?_
      rintro _ now ⟨earlier, d, rfl, staged, asked, reports, arrival⟩
      refine ⟨rfl, earlier, d, rfl, staged, asked, fun reached reached' => ?_, arrival⟩
      cases (reports reached).1 reached'
      exact Nat.lt_of_not_le short
  | error error =>
    refine .pure ?_
    rintro _ now ⟨earlier, d, rfl, staged, asked, reports, arrival⟩
    refine ⟨rfl, earlier, d, rfl, staged, asked, fun reached reached' => ?_, arrival⟩
    cases (reports reached).1 reached'

/-- The withheld validator catches up with the first one. -/
lemma Drill.ensures_catchUp {registry : Registry} {staged : Staged} {stalled : Stalled}
    (activationHeight : staged.activationHeight = height) :
    Ensures (lineup.Allowed height) (lineup.Upgrading height lineup.initial)
      (do
        let _ ← Lifecycle.awaitActivation lineup.withheld.node config.deployer
          lineup.withheld.component staged registry
        let target ← lineup.first.node.lastBlockHeight.widen .query
        let timeout := Lifecycle.blockWait (target - stalled.activationHeight)
        let poll ← (lineup.withheld.node.waitUntilHeight target timeout).widen .query
        return (⟨.stalled, poll.value⟩ : Activated))
      fun _ => lineup.Resumed height := by
  have quiet (validator : ValidatorConfig) := Sequencer.quiet_node validator.participant
  refine .of_asksOnly (K := config.Awaits) ?_ (fun _ e awaits => .idle awaits.idle) ?_
  · exact Lifecycle.asksOnly_awaitActivation.bind fun _ =>
      ((quiet lineup.withheld).catchUp (quiet lineup.first) stalled).mono fun _ => .inl
  · intro history now es activated finish upgrading awaits path
    have idle : ∀ e ∈ es, e.Idle := fun e mem => (awaits e mem).idle
    refine ⟨?_, Lineup.Upgrading.steady lineup height _ _ path.le idle upgrading⟩
    obtain ⟨u, upgraded, succeeds, _⟩ := upgrading.2.2 _ lineup.withheld_mem
    obtain ⟨es₁, _, _, _, rfl, first, path⟩ := path.bind_ok
    obtain ⟨es₂, _, target, _, rfl, second, path⟩ := path.bind_ok
    obtain ⟨es₃, _, poll, time, rfl, third, right⟩ := path.bind_ok
    obtain ⟨rfl, _, rfl⟩ := yields_pure_iff.1 right
    obtain ⟨a, mem₁, reached, reports, enough, _⟩ := Lifecycle.reports_of_awaitActivation first
    obtain ⟨r, mem₂, reports', _⟩ := reportsHeight_of_lastBlockHeight (yields_widen_ok.1 second)
    obtain ⟨le, q, mem₃, reports'', arrival⟩ :=
      reportsHeight_of_waitUntilHeight (yields_widen_ok.1 third)
    refine ⟨u, a, r, q, reached, target, poll.value, ?_, succeeds, reports,
      activationHeight ▸ enough, reports', reports'', le, Nat.le_of_eq arrival⟩
    -- Each step of the recovery has its exchange, in the order of the steps.
    exact (List.singleton_sublist.2 upgraded).append ((List.singleton_sublist.2 mem₁).append
      ((List.singleton_sublist.2 mem₂).append ((List.singleton_sublist.2 mem₃).append
        (List.nil_sublist _))))

/-- The withheld validator recovers. -/
theorem Drill.ensures_recover {schedule : Schedule} (chosen : schedule.activationHeight = height) :
    Ensures (lineup.Allowed height) (lineup.StagedAll height)
      (recover config schedule lineup.withheld lineup.first) fun _ => lineup.Resumed height := by
  subst chosen
  refine (ensures_detectStall.widen).bind fun stalled => .of_fact fun same => ?_
  refine Ensures.bind (Q := fun _ => lineup.Resumed schedule.activationHeight) (.widen ?_)
    fun _ => .pure fun _ _ => id
  refine (Lifecycle.ensures_stage rfl ?_ ?_ ?_).bind fun staged =>
    .of_fact fun activationHeight => ?_
  · exact fun history e _ asked => .idle asked.idle
  · exact fun history e captured runs => Lineup.allowed_of_captured captured runs
  · exact fun history e upgraded runs =>
      .restart runs lineup.withheld_mem fun _ => Lineup.stalled_of_upgraded upgraded
  dsimp only
  -- The height that was staged is the one at which the node has stalled.
  rw [if_pos (activationHeight.trans same.symm)]
  refine (ensures_catchUp activationHeight).mono ?_ fun _ _ _ => id
  rintro _ now ⟨history, time, restarts, rfl, le, upgraded, restart⟩
  exact Lineup.upgrading_of_upgraded upgraded restart le

/-- The joining validator is installed after that. -/
theorem Drill.ensures_join {schedule : Schedule} (chosen : schedule.activationHeight = height) :
    Ensures (lineup.Allowed height) (lineup.Resumed height) (join config schedule lineup.joining)
      fun _ => lineup.Joined height := by
  subst chosen
  have lasting : State.Lasting fun history now => lineup.Running history now ∧
      ∀ validator ∈ lineup.initial,
        Done (config.newUpgrade schedule.activationHeight validator) history now :=
    fun history now later es le holds => ⟨Lineup.Running.lasting lineup es le holds.1,
      fun v mem => Done.lasting _ es le (holds.2 v mem)⟩
  have started : Ensures (lineup.Allowed schedule.activationHeight)
      (lineup.Resumed schedule.activationHeight)
      (start config lineup.joining (config.newRelease schedule.activationHeight lineup.joining))
      fun _ => config.Installed lineup.joining.component
        (config.newRelease schedule.activationHeight lineup.joining) :=
    ensures_start (fun history e resumed runs => .deploy runs resumed.2.1 (.joining resumed.1))
      (fun _ _ runs => .idle (Exchange.idle_of_rollout runs))
      fun _ _ _ identified => .idle (Exchange.idle_of_quiet identified.quiet)
  refine ((started.frame lasting).mono (fun _ _ resumed => ⟨resumed, resumed.2.2⟩)
    fun _ _ _ joined => (⟨joined.2, joined.1.done.1⟩ : lineup.Joined _ _ _)).bind fun info => ?_
  exact .of_quiet (asksOnly_passActivation config lineup.joining_mem).quiet
    (Lineup.Joined.lasting lineup _).steady fun _ _ idle => .idle idle

end Recovery

end UpgradeDrill
