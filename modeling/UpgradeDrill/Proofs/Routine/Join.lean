import Mathlib.Data.List.Perm.Subperm
import UpgradeDrill.Proofs.Routine.Pool

/-!
# Attempts that are joined

Attempts that run all at once do not hold each other up: each comes to its outcome when it would
alone. So a join of attempts that come to known outcomes at known times comes to what `Joined` tells
of these, whatever the order in which the attempts go on in between. `Timely` relates the progress
of the attempts to their outcomes and times, and every step of one of them preserves it
(`joined_of_join`).
-/

namespace UpgradeDrill

open Function

variable {I : Interface} {ε α σ : Type}

/-- The world may answer so, in some state of its own. -/
def World.Gives (world : World I σ) (e : Exchange I) : Prop :=
  ∃ state last, world.answer state e.time e.request = (e.reply, e.took, last)

namespace Routine

variable {world : World I σ} {now time finish : Nat} {value : α}

/-- From a time on, a routine comes to a value at another time, whatever the states in which the
world answers it. -/
def Comes (world : World I σ) (r : Routine I α) (now : Nat) (value : α) (finish : Nat) : Prop :=
  ∀ ⦃es value' finish'⦄, Reaches r now es (done value') finish' → (∀ e ∈ es, world.Gives e) →
    value' = value ∧ finish' = finish

lemma gives_of_mem_exchanges {r : Routine I α} {state : σ} {e : Exchange I}
    (mem : e ∈ r.exchanges world now state) : world.Gives e := by
  induction r generalizing now state with
  | done value => cases mem
  | ask request next ih =>
    rcases List.mem_cons.1 mem with rfl | mem
    · exact ⟨state, _, rfl⟩
    · exact ih _ _ mem
  | wait pause next ih => exact ih mem
  | clock next ih => exact ih _ mem

lemma Comes.of_done {result : α} (comes : (done result).Comes world now value finish) :
    result = value ∧ now = finish :=
  comes .here (List.forall_mem_nil _)

lemma Comes.of_ask {request : I.Request} {next : I.Reply request → Nat → Routine I α}
    {reply : I.Reply request} {took : Nat}
    (comes : (ask request next).Comes world now value finish)
    (gives : world.Gives ⟨now, request, reply, took⟩) :
    (next reply took).Comes world now value finish :=
  fun _ _ _ path all => comes (.ask path) (List.forall_mem_cons.2 ⟨gives, all⟩)

lemma Comes.of_wait {pause : Nat} {next : Routine I α}
    (comes : (wait pause next).Comes world now value finish) :
    next.Comes world (now + pause) value finish :=
  fun _ _ _ path all => comes (.wait path) all

lemma Comes.of_clock {next : Nat → Routine I α}
    (comes : (clock next).Comes world now value finish) :
    (next now).Comes world now value finish :=
  fun _ _ _ path all => comes (.clock path) all

/-- A routine that comes to a value has not come to it before. -/
lemma Comes.le {r : Routine I α} (comes : r.Comes world now value finish) (state : σ) :
    now ≤ finish := by
  have path := reaches_run world r now state
  rw [(comes path fun _ => gives_of_mem_exchanges).2] at path
  exact path.le

/-- A world without a state answers all requests as it does those of a run. -/
lemma comes_of_stateless (world : World I Unit) (r : Routine I α) (now : Nat) :
    r.Comes world now (r.run world now ()).value (r.run world now ()).time := by
  induction r generalizing now with
  | done value =>
    intro es value' finish path _
    obtain ⟨_, eq, rfl⟩ := reaches_done_iff.1 path
    cases eq
    exact ⟨rfl, rfl⟩
  | ask request next ih =>
    intro es value' finish path gives
    cases path with
    | ask path =>
      obtain ⟨⟨_, _, answered⟩, gives⟩ := List.forall_mem_cons.1 gives
      have answered : world.answer () now request = _ := answered
      rw [run, answered]
      exact ih _ _ _ path gives
  | wait pause next ih =>
    intro es value' finish path gives
    cases path with
    | wait path => exact ih _ path gives
  | clock next ih =>
    intro es value' finish path gives
    cases path with
    | clock path => exact ih _ _ path gives

end Routine

open Routine

/-- An attempt comes to an outcome. -/
def Attempt.Comes (world : World I σ) (x : Attempt I ε α) (now : Nat) (outcome : Except ε α)
    (finish : Nat) : Prop :=
  x.run.Comes world now outcome finish

/-- How attempts are run all at once. -/
inductive Joining where
  /-- They are gone through in the order of the list, and the first failure in time counts. -/
  | eager
  /-- They are queued, and a failure counts once all attempts before it in the list have ended
  well. -/
  | patient
  deriving DecidableEq

namespace Joining

def precedence : Joining → Precedence
  | eager => .listed
  | patient => .queued

def discipline (joining : Joining) : Discipline ε α where
  precedence := joining.precedence
  failure? := match joining with
    | eager => Outcomes.latestFailure?
    | patient => Outcomes.listedFailure?

/-- How a number of attempts are joined. -/
def ofCount (count : Nat) : Joining := if count ≤ 30 then eager else patient

/-- Runs attempts all at once. -/
def join (joining : Joining) (attempts : List (Attempt I ε α)) : Attempt I ε (List α) :=
  inOrder <$> runTogether joining.discipline attempts.length attempts

lemma joinAll_eq (attempts : List (Attempt I ε α)) :
    joinAll attempts = (ofCount attempts.length).join attempts := by
  unfold joinAll join ofCount Discipline.ofCount
  split
  · rfl
  · rfl

lemma sound_discipline (joining : Joining) : (joining.discipline : Discipline ε α).Sound := by
  cases joining with
  | eager => exact sound_latestFailure _
  | patient => exact sound_listedFailure _

end Joining

/-- What attempts come to, in their order, each with the time at which it does. -/
abbrev Runs (ε α : Type) : Type := List (Except ε α × Nat)

/-- The last of some runs ends. Without any, that is when they began. -/
def Runs.Last (runs : Runs ε α) (now finish : Nat) : Prop :=
  (∀ run ∈ runs, run.2 ≤ finish) ∧ (runs = [] ∧ finish = now ∨ ∃ run ∈ runs, run.2 = finish)

/-- What a join of attempts comes to that began at a time, and when. -/
inductive Joined (joining : Joining) (now : Nat) (runs : Runs ε α) :
    Except ε (List α) → (finish : Nat) → Prop where
  | all {values finish} :
    runs.map (·.1) = values.map .ok →
    runs.Last now finish →
    Joined joining now runs (.ok values) finish
  /-- Of failures at the same time, that of the attempt counts which stands first in the list. -/
  | earliest {position error finish} :
    joining = .eager →
    runs[position]? = some (Except.error error, finish) →
    (∀ (other : Nat) error' time, runs[other]? = some (Except.error error', time) →
      finish < time ∨ finish = time ∧ position ≤ other) →
    Joined joining now runs (.error error) finish
  | foremost {position error time finish} :
    joining = .patient →
    runs[position]? = some (Except.error error, time) →
    (∀ other < position, ∃ value, ∃ time : Nat, runs[other]? = some (Except.ok value, time)) →
    Runs.Last (runs.take (position + 1)) now finish →
    Joined joining now runs (.error error) finish

/-- One turn stands in front of another in a line. -/
def Precedence.Orders (precedence : Precedence) (turn later : Turn) : Prop :=
  turn.due < later.due ∨
    turn.due = later.due ∧ (precedence = .listed → turn.position < later.position)

namespace Precedence

variable {precedence : Precedence} {turn other later : Turn} {line : List Turn}

lemma Orders.trans (first : precedence.Orders turn other) (second : precedence.Orders other later) :
    precedence.Orders turn later := by
  rcases first with before | ⟨same, ahead⟩
  · rcases second with before' | ⟨same', _⟩
    · exact .inl (Nat.lt_trans before before')
    · exact .inl (same' ▸ before)
  · rcases second with before' | ⟨same', ahead'⟩
    · exact .inl (same ▸ before')
    · exact .inr ⟨same.trans same', fun listed => Nat.lt_trans (ahead listed) (ahead' listed)⟩

lemma orders_of_keeps (keeps : precedence.keeps turn later = true) :
    precedence.Orders turn later := by
  unfold Precedence.keeps at keeps
  unfold Orders
  cases precedence with
  | listed => grind
  | queued => grind

/-- A turn that is not kept in front of one in another position stands behind it. -/
lemma orders_of_not_keeps (passed : ¬ precedence.keeps later turn = true)
    (ne : turn.position ≠ later.position) : precedence.Orders turn later := by
  unfold Precedence.keeps at passed
  unfold Orders
  cases precedence with
  | listed => grind
  | queued => grind

lemma lineUp_ordered (ordered : line.Pairwise precedence.Orders)
    (fresh : turn.position ∉ line.map (·.position)) :
    (precedence.lineUp turn line).Pairwise precedence.Orders := by
  induction line with
  | nil => exact List.pairwise_singleton ..
  | cons other line ih =>
    obtain ⟨first, ordered⟩ := List.pairwise_cons.1 ordered
    have ne : turn.position ≠ other.position := fun eq => fresh (eq ▸ List.mem_cons_self)
    have fresh : turn.position ∉ line.map (·.position) := fun mem => fresh (.tail _ mem)
    rw [lineUp]
    split
    · rename_i kept
      refine List.pairwise_cons.2 ⟨fun later mem => ?_, ih ordered fresh⟩
      rcases List.mem_cons.1 ((lineUp_perm ..).mem_iff.1 mem) with rfl | mem
      · exact orders_of_keeps kept
      · exact first later mem
    · rename_i passed
      have orders := orders_of_not_keeps passed ne
      refine List.pairwise_cons.2 ⟨fun later mem => ?_, List.pairwise_cons.2 ⟨first, ordered⟩⟩
      rcases List.mem_cons.1 mem with rfl | mem
      · exact orders
      · exact orders.trans (first later mem)

end Precedence

namespace Outcomes

variable {outcomes : Outcomes ε α}

/-- The failure that counts is that of the first position which has not ended well. -/
lemma listedFailure?_eq_some_iff (nodup : (outcomes.map (·.1)).Nodup) {error : ε} :
    outcomes.listedFailure? = some error ↔
      ∃ position, (position, .error error) ∈ outcomes ∧
        ∀ other < position, ∃ value, (other, .ok value) ∈ outcomes := by
  unfold listedFailure?
  dsimp only
  rw [List.find?_map]
  constructor
  · intro eq
    split at eq
    · rename_i found
      cases eq
      obtain ⟨position, first, failed⟩ := Option.map_eq_some_iff.1 found
      obtain ⟨_, _, well⟩ := List.find?_range_eq_some.1 first
      refine ⟨position, mem_of_lookup failed, fun other before => ?_⟩
      have ended := well other before
      rw [Function.comp_apply, Bool.not_not] at ended
      cases listed : outcomes.lookup other with
      | none =>
        rw [listed] at ended
        cases ended
      | some outcome =>
        rw [listed] at ended
        cases outcome with
        | ok value => exact ⟨value, mem_of_lookup listed⟩
        | error _ => cases ended
    · cases eq
  · rintro ⟨position, failed, well⟩
    -- All positions up to this one have an outcome, so there are more outcomes than that.
    have ended : List.range (position + 1) ⊆ outcomes.map (·.1) := by
      intro other mem
      rcases Nat.lt_or_eq_of_le (Nat.lt_succ_iff.1 (List.mem_range.1 mem)) with before | rfl
      · obtain ⟨_, mem⟩ := well other before
        exact List.mem_map_of_mem mem
      · exact List.mem_map_of_mem failed
    have many := (List.subperm_of_subset List.nodup_range ended).length_le
    rw [List.length_range, List.length_map] at many
    have first : (List.range outcomes.length).find?
        ((fun outcome => !outcome.any (·.isOk)) ∘ (outcomes.lookup ·)) = some position := by
      refine List.find?_range_eq_some.2 ⟨?_, List.mem_range.2 many, fun other before => ?_⟩
      · rw [Function.comp_apply, lookup_of_mem nodup failed]
        rfl
      · obtain ⟨value, mem⟩ := well other before
        rw [Function.comp_apply, lookup_of_mem nodup mem]
        rfl
    rw [first, Option.map_some, lookup_of_mem nodup failed]

/-- No failure that is looked at when it comes has passed. -/
lemma ok_of_clear {precedence : Precedence}
    (clear : Clear ⟨precedence, latestFailure?⟩ outcomes) (position : Nat) (error : ε) :
    (position, .error error) ∉ outcomes := by
  intro mem
  obtain ⟨later, earlier, rfl⟩ := List.append_of_mem mem
  cases clear _ (List.suffix_append later ((position, .error error) :: earlier))

end Outcomes

/-- Nobody takes the place of a member that ends if all have begun. -/
lemma Progress.finish_of_begun {progress : Progress ε α} (begun : progress.waiting = [])
    (precedence : Precedence) (position : Nat) (outcome : Except ε α) :
    progress.finish precedence position outcome =
      { progress with outcomes := (position, outcome) :: progress.outcomes } := by
  unfold finish
  dsimp only
  rw [begun]

/-- How far a pool has got whose members come to given outcomes at given times. All of them have
begun. -/
structure Timely (world : World I σ) (base : Nat) (runs : Runs ε α) (precedence : Precedence)
    (parts : Parts I (Except ε α)) (progress : Progress ε α) : Prop where
  positions : (progress.line.map (·.position) ++ progress.outcomes.map (·.1)).Perm
    (List.range runs.length)
  begun : progress.waiting = []
  line : ∀ turn ∈ progress.line, progress.now ≤ turn.due ∧ ∃ part outcome time,
    parts turn.position = some part ∧ runs[turn.position]? = some (outcome, time) ∧
      part.Comes world (base + turn.due) outcome time
  ordered : progress.line.Pairwise precedence.Orders
  ended : ∀ position outcome, (position, outcome) ∈ progress.outcomes →
    ∃ time, time ≤ base + progress.now ∧ runs[position]? = some (outcome, time)
  /-- If nobody is under way any more, somebody has just ended. -/
  latest : progress.line = [] → runs = [] ∧ progress.now = 0 ∨
    ∃ position outcome, (position, outcome) ∈ progress.outcomes ∧
      runs[position]? = some (outcome, base + progress.now)

namespace Timely

variable {world : World I σ} {base : Nat} {runs : Runs ε α} {precedence : Precedence}
  {parts : Parts I (Except ε α)} {progress : Progress ε α}

/-- Time goes on until the next turn is due. -/
lemma advance {turn : Turn} {line : List Turn} (timely : Timely world base runs precedence parts
    progress) (eq : progress.line = turn :: line) :
    Timely world base runs precedence parts
      (Progress.goOn turn.position { progress with now := turn.due, line }) := by
  have due := (timely.line turn (eq ▸ List.mem_cons_self)).1
  have ordered := eq ▸ timely.ordered
  have positions := timely.positions
  rw [eq] at positions
  refine ⟨positions, timely.begun, fun other mem => ?_, ordered, fun position outcome mem => ?_,
    nofun⟩
  · have mem : other ∈ turn :: line := mem
    obtain ⟨_, comes⟩ := timely.line other (eq ▸ mem)
    refine ⟨?_, comes⟩
    rcases List.mem_cons.1 mem with rfl | mem
    · exact Nat.le_refl _
    · rcases (List.pairwise_cons.1 ordered).1 other mem with before | ⟨same, _⟩
      · exact Nat.le_of_lt before
      · exact Nat.le_of_eq same
  · obtain ⟨time, le, listed⟩ := timely.ended position outcome mem
    exact ⟨time, Nat.le_trans le (Nat.add_le_add_left due base), listed⟩

/-- The member that goes on stands in no other place. -/
lemma alone {position : Nat}
    (timely : Timely world base runs precedence parts (progress.goOn position)) :
    position ∉ progress.line.map (·.position) ∧ position ∉ progress.outcomes.map (·.1) := by
  have nodup : (position :: (progress.line.map (·.position) ++
      progress.outcomes.map (·.1))).Nodup :=
    timely.positions.nodup_iff.2 List.nodup_range
  exact not_or.1 (mt List.mem_append.2 (List.nodup_cons.1 nodup).1)

/-- The member that goes on has something left, which comes to its outcome. -/
lemma own {position : Nat} {part : Routine I (Except ε α)}
    (timely : Timely world base runs precedence parts (progress.goOn position))
    (eq : parts position = some part) : ∃ outcome time, runs[position]? = some (outcome, time) ∧
      part.Comes world (base + progress.now) outcome time := by
  obtain ⟨_, part', outcome, time, same, listed, comes⟩ :=
    timely.line ⟨progress.now, position⟩ List.mem_cons_self
  cases eq.symm.trans same
  exact ⟨outcome, time, listed, comes⟩

/-- The member that goes on waits for a turn with what is left of it. -/
lemma move {position due : Nat} {part : Routine I (Except ε α)} {line : List Turn}
    {outcome : Except ε α} {time : Nat}
    (timely : Timely world base runs precedence parts (progress.goOn position))
    (perm : line.Perm (⟨due, position⟩ :: progress.line))
    (ordered : line.Pairwise precedence.Orders) (le : progress.now ≤ due)
    (listed : runs[position]? = some (outcome, time))
    (comes : part.Comes world (base + due) outcome time) :
    Timely world base runs precedence (update parts position (some part))
      { progress with line } := by
  obtain ⟨notInLine, notEnded⟩ := timely.alone
  refine ⟨?_, timely.begun, fun turn mem => ?_, ordered, timely.ended, fun eq => ?_⟩
  · exact ((perm.map (·.position)).append_right _).trans timely.positions
  · rcases List.mem_cons.1 (perm.mem_iff.1 mem) with rfl | mem
    · exact ⟨le, part, outcome, time, update_self .., listed, comes⟩
    · have ne : turn.position ≠ position := fun eq => notInLine (eq ▸ List.mem_map_of_mem mem)
      obtain ⟨le, part, outcome, time, eq, listed, comes⟩ :=
        timely.line turn (List.mem_cons_of_mem _ mem)
      exact ⟨le, part, outcome, time, by rwa [update_of_ne ne], listed, comes⟩
  · obtain rfl : line = [] := eq
    cases perm.nil_eq

lemma asked {position : Nat} {request : I.Request}
    {left : I.Reply request → (took : Nat) → Routine I (Except ε α)} {reply : I.Reply request}
    {took : Nat} (timely : Timely world base runs precedence parts (progress.goOn position))
    (eq : parts position = some (.ask request left))
    (gives : world.Gives ⟨base + progress.now, request, reply, took⟩) :
    Timely world base runs precedence (update parts position (some (left reply took)))
      (progress.goOn position) := by
  obtain ⟨outcome, time, listed, comes⟩ := timely.own eq
  exact timely.move (.refl _) timely.ordered (Nat.le_refl _) listed (comes.of_ask gives)

lemma waited {position pause : Nat} {left : Routine I (Except ε α)} {line : List Turn}
    (timely : Timely world base runs precedence parts (progress.goOn position))
    (eq : parts position = some (.wait pause left))
    (perm : line.Perm (⟨progress.now + pause, position⟩ :: progress.line))
    (ordered : line.Pairwise precedence.Orders) :
    Timely world base runs precedence (update parts position (some left))
      { progress with line } := by
  obtain ⟨outcome, time, listed, comes⟩ := timely.own eq
  refine timely.move perm ordered (Nat.le_add_right ..) listed ?_
  rw [← Nat.add_assoc]
  exact comes.of_wait

lemma clocked {position : Nat} {left : (now : Nat) → Routine I (Except ε α)}
    (timely : Timely world base runs precedence parts (progress.goOn position))
    (eq : parts position = some (.clock left)) :
    Timely world base runs precedence
      (update parts position (some (left (base + progress.now)))) (progress.goOn position) := by
  obtain ⟨outcome, time, listed, comes⟩ := timely.own eq
  exact timely.move (.refl _) timely.ordered (Nat.le_refl _) listed comes.of_clock

/-- A member ends when it comes to its outcome. -/
lemma finish {position : Nat} {outcome : Except ε α}
    (timely : Timely world base runs precedence parts (progress.goOn position))
    (eq : parts position = some (.done outcome)) :
    runs[position]? = some (outcome, base + progress.now) ∧
      Timely world base runs precedence (update parts position none)
        { progress with outcomes := (position, outcome) :: progress.outcomes } := by
  obtain ⟨notInLine, notEnded⟩ := timely.alone
  obtain ⟨outcome', time, listed, comes⟩ := timely.own eq
  obtain ⟨rfl, rfl⟩ := comes.of_done
  refine ⟨listed, ?_, timely.begun, fun turn mem => ?_, ?_, fun other result mem => ?_,
    fun _ => .inr ⟨position, outcome, List.mem_cons_self, listed⟩⟩
  · exact List.perm_middle.trans timely.positions
  · have ne : turn.position ≠ position := fun eq => notInLine (eq ▸ List.mem_map_of_mem mem)
    obtain ⟨le, part, outcome, time, eq, listed, comes⟩ :=
      timely.line turn (List.mem_cons_of_mem _ mem)
    exact ⟨le, part, outcome, time, by rwa [update_of_ne ne], listed, comes⟩
  · exact (List.pairwise_cons.1 timely.ordered).2
  · rcases List.mem_cons.1 mem with eq | mem
    · cases eq
      exact ⟨_, Nat.le_refl _, listed⟩
    · exact timely.ended other result mem

/-- All members of a pool begin with it. -/
lemma start {xs : List (Routine I (Except ε α))} (length : xs.length = runs.length)
    (comes : ∀ (position : Nat) x outcome time, xs[position]? = some x →
      runs[position]? = some (outcome, time) → x.Comes world base outcome time) :
    Timely world base runs precedence (xs[·]?) (.start xs.length xs.length) := by
  have all : (List.range xs.length).take xs.length = List.range xs.length :=
    List.take_of_length_le (Nat.le_of_eq List.length_range)
  have line : (Progress.start xs.length xs.length : Progress ε α).line =
      (List.range xs.length).map (⟨0, ·⟩) := by
    rw [Progress.start, all]
  refine ⟨?_, ?_, fun turn mem => ?_, ?_, fun _ _ mem => absurd mem List.not_mem_nil,
    fun eq => ?_⟩
  · rw [line, List.map_map]
    exact .of_eq ((List.append_nil _).trans ((List.map_id _).trans (by rw [length])))
  · exact List.drop_of_length_le (Nat.le_of_eq List.length_range)
  · rw [line] at mem
    obtain ⟨position, inRange, rfl⟩ := List.mem_map.1 mem
    have lt := List.mem_range.1 inRange
    have listed := List.getElem?_eq_getElem lt
    have listed' := List.getElem?_eq_getElem (length ▸ lt)
    exact ⟨Nat.le_refl _, _, _, _, listed, listed', comes position _ _ _ listed listed'⟩
  · rw [line]
    exact List.pairwise_map.2 (List.pairwise_lt_range.imp fun lt => .inr ⟨rfl, fun _ => lt⟩)
  · rw [line] at eq
    have none := List.range_eq_nil.1 (List.map_eq_nil_iff.1 eq)
    exact .inl ⟨List.eq_nil_of_length_eq_zero (length ▸ none), rfl⟩

end Timely

section Run

variable {world : World I σ} {base : Nat} {runs : Runs ε α} {joining : Joining}
  {precedence : Precedence} {parts : Parts I (Except ε α)} {progress : Progress ε α}

/-- Those that are not under way any more have an outcome. -/
lemma Timely.under_way_or_ended (timely : Timely world base runs precedence parts progress)
    {position : Nat} {run : Except ε α × Nat} (listed : runs[position]? = some run) :
    (∃ turn ∈ progress.line, turn.position = position) ∨
      (position, run.1) ∈ progress.outcomes ∧ run.2 ≤ base + progress.now := by
  have inRange := List.mem_range.2 (List.getElem?_eq_some_iff.1 listed).1
  rcases List.mem_append.1 (timely.positions.mem_iff.2 inRange) with mem | mem
  · exact .inl (List.mem_map.1 mem)
  · obtain ⟨⟨_, outcome⟩, inOutcomes, rfl⟩ := List.mem_map.1 mem
    obtain ⟨time, le, listed'⟩ := timely.ended _ _ inOutcomes
    cases listed.symm.trans listed'
    exact .inr ⟨inOutcomes, le⟩

/-- When nobody is under way any more, all have ended well. -/
lemma Timely.all (timely : Timely world base runs precedence parts progress)
    (clear : Clear joining.discipline progress.outcomes) (none : progress.line = []) :
    Joined joining base runs (.ok (inOrder progress.outcomes.results)) (base + progress.now) := by
  have positions : (progress.outcomes.map (·.1)).Perm (List.range runs.length) := by
    have positions := timely.positions
    rwa [none] at positions
  have well := joining.sound_discipline.success positions clear
  have perm : (progress.outcomes.results.map (·.1)).Perm (List.range runs.length) := by
    rw [Outcomes.map_results well]
    exact (List.reverse_perm _).trans positions
  obtain ⟨length, given⟩ := getElem?_inOrder perm
  have ended {position : Nat} {run : Except ε α × Nat} (listed : runs[position]? = some run) :
      (position, run.1) ∈ progress.outcomes ∧ run.2 ≤ base + progress.now := by
    refine (timely.under_way_or_ended listed).resolve_left ?_
    rw [none]
    rintro ⟨_, mem, _⟩
    cases mem
  refine .all (List.ext_getElem? fun position => ?_) ⟨fun run mem => ?_, ?_⟩
  · rw [List.getElem?_map, List.getElem?_map]
    cases listed : runs[position]? with
    | none =>
      have beyond := List.getElem?_eq_none_iff.1 listed
      rw [List.getElem?_eq_none (length ▸ beyond)]
      rfl
    | some run =>
      obtain ⟨outcome, time⟩ := run
      have mem := (ended listed).1
      cases outcome with
      | ok value =>
        rw [given _ _ (Outcomes.mem_results.2 mem)]
        rfl
      | error error => exact absurd mem (well _ _)
  · obtain ⟨position, listed⟩ := List.getElem?_of_mem mem
    exact (ended listed).2
  · rcases timely.latest none with ⟨empty, zero⟩ | ⟨_, _, _, listed⟩
    · rw [zero]
      exact .inl ⟨empty, rfl⟩
    · exact .inr ⟨_, List.mem_of_getElem? listed, rfl⟩

/-- A failure that is looked at when it comes is the earliest. -/
lemma Timely.earliest {position : Nat} {error : ε} (state : σ)
    (timely : Timely world base runs .listed parts (progress.goOn position))
    (clear : Clear (Joining.eager.discipline) progress.outcomes)
    (listed : runs[position]? = some (.error error, base + progress.now)) :
    Joined .eager base runs (.error error) (base + progress.now) := by
  refine .earliest rfl listed fun other error' time listed' => ?_
  rcases timely.under_way_or_ended listed' with ⟨turn, mem, rfl⟩ | ⟨mem, _⟩
  · rcases List.mem_cons.1 mem with rfl | mem
    · cases listed.symm.trans listed'
      exact .inr ⟨rfl, Nat.le_refl _⟩
    · obtain ⟨_, _, outcome, time', _, same, comes⟩ := timely.line turn (.tail _ mem)
      cases listed'.symm.trans same
      have le := comes.le state
      rcases (List.pairwise_cons.1 timely.ordered).1 turn mem with before | ⟨same, ahead⟩
      · exact .inl (Nat.lt_of_lt_of_le (Nat.add_lt_add_left before base) le)
      · have same : progress.now = turn.due := same
        rw [← same] at le
        exact (Nat.lt_or_eq_of_le le).imp_right fun eq => ⟨eq, Nat.le_of_lt (ahead rfl)⟩
  · exact absurd mem (Outcomes.ok_of_clear clear _ _)

/-- A failure that counts in a queue is that of the first attempt that has not ended well, and
counts from the time on at which all before it have. -/
lemma Timely.foremost {position : Nat} {outcome : Except ε α} {earlier : Outcomes ε α} {error : ε}
    (timely : Timely world base runs precedence parts progress)
    (latest : progress.outcomes = (position, outcome) :: earlier)
    (listed : runs[position]? = some (outcome, base + progress.now))
    (passed : earlier.listedFailure? = none)
    (failed : progress.outcomes.listedFailure? = some error) :
    Joined .patient base runs (.error error) (base + progress.now) := by
  have nodup : (progress.outcomes.map (·.1)).Nodup :=
    (List.nodup_append.1 (timely.positions.nodup_iff.2 List.nodup_range)).2.1
  obtain ⟨first, mem, well⟩ := (Outcomes.listedFailure?_eq_some_iff nodup).1 failed
  obtain ⟨time, le, listed'⟩ := timely.ended _ _ mem
  have wellEnded (other) (before : other < first) : ∃ value time, time ≤ base + progress.now ∧
      runs[other]? = some (.ok value, time) := by
    obtain ⟨value, mem⟩ := well other before
    obtain ⟨time, le, listed⟩ := timely.ended _ _ mem
    exact ⟨value, time, le, listed⟩
  have reached : position ≤ first := by
    -- Otherwise the failure would have counted before.
    by_contra beyond
    have inEarlier {other : Nat} {result : Except ε α} (le : other ≤ first)
        (mem : (other, result) ∈ progress.outcomes) : (other, result) ∈ earlier := by
      rw [latest] at mem
      refine (List.mem_cons.1 mem).resolve_left fun eq => ?_
      cases eq
      exact beyond le
    have nodup' : (earlier.map (·.1)).Nodup := by
      rw [latest] at nodup
      exact (List.nodup_cons.1 nodup).2
    have failed' : earlier.listedFailure? = some error := by
      refine (Outcomes.listedFailure?_eq_some_iff nodup').2
        ⟨first, inEarlier (Nat.le_refl _) mem, fun other before => ?_⟩
      obtain ⟨value, mem⟩ := well other before
      exact ⟨value, inEarlier (Nat.le_of_lt before) mem⟩
    cases passed.symm.trans failed'
  refine .foremost rfl listed' (fun other before => ?_) ⟨fun run mem => ?_, .inr ?_⟩
  · obtain ⟨value, time, _, listed⟩ := wellEnded other before
    exact ⟨value, time, listed⟩
  · obtain ⟨other, listed⟩ := List.getElem?_of_mem mem
    rw [List.getElem?_take] at listed
    split at listed
    · rename_i within
      rcases Nat.lt_or_eq_of_le (Nat.lt_succ_iff.1 within) with before | rfl
      · obtain ⟨_, _, le, same⟩ := wellEnded other before
        cases listed.symm.trans same
        exact le
      · cases listed.symm.trans listed'
        exact le
    · cases listed
  · have taken : (runs.take (first + 1))[position]? = some (outcome, base + progress.now) := by
      rwa [List.getElem?_take_of_lt (Nat.lt_succ_of_le reached)]
    exact ⟨_, List.mem_of_getElem? taken, rfl⟩

/-- A failure that ends a pool has just come, or counts from now on. -/
lemma Timely.failed {position : Nat} {outcome : Except ε α} {error : ε} (state : σ)
    (timely : Timely world base runs joining.precedence parts (progress.goOn position))
    (clear : Clear joining.discipline progress.outcomes)
    (listed : runs[position]? = some (outcome, base + progress.now))
    (ended : Timely world base runs joining.precedence (update parts position none)
      { progress with outcomes := (position, outcome) :: progress.outcomes })
    (failed : joining.discipline.failure? ((position, outcome) :: progress.outcomes) =
      some error) :
    Joined joining base runs (.error error) (base + progress.now) := by
  cases joining with
  | eager =>
    cases outcome with
    | ok value => cases failed
    | error error =>
      cases failed
      exact timely.earliest state clear listed
  | patient => exact ended.foremost rfl listed (clear _ (List.suffix_refl _)) failed

mutual

/-- What a team comes to on a path on which the world answers. -/
lemma Team.Of.joined (state : σ) :
    ∀ {team : Team I (Except ε α)} {parts : Parts I (Except ε α)} {progress : Progress ε α}
      {es : List (Exchange I)} {result finish}, team.Of parts →
      Timely world base runs joining.precedence parts progress →
      Clear joining.discipline progress.outcomes →
      Reaches (team.run joining.discipline progress) (base + progress.now) es (done result) finish →
      (∀ e ∈ es, world.Gives e) → Joined joining base runs (result.map inOrder) finish
  | .mk member, parts, progress, es, result, finish, of, timely, clear, path, gives => by
    -- By recursion on the team, which shrinks as its members go on.
    cases eq : progress.line with
    | nil =>
      rw [Team.run, eq] at path
      obtain ⟨rfl, same, rfl⟩ := reaches_done_iff.1 path
      cases same
      exact timely.all clear eq
    | cons turn line =>
      have due := (timely.line turn (eq ▸ List.mem_cons_self)).1
      let next : Progress ε α := { progress with now := turn.due, line }
      have go (path : Reaches ((member turn.position).run joining.discipline turn.position next)
          (base + turn.due) es (done result) finish) :
          Joined joining base runs (result.map inOrder) finish :=
        Member.Of.joined state (of turn.position) (timely.advance eq) clear path gives
      rw [Team.run, eq] at path
      dsimp only at path
      split at path
      · rename_i now
        rw [← now] at path
        exact go path
      · cases path with
        | wait path =>
          rw [Nat.add_assoc, Nat.add_sub_cancel' due] at path
          exact go path

/-- What a team comes to once one of its members goes on. -/
lemma Member.Of.joined (state : σ) :
    ∀ {member : Member I (Except ε α)} {position : Nat} {parts : Parts I (Except ε α)}
      {progress : Progress ε α} {es : List (Exchange I)} {result finish},
      member.Of position parts →
      Timely world base runs joining.precedence parts (progress.goOn position) →
      Clear joining.discipline progress.outcomes →
      Reaches (member.run joining.discipline position progress) (base + progress.now) es
        (done result) finish →
      (∀ e ∈ es, world.Gives e) → Joined joining base runs (result.map inOrder) finish
  | .absent, position, parts, progress, es, result, finish, of, timely, clear, path, gives => by
    obtain ⟨_, part, _, _, eq, _⟩ := timely.line ⟨progress.now, position⟩ List.mem_cons_self
    cases (show parts position = none from of).symm.trans eq
  | .ended outcome next, position, parts, progress, es, result, finish, ⟨eq, of⟩, timely, clear,
      path, gives => by
    obtain ⟨listed, ended⟩ := timely.finish eq
    have begun : progress.waiting = [] := timely.begun
    rw [Member.run, Progress.finish_of_begun begun] at path
    dsimp only at path
    split at path
    · rename_i error failed
      obtain ⟨rfl, same, rfl⟩ := reaches_done_iff.1 path
      cases same
      exact timely.failed state clear listed ended failed
    · rename_i passed
      exact Team.Of.joined state of ended (clear.cons passed) path gives
  | .ask request next, position, parts, progress, es, result, finish, ⟨left, eq, of⟩, timely,
      clear, path, gives => by
    rw [Member.run] at path
    cases path with
    | ask path =>
      obtain ⟨given, gives⟩ := List.forall_mem_cons.1 gives
      exact Team.Of.joined state (of _ _) (timely.asked eq given) clear path gives
  | .wait pause next, position, parts, progress, es, result, finish, ⟨left, eq, of⟩, timely,
      clear, path, gives => by
    rw [Member.run] at path
    split at path
    · -- Without a pause the member stays in front.
      rename_i none
      subst none
      exact Team.Of.joined state of (timely.waited eq (.refl _) timely.ordered) clear path gives
    · have ordered := (List.pairwise_cons.1 timely.ordered).2
      exact Team.Of.joined state of (timely.waited eq (Precedence.lineUp_perm ..)
        (Precedence.lineUp_ordered ordered timely.alone.1)) clear path gives
  | .clock next, position, parts, progress, es, result, finish, ⟨left, eq, of⟩, timely, clear,
      path, gives => by
    rw [Member.run] at path
    cases path with
    | clock path => exact Team.Of.joined state (of _) (timely.clocked eq) clear path gives

end

/-- Attempts that come to some outcomes at some times are joined as `Joined` tells. -/
theorem joined_of_join {attempts : List (Attempt I ε α)} {now : Nat}
    (length : attempts.length = runs.length)
    (comes : ∀ (position : Nat) attempt outcome time, attempts[position]? = some attempt →
      runs[position]? = some (outcome, time) → attempt.Comes world now outcome time) (state : σ) :
    let ending := (joining.join attempts).run.run world now state
    Joined joining now runs ending.value ending.time := by
  intro ending
  have path := reaches_run world (joining.join attempts).run now state
  have gives : ∀ e ∈ (joining.join attempts).run.exchanges world now state, world.Gives e :=
    fun _ => gives_of_mem_exchanges
  have joins : (joining.join attempts).run = Except.map inOrder <$>
      (runTogether joining.discipline attempts.length attempts).run := ExceptT.run_map ..
  rw [joins] at path gives
  obtain ⟨result, path, eq⟩ := Attempt.reaches_map_done_iff.1 path
  have clear : Clear (joining.discipline : Discipline ε α) [] := by
    intro earlier suffix
    rw [List.suffix_nil.1 suffix]
    cases joining with
    | eager => rfl
    | patient => rfl
  have timely : Timely world now runs joining.precedence ((attempts.map (·.run))[·]?)
      (.start attempts.length attempts.length) := by
    have routines : (attempts.map (·.run)).length = attempts.length := List.length_map ..
    rw [← routines]
    refine Timely.start (routines.trans length) fun position x outcome time eq listed => ?_
    rw [List.getElem?_map] at eq
    obtain ⟨attempt, eq', rfl⟩ := Option.map_eq_some_iff.1 eq
    exact comes position attempt outcome time eq' listed
  have joined := (Team.of_ofList _).joined state timely clear path gives
  rw [← eq, ← joins] at joined
  exact joined

end Run

end UpgradeDrill
