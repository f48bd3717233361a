import UpgradeDrill.Proofs.Routine.Attempt
import UpgradeDrill.Proofs.Routine.Team
import UpgradeDrill.Routine.Pool

/-!
# Paths of pools

A path of a pool is an interleaving of paths of its members. The exchanges of a pool are kept in a
log that tells which member made them, and `Under` relates the log to how far the pool has got: it
holds at the start, and every step of a member preserves it. So, whichever member goes on and
whatever the replies are, each member has gone some path of its own, and a pool that has succeeded
has seen every member do so (`runTogether_gone`).
-/

namespace UpgradeDrill

open Function Routine

variable {I : Interface} {ε α : Type}

/-- Exchanges of a pool, each with the position of the member that made it. -/
abbrev Log (I : Interface) : Type := List (Nat × Exchange I)

namespace Log

/-- The exchanges that the member in a position made. -/
def thread (log : Log I) (position : Nat) : List (Exchange I) :=
  (log.filter (·.1 = position)).map (·.2)

lemma thread_append (log log' : Log I) (position : Nat) :
    thread (log ++ log') position = log.thread position ++ log'.thread position := by
  rw [thread, List.filter_append, List.map_append]
  rfl

lemma thread_self (position : Nat) (e : Exchange I) :
    thread [(position, e)] position = [e] := by
  simp [thread]

/-- What happens to one member is not in the threads of the others. -/
lemma thread_append_of_ne {log own : Log I} {position other : Nat}
    (tags : ∀ entry ∈ own, entry.1 = position) (ne : other ≠ position) :
    thread (log ++ own) other = log.thread other := by
  have none : own.filter (·.1 = other) = [] := by
    refine List.filter_eq_nil_iff.2 fun entry mem => ?_
    rw [tags entry mem]
    simpa using ne.symm
  rw [thread_append, thread, thread, none, List.map_nil, List.append_nil]

lemma mem_thread {log : Log I} {position : Nat} {e : Exchange I} :
    e ∈ log.thread position ↔ (position, e) ∈ log := by
  simp [thread]

lemma thread_sublist (log : Log I) (position : Nat) :
    (log.thread position).Sublist (log.map (·.2)) :=
  List.filter_sublist.map _

lemma thread_subset (log : Log I) (position : Nat) : log.thread position ⊆ log.map (·.2) :=
  (log.thread_sublist position).subset

end Log

namespace Precedence

variable (precedence : Precedence) (turn : Turn) (line : List Turn)

lemma lineUp_perm : (precedence.lineUp turn line).Perm (turn :: line) := by
  induction line with
  | nil => exact .refl _
  | cons other line ih =>
    rw [lineUp]
    split
    · exact (ih.cons other).trans (.swap turn other line)
    · exact .refl _

/-- A turn is put in front of the turns that are due later. -/
lemma lineUp_sorted (sorted : line.Pairwise (·.due ≤ ·.due)) :
    (precedence.lineUp turn line).Pairwise (·.due ≤ ·.due) := by
  induction line with
  | nil => exact List.pairwise_singleton ..
  | cons other line ih =>
    obtain ⟨first, sorted⟩ := List.pairwise_cons.1 sorted
    rw [lineUp]
    split
    · rename_i kept
      refine List.pairwise_cons.2 ⟨fun later mem => ?_, ih sorted⟩
      rcases List.mem_cons.1 ((lineUp_perm ..).mem_iff.1 mem) with rfl | mem
      · unfold keeps at kept
        grind
      · exact first later mem
    · rename_i passed
      have le : turn.due ≤ other.due := by
        unfold keeps at passed
        grind
      refine List.pairwise_cons.2 ⟨fun later mem => ?_, List.pairwise_cons.2 ⟨first, sorted⟩⟩
      rcases List.mem_cons.1 mem with rfl | mem
      · exact le
      · exact Nat.le_trans le (first later mem)

end Precedence

section Members

variable (base : Nat) (xs : List (Routine I (Except ε α))) (log : Log I)

/-- The routine in a position has begun some time after the pool, and there is a part of it left at
a time. -/
def Follows (position : Nat) (part : Routine I (Except ε α)) (time : Nat) : Prop :=
  ∃ x start, xs[position]? = some x ∧ base ≤ start ∧
    Reaches x start (log.thread position) part time

/-- How the members of a pool stand with respect to its progress. -/
structure Under (parts : Parts I (Except ε α)) (progress : Progress ε α) : Prop where
  positions :
    (progress.line.map (·.position) ++ progress.waiting ++ progress.outcomes.map (·.1)).Perm
      (List.range xs.length)
  line : ∀ turn ∈ progress.line, progress.now ≤ turn.due ∧
    ∃ part, parts turn.position = some part ∧
      Follows base xs log turn.position part (base + turn.due)
  sorted : progress.line.Pairwise (·.due ≤ ·.due)
  waiting : ∀ position ∈ progress.waiting,
    ∃ x, xs[position]? = some x ∧ parts position = some x ∧ log.thread position = []
  ended : ∀ position outcome, (position, outcome) ∈ progress.outcomes →
    ∃ time, time ≤ base + progress.now ∧ Follows base xs log position (done outcome) time
  idle : progress.line = [] → progress.waiting = []
  tags : ∀ entry ∈ log, entry.1 < xs.length

/-- What members of a pool have done by a time, when something is left of the pool. -/
structure Gone (rest : Routine I (Except ε (List (Nat × α)))) (finish : Nat) : Prop where
  tags : ∀ entry ∈ log, entry.1 < xs.length
  member : ∀ position < xs.length, ∃ part time, Follows base xs log position part time
  ok : ∀ results, rest = done (.ok results) →
    (results.map (·.1)).Perm (List.range xs.length) ∧
      ∀ position value, (position, value) ∈ results →
        ∃ time, time ≤ finish ∧ Follows base xs log position (done (.ok value)) time
  error : ∀ error, rest = done (.error error) →
    ∃ position time, time ≤ finish ∧ Follows base xs log position (done (.error error)) time

end Members

namespace Progress

variable (precedence : Precedence) (position : Nat) (outcome : Except ε α)
  (progress : Progress ε α)

lemma now_finish : (progress.finish precedence position outcome).now = progress.now := by
  unfold finish
  dsimp only
  split
  · rfl
  · rfl

lemma outcomes_finish : (progress.finish precedence position outcome).outcomes =
    (position, outcome) :: progress.outcomes := by
  unfold finish
  dsimp only
  split
  · rfl
  · rfl

end Progress

namespace Under

variable {base : Nat} {xs : List (Routine I (Except ε α))} {log : Log I}
  {parts : Parts I (Except ε α)} {progress : Progress ε α}

/-- Every member of a pool that is under way follows some path. -/
lemma member (under : Under base xs log parts progress) {position : Nat}
    (lt : position < xs.length) : ∃ part time, Follows base xs log position part time := by
  have mem := under.positions.mem_iff.2 (List.mem_range.2 lt)
  rcases List.mem_append.1 mem with mem | ended
  · rcases List.mem_append.1 mem with running | waiting
    · obtain ⟨turn, inLine, rfl⟩ := List.mem_map.1 running
      obtain ⟨_, part, _, follows⟩ := under.line turn inLine
      exact ⟨_, _, follows⟩
    · obtain ⟨x, eq, _, none⟩ := under.waiting position waiting
      refine ⟨x, base, x, base, eq, Nat.le_refl _, ?_⟩
      rw [none]
      exact .here
  · obtain ⟨⟨_, outcome⟩, inOutcomes, rfl⟩ := List.mem_map.1 ended
    obtain ⟨time, _, follows⟩ := under.ended _ _ inOutcomes
    exact ⟨_, _, follows⟩

/-- A pool that is under way has not come to a result. -/
lemma gone (under : Under base xs log parts progress)
    {rest : Routine I (Except ε (List (Nat × α)))} {finish : Nat}
    (left : ∀ outcome, rest ≠ done outcome) : Gone base xs log rest finish where
  tags := under.tags
  member _ lt := under.member lt
  ok _ eq := (left _ eq).elim
  error _ eq := (left _ eq).elim

/-- Time goes on until the next turn is due. -/
lemma advance {turn : Turn} {line : List Turn} (under : Under base xs log parts progress)
    (eq : progress.line = turn :: line) :
    Under base xs log parts
      (Progress.goOn turn.position { progress with now := turn.due, line }) := by
  obtain ⟨first, sorted⟩ := List.pairwise_cons.1 (eq ▸ under.sorted)
  refine ⟨?_, fun other mem => ?_, ?_, under.waiting, fun position outcome mem => ?_, ?_,
    under.tags⟩
  · have positions := under.positions
    rw [eq] at positions
    exact positions
  · have mem : other ∈ turn :: line := mem
    obtain ⟨_, follows⟩ := under.line other (eq ▸ mem)
    refine ⟨?_, follows⟩
    rcases List.mem_cons.1 mem with rfl | mem
    · exact Nat.le_refl _
    · exact first other mem
  · exact List.pairwise_cons.2 ⟨first, sorted⟩
  · obtain ⟨time, le, follows⟩ := under.ended position outcome mem
    have := (under.line turn (eq ▸ List.mem_cons_self)).1
    exact ⟨time, Nat.le_trans le (Nat.add_le_add_left this base), follows⟩
  · exact nofun

/-- The member that goes on stands in no other place. -/
lemma alone {position : Nat} (under : Under base xs log parts (progress.goOn position)) :
    position ∉ progress.line.map (·.position) ∧ position ∉ progress.waiting ∧
      position ∉ progress.outcomes.map (·.1) := by
  have nodup : (position :: (progress.line.map (·.position) ++ progress.waiting ++
      progress.outcomes.map (·.1))).Nodup :=
    under.positions.nodup_iff.2 List.nodup_range
  have absent := (List.nodup_cons.1 nodup).1
  rw [List.mem_append, List.mem_append] at absent
  exact ⟨fun mem => absent (.inl (.inl mem)), fun mem => absent (.inl (.inr mem)),
    fun mem => absent (.inr mem)⟩

/-- Something happens to one member: the log grows by exchanges of its own, and it waits for a turn
with what is left of it. -/
lemma move {position due : Nat} {part : Routine I (Except ε α)} {line : List Turn} {own : Log I}
    (under : Under base xs log parts (progress.goOn position))
    (perm : line.Perm (⟨due, position⟩ :: progress.line))
    (sorted : line.Pairwise (·.due ≤ ·.due)) (le : progress.now ≤ due)
    (tags : ∀ entry ∈ own, entry.1 = position)
    (follows : Follows base xs (log ++ own) position part (base + due)) :
    Under base xs (log ++ own) (update parts position (some part)) { progress with line } := by
  obtain ⟨notInLine, notWaiting, notEnded⟩ := under.alone
  -- The other members have not seen the new exchanges, so they stand as before.
  have thread {other : Nat} (ne : other ≠ position) :
      (log ++ own).thread other = log.thread other :=
    Log.thread_append_of_ne tags ne
  have keep {other : Nat} (ne : other ≠ position) {part : Routine I (Except ε α)} {time : Nat}
      (follows : Follows base xs log other part time) :
      Follows base xs (log ++ own) other part time := by
    obtain ⟨x, start, eq, after, path⟩ := follows
    exact ⟨x, start, eq, after, (thread ne).symm ▸ path⟩
  refine ⟨?_, fun turn mem => ?_, sorted, fun other mem => ?_, fun other outcome mem => ?_,
    fun eq => ?_, fun entry mem => ?_⟩
  · have positions := (perm.map (·.position)).append_right progress.waiting
    exact (positions.append_right _).trans under.positions
  · rcases List.mem_cons.1 (perm.mem_iff.1 mem) with rfl | mem
    · exact ⟨le, part, update_self .., follows⟩
    · have ne : turn.position ≠ position :=
        fun eq => notInLine (eq ▸ List.mem_map_of_mem mem)
      obtain ⟨le, part, eq, follows⟩ := under.line turn (List.mem_cons_of_mem _ mem)
      exact ⟨le, part, by rwa [update_of_ne ne], keep ne follows⟩
  · have ne : other ≠ position := fun eq => notWaiting (eq ▸ mem)
    obtain ⟨x, eq, part, none⟩ := under.waiting other mem
    exact ⟨x, eq, by rwa [update_of_ne ne], by rwa [thread ne]⟩
  · have ne : other ≠ position := fun eq => notEnded (eq ▸ List.mem_map_of_mem mem)
    obtain ⟨time, le, follows⟩ := under.ended other outcome mem
    exact ⟨time, le, keep ne follows⟩
  · obtain rfl : line = [] := eq
    cases perm.nil_eq
  · rcases List.mem_append.1 mem with mem | mem
    · exact under.tags entry mem
    · obtain ⟨_, _, _, x, _, eq, _⟩ := under.line ⟨progress.now, position⟩ List.mem_cons_self
      rw [tags entry mem]
      exact (List.getElem?_eq_some_iff.1 eq).1

lemma asked {position : Nat} {request : I.Request}
    {left : I.Reply request → (took : Nat) → Routine I (Except ε α)}
    (under : Under base xs log parts (progress.goOn position))
    (eq : parts position = some (ask request left)) (reply : I.Reply request) (took : Nat) :
    Under base xs (log ++ [(position, ⟨base + progress.now, request, reply, took⟩)])
      (update parts position (some (left reply took))) (progress.goOn position) := by
  obtain ⟨_, part, same, x, start, listed, after, before⟩ :=
    under.line ⟨progress.now, position⟩ List.mem_cons_self
  cases eq.symm.trans same
  refine under.move (.refl _) under.sorted (Nat.le_refl _) (fun entry mem => ?_) ?_
  · rw [List.mem_singleton.1 mem]
  · refine ⟨x, start, listed, after, ?_⟩
    rw [Log.thread_append, Log.thread_self]
    exact before.trans (.ask .here)

lemma waited {position pause : Nat} {left : Routine I (Except ε α)} {line : List Turn}
    (under : Under base xs log parts (progress.goOn position))
    (eq : parts position = some (wait pause left))
    (perm : line.Perm (⟨progress.now + pause, position⟩ :: progress.line))
    (sorted : line.Pairwise (·.due ≤ ·.due)) :
    Under base xs log (update parts position (some left)) { progress with line } := by
  obtain ⟨_, part, same, x, start, listed, after, before⟩ :=
    under.line ⟨progress.now, position⟩ List.mem_cons_self
  cases eq.symm.trans same
  have follows : Follows base xs (log ++ []) position left (base + (progress.now + pause)) := by
    refine ⟨x, start, listed, after, ?_⟩
    rw [List.append_nil, ← Nat.add_assoc]
    have further := before.trans (.wait .here)
    rwa [List.append_nil] at further
  have moved := under.move perm sorted (Nat.le_add_right ..) (List.forall_mem_nil _) follows
  rwa [List.append_nil] at moved

lemma clocked {position : Nat} {left : (now : Nat) → Routine I (Except ε α)}
    (under : Under base xs log parts (progress.goOn position))
    (eq : parts position = some (clock left)) :
    Under base xs log (update parts position (some (left (base + progress.now))))
      (progress.goOn position) := by
  obtain ⟨_, part, same, x, start, listed, after, before⟩ :=
    under.line ⟨progress.now, position⟩ List.mem_cons_self
  cases eq.symm.trans same
  have follows : Follows base xs (log ++ []) position (left (base + progress.now))
      (base + progress.now) := by
    refine ⟨x, start, listed, after, ?_⟩
    have further := before.trans (.clock .here)
    rwa [List.append_nil] at further ⊢
  have moved :=
    under.move (.refl _) under.sorted (Nat.le_refl _) (List.forall_mem_nil _) follows
  rwa [List.append_nil] at moved

/-- A member ends, and the next that waits begins. -/
lemma finish {position : Nat} {outcome : Except ε α} (precedence : Precedence)
    (under : Under base xs log parts (progress.goOn position))
    (ended : parts position = some (done outcome)) :
    Under base xs log (update parts position none)
      (progress.finish precedence position outcome) := by
  obtain ⟨notInLine, notWaiting, _⟩ := under.alone
  have lineOf : ∀ turn ∈ progress.line, progress.now ≤ turn.due ∧
      ∃ part, update parts position none turn.position = some part ∧
        Follows base xs log turn.position part (base + turn.due) := by
    intro turn mem
    have ne : turn.position ≠ position := fun eq => notInLine (eq ▸ List.mem_map_of_mem mem)
    obtain ⟨le, part, eq, follows⟩ := under.line turn (List.mem_cons_of_mem _ mem)
    exact ⟨le, part, by rwa [update_of_ne ne], follows⟩
  have waitingOf : ∀ other ∈ progress.waiting, ∃ x, xs[other]? = some x ∧
      update parts position none other = some x ∧ log.thread other = [] := by
    intro other mem
    have ne : other ≠ position := fun eq => notWaiting (eq ▸ mem)
    obtain ⟨x, eq, part, none⟩ := under.waiting other mem
    exact ⟨x, eq, by rwa [update_of_ne ne], none⟩
  have endedOf : ∀ other result, (other, result) ∈ (position, outcome) :: progress.outcomes →
      ∃ time, time ≤ base + progress.now ∧ Follows base xs log other (done result) time := by
    intro other result mem
    rcases List.mem_cons.1 mem with eq | mem
    · obtain ⟨_, part, eq', follows⟩ := under.line ⟨progress.now, position⟩ List.mem_cons_self
      cases eq
      cases ended.symm.trans eq'
      exact ⟨_, Nat.le_refl _, follows⟩
    · exact under.ended other result mem
  have positions : ((progress.line.map (·.position) ++ progress.waiting) ++
      position :: progress.outcomes.map (·.1)).Perm (List.range xs.length) :=
    List.perm_middle.trans under.positions
  have sorted := (List.pairwise_cons.1 under.sorted).2
  unfold Progress.finish
  dsimp only
  split
  · -- Nobody is left to take the place.
    rename_i none
    exact ⟨positions, lineOf, sorted, waitingOf, endedOf, fun _ => none, under.tags⟩
  · -- The next that waits lines up, and has not made any exchange yet.
    rename_i next waiting eq
    rw [eq] at positions waitingOf
    have perm := precedence.lineUp_perm ⟨progress.now + 0, next⟩ progress.line
    refine ⟨?_, fun turn mem => ?_, precedence.lineUp_sorted _ _ sorted,
      fun other mem => waitingOf other (List.mem_cons_of_mem _ mem), endedOf, fun eq => ?_,
      under.tags⟩
    · refine .trans (.append_right _ ?_) positions
      exact ((perm.map (·.position)).append_right waiting).trans List.perm_middle.symm
    · rcases List.mem_cons.1 (perm.mem_iff.1 mem) with rfl | mem
      · obtain ⟨x, eq, part, none⟩ := waitingOf next List.mem_cons_self
        have path : Reaches x (base + progress.now) (log.thread next) x (base + progress.now) := by
          rw [none]
          exact .here
        exact ⟨Nat.le_refl _, x, part, x, _, eq, Nat.le_add_right .., path⟩
      · exact lineOf turn mem
    · obtain eq : precedence.lineUp ⟨progress.now + 0, next⟩ progress.line = [] := eq
      rw [eq] at perm
      cases perm.nil_eq

/-- Nothing has happened to a pool that starts. -/
lemma start (base : Nat) (xs : List (Routine I (Except ε α))) {limit : Nat}
    (room : limit = 0 → xs.length = 0) :
    Under base xs [] (xs[·]?) (.start limit xs.length) := by
  have self {position : Nat} (mem : position ∈ List.range xs.length) :
      ∃ x, xs[position]? = some x :=
    ⟨_, List.getElem?_eq_getElem (List.mem_range.1 mem)⟩
  refine ⟨?_, fun turn mem => ?_, ?_, fun position mem => ?_, nofun, fun eq => ?_, nofun⟩
  · rw [Progress.start, List.map_map, List.map_nil, List.append_nil]
    exact .of_eq ((congrArg (· ++ _) (List.map_id _)).trans (List.take_append_drop ..))
  · obtain ⟨position, taken, rfl⟩ := List.mem_map.1 mem
    obtain ⟨x, eq⟩ := self (List.mem_of_mem_take taken)
    exact ⟨Nat.le_refl _, x, eq, x, base, eq, Nat.le_refl _, .here⟩
  · exact List.pairwise_map.2 (List.pairwise_of_forall fun _ _ => Nat.le_refl _)
  · obtain ⟨x, eq⟩ := self (List.mem_of_mem_drop mem)
    exact ⟨x, eq, eq, rfl⟩
  · have empty : List.range xs.length = [] := by
      rcases List.take_eq_nil_iff.1 (List.map_eq_nil_iff.1 eq) with none | none
      · rw [room none, List.range_zero]
      · exact none
    show List.drop limit (List.range xs.length) = []
    rw [empty, List.drop_nil]

end Under

namespace Outcomes

variable {outcomes : Outcomes ε α}

lemma mem_results {position : Nat} {value : α} :
    (position, value) ∈ outcomes.results ↔ (position, .ok value) ∈ outcomes := by
  simp only [results, List.mem_filterMap, List.mem_reverse, Prod.exists, Option.map_eq_some_iff,
    Prod.mk.injEq]
  constructor
  · rintro ⟨_, outcome, mem, _, eq, rfl, rfl⟩
    cases outcome with
    | ok value => cases eq; exact mem
    | error error => cases eq
  · intro mem
    exact ⟨_, _, mem, _, rfl, rfl, rfl⟩

/-- Outcomes without a failure all have a result. -/
lemma map_results (well : ∀ position error, (position, .error error) ∉ outcomes) :
    outcomes.results.map (·.1) = (outcomes.map (·.1)).reverse := by
  induction outcomes with
  | nil => rfl
  | cons outcome outcomes ih =>
    have ih := ih fun position error mem => well position error (List.mem_cons_of_mem _ mem)
    obtain ⟨position, outcome⟩ := outcome
    cases outcome with
    | ok value =>
      rw [List.map_cons, List.reverse_cons, ← ih, results, List.reverse_cons,
        List.filterMap_append, List.map_append]
      rfl
    | error error => exact (well position error List.mem_cons_self).elim

end Outcomes

section Lookup

lemma mem_of_lookup {κ β : Type} [BEq κ] [LawfulBEq κ] {pairs : List (κ × β)} {key : κ} {value : β}
    (eq : pairs.lookup key = some value) : (key, value) ∈ pairs := by
  obtain ⟨before, after, rfl, _⟩ := List.lookup_eq_some_iff.1 eq
  exact List.mem_append_right _ List.mem_cons_self

variable {β : Type} {pairs : List (Nat × β)} {position : Nat} {value : β}

lemma lookup_of_mem (nodup : (pairs.map (·.1)).Nodup) (mem : (position, value) ∈ pairs) :
    pairs.lookup position = some value := by
  obtain ⟨before, after, rfl⟩ := List.append_of_mem mem
  refine List.lookup_eq_some_iff.2 ⟨before, after, rfl, fun other inBefore => ?_⟩
  rw [List.map_append, List.map_cons] at nodup
  have ne := (List.nodup_append.1 nodup).2.2 _ (List.mem_map_of_mem inBefore) _
    List.mem_cons_self
  exact bne_iff_ne.2 ne.symm

/-- Each result stands in its position once the results are in order. -/
lemma getElem?_inOrder {count : Nat} (perm : (pairs.map (·.1)).Perm (List.range count)) :
    (inOrder pairs).length = count ∧
      ∀ position value, (position, value) ∈ pairs → (inOrder pairs)[position]? = some value := by
  have length : pairs.length = count := by
    rw [← List.length_map (·.1), perm.length_eq, List.length_range]
  have lookup {position value} (mem : (position, value) ∈ pairs) :
      pairs.lookup position = some value :=
    lookup_of_mem (perm.nodup_iff.2 List.nodup_range) mem
  have given : (inOrder pairs).map some = (List.range count).map (pairs.lookup ·) := by
    rw [inOrder, length, List.map_filterMap_some_eq_filter_map_isSome, List.filter_eq_self]
    intro outcome mem
    obtain ⟨position, inRange, rfl⟩ := List.mem_map.1 mem
    obtain ⟨⟨_, value⟩, inPairs, rfl⟩ := List.mem_map.1 (perm.mem_iff.2 inRange)
    rw [lookup inPairs]
    rfl
  constructor
  · have := congrArg List.length given
    rwa [List.length_map, List.length_map, List.length_range] at this
  · intro position value mem
    have lt := List.mem_range.1 (perm.mem_iff.1 (List.mem_map_of_mem mem))
    have at' := congrArg (·[position]?) given
    simp only [List.getElem?_map, List.getElem?_range lt, Option.map_some, lookup mem] at at'
    obtain ⟨_, eq, same⟩ := Option.map_eq_some_iff.1 at'
    cases same
    exact eq

end Lookup

/-- A discipline ends a pool with the failure of a member only, and lets no failure pass when all
members have ended. -/
structure Discipline.Sound (discipline : Discipline ε α) : Prop where
  failure : ∀ {outcomes : Outcomes ε α} {error}, discipline.failure? outcomes = some error →
    ∃ position, (position, .error error) ∈ outcomes
  success : ∀ {outcomes : Outcomes ε α} {count}, (outcomes.map (·.1)).Perm (List.range count) →
    (∀ earlier, earlier <:+ outcomes → discipline.failure? earlier = none) →
    ∀ position error, (position, .error error) ∉ outcomes

lemma sound_latestFailure (precedence : Precedence) :
    (⟨precedence, Outcomes.latestFailure?⟩ : Discipline ε α).Sound where
  failure {outcomes error} eq := by
    have eq : outcomes.latestFailure? = some error := eq
    unfold Outcomes.latestFailure? at eq
    split at eq
    · cases eq
      exact ⟨_, List.mem_cons_self⟩
    · cases eq
  success {outcomes count} _ clear position error mem := by
    -- The outcome was the latest when it came.
    obtain ⟨later, earlier, rfl⟩ := List.append_of_mem mem
    cases clear _ (List.suffix_append later ((position, .error error) :: earlier))

lemma sound_listedFailure (precedence : Precedence) :
    (⟨precedence, Outcomes.listedFailure?⟩ : Discipline ε α).Sound where
  failure {outcomes error} eq := by
    have eq : outcomes.listedFailure? = some error := eq
    unfold Outcomes.listedFailure? at eq
    dsimp only at eq
    split at eq
    · rename_i found
      cases eq
      obtain ⟨position, _, eq⟩ := List.mem_map.1 (List.mem_of_find?_eq_some found)
      exact ⟨position, mem_of_lookup eq⟩
    · cases eq
  success {outcomes count} perm clear position error mem := by
    have none : outcomes.listedFailure? = none := clear outcomes (List.suffix_refl outcomes)
    have length : outcomes.length = count := by
      rw [← List.length_map (·.1), perm.length_eq, List.length_range]
    have lookup {position outcome} (mem : (position, outcome) ∈ outcomes) :
        outcomes.lookup position = some outcome :=
      lookup_of_mem (perm.nodup_iff.2 List.nodup_range) mem
    have failed : ((List.range outcomes.length).map (outcomes.lookup ·)).find?
        (fun outcome => !outcome.any (·.isOk)) ≠ .none := by
      have listed : position ∈ List.range outcomes.length :=
        length ▸ perm.mem_iff.1 (List.mem_map_of_mem mem)
      refine fun absent => List.find?_eq_none.1 absent _ (List.mem_map_of_mem listed) ?_
      rw [lookup mem]
      rfl
    unfold Outcomes.listedFailure? at none
    dsimp only at none
    split at none
    · cases none
    · rename_i found
      -- The first position without a good end has an outcome, as all have.
      obtain ⟨outcome, eq⟩ := Option.ne_none_iff_exists'.1 failed
      obtain ⟨first, inRange, rfl⟩ := List.mem_map.1 (List.mem_of_find?_eq_some eq)
      have bad := List.find?_some eq
      have inKeys := perm.mem_iff.2 (length ▸ inRange)
      obtain ⟨⟨_, outcome⟩, inOutcomes, rfl⟩ := List.mem_map.1 inKeys
      rw [lookup inOutcomes] at eq bad
      cases outcome with
      | ok value => cases bad
      | error error => exact found _ eq

lemma sound_ofCount (count : Nat) : (Discipline.ofCount count : Discipline ε α).Sound := by
  unfold Discipline.ofCount
  split
  · exact sound_latestFailure _
  · exact sound_listedFailure _

section Run

variable {discipline : Discipline ε α} {base : Nat} {xs : List (Routine I (Except ε α))}

/-- No outcome that a pool has seen so far ends it. -/
def Clear (discipline : Discipline ε α) (outcomes : Outcomes ε α) : Prop :=
  ∀ earlier, earlier <:+ outcomes → discipline.failure? earlier = none

/-- A pool in which nobody is under way any more has succeeded. -/
lemma Under.succeeded {log : Log I} {parts : Parts I (Except ε α)} {progress : Progress ε α}
    (sound : discipline.Sound) (clear : Clear discipline progress.outcomes)
    (under : Under base xs log parts progress) (none : progress.line = []) :
    Gone base xs log (done (.ok progress.outcomes.results)) (base + progress.now) := by
  have positions : (progress.outcomes.map (·.1)).Perm (List.range xs.length) := by
    have positions := under.positions
    rwa [none, under.idle none] at positions
  have well := sound.success positions clear
  refine ⟨under.tags, fun _ => under.member, fun results eq => ?_, nofun⟩
  cases eq
  refine ⟨?_, fun position value mem => under.ended _ _ (Outcomes.mem_results.1 mem)⟩
  rw [Outcomes.map_results well]
  exact (List.reverse_perm _).trans positions

/-- A pool that ends with a failure ends with that of a member. -/
lemma Under.failed {log : Log I} {parts : Parts I (Except ε α)} {progress : Progress ε α}
    {error : ε} (sound : discipline.Sound) (under : Under base xs log parts progress)
    (failed : discipline.failure? progress.outcomes = some error) :
    Gone base xs log (done (.error error)) (base + progress.now) := by
  obtain ⟨position, mem⟩ := sound.failure failed
  obtain ⟨time, le, follows⟩ := under.ended position _ mem
  refine ⟨under.tags, fun _ => under.member, nofun, fun error' eq => ?_⟩
  cases eq
  exact ⟨position, time, le, follows⟩

lemma Clear.cons {entry : Nat × Except ε α} {outcomes : Outcomes ε α}
    (clear : Clear discipline outcomes) (passed : discipline.failure? (entry :: outcomes) = none) :
    Clear discipline (entry :: outcomes) := by
  intro earlier suffix
  rcases List.suffix_cons_iff.1 suffix with rfl | suffix
  · exact passed
  · exact clear earlier suffix

mutual

/-- What the members of a team have done on a path of it. -/
lemma Team.Of.gone (sound : discipline.Sound) :
    ∀ {team : Team I (Except ε α)} {parts : Parts I (Except ε α)} {progress : Progress ε α}
      {log : Log I} {es : List (Exchange I)} {rest finish}, team.Of parts →
      Under base xs log parts progress → Clear discipline progress.outcomes →
      Reaches (team.run discipline progress) (base + progress.now) es rest finish →
      ∃ own : Log I, own.map (·.2) = es ∧ Gone base xs (log ++ own) rest finish
  | .mk member, parts, progress, log, es, rest, finish, of, under, clear, path => by
    -- By recursion on the team, which shrinks as its members go on while the log grows.
    cases eq : progress.line with
    | nil =>
      rw [Team.run, eq] at path
      obtain ⟨rfl, rfl, rfl⟩ := reaches_done_iff.1 path
      refine ⟨[], rfl, ?_⟩
      rw [List.append_nil]
      exact under.succeeded sound clear eq
    | cons turn line =>
      have due := (under.line turn (eq ▸ List.mem_cons_self)).1
      let next : Progress ε α := { progress with now := turn.due, line }
      have go (path : Reaches ((member turn.position).run discipline turn.position next)
          (base + turn.due) es rest finish) :
          ∃ own : Log I, own.map (·.2) = es ∧ Gone base xs (log ++ own) rest finish :=
        Member.Of.gone sound (of turn.position) (under.advance eq) clear path
      rw [Team.run, eq] at path
      dsimp only at path
      split at path
      · rename_i now
        rw [← now] at path
        exact go path
      · cases path with
        | here =>
          refine ⟨[], rfl, ?_⟩
          rw [List.append_nil]
          exact under.gone nofun
        | wait path =>
          rw [Nat.add_assoc, Nat.add_sub_cancel' due] at path
          exact go path

/-- What the members of a team have done once one of them goes on. -/
lemma Member.Of.gone (sound : discipline.Sound) :
    ∀ {member : Member I (Except ε α)} {position : Nat} {parts : Parts I (Except ε α)}
      {progress : Progress ε α} {log : Log I} {es : List (Exchange I)} {rest finish},
      member.Of position parts →
      Under base xs log parts (progress.goOn position) → Clear discipline progress.outcomes →
      Reaches (member.run discipline position progress) (base + progress.now) es rest finish →
      ∃ own : Log I, own.map (·.2) = es ∧ Gone base xs (log ++ own) rest finish
  | .absent, position, parts, progress, log, es, rest, finish, of, under, clear, path => by
    obtain ⟨_, part, eq, _⟩ := under.line ⟨progress.now, position⟩ List.mem_cons_self
    cases (show parts position = none from of).symm.trans eq
  | .ended outcome next, position, parts, progress, log, es, rest, finish, ⟨eq, of⟩, under, clear,
      path => by
    have ended := under.finish discipline.precedence eq
    have now := progress.now_finish discipline.precedence position outcome
    rw [Member.run] at path
    split at path
    · rename_i error failed
      obtain ⟨rfl, rfl, rfl⟩ := reaches_done_iff.1 path
      refine ⟨[], rfl, ?_⟩
      rw [List.append_nil, ← now]
      exact ended.failed sound failed
    · rename_i passed
      rw [← now] at path
      rw [Progress.outcomes_finish] at passed
      refine Team.Of.gone sound of ended ?_ path
      rw [Progress.outcomes_finish]
      exact clear.cons passed
  | .ask request next, position, parts, progress, log, es, rest, finish, ⟨left, eq, of⟩, under,
      clear, path => by
    rw [Member.run] at path
    cases path with
    | here =>
      refine ⟨[], rfl, ?_⟩
      rw [List.append_nil]
      exact under.gone nofun
    | @ask _ _ _ reply took es _ _ path =>
      obtain ⟨own, rfl, gone⟩ :=
        Team.Of.gone sound (of reply took) (under.asked eq reply took) clear path
      rw [List.append_assoc] at gone
      exact ⟨_ :: own, rfl, gone⟩
  | .wait pause next, position, parts, progress, log, es, rest, finish, ⟨left, eq, of⟩, under,
      clear, path => by
    rw [Member.run] at path
    split at path
    · -- Without a pause the member stays in front.
      rename_i none
      subst none
      exact Team.Of.gone sound of (under.waited eq (.refl _) under.sorted) clear path
    · have sorted := (List.pairwise_cons.1 under.sorted).2
      exact Team.Of.gone sound of (under.waited eq (Precedence.lineUp_perm ..)
        (Precedence.lineUp_sorted _ _ _ sorted)) clear path
  | .clock next, position, parts, progress, log, es, rest, finish, ⟨left, eq, of⟩, under, clear,
      path => by
    rw [Member.run] at path
    cases path with
    | here =>
      refine ⟨[], rfl, ?_⟩
      rw [List.append_nil]
      exact under.gone nofun
    | clock path => exact Team.Of.gone sound (of _) (under.clocked eq) clear path

end

end Run

section Attempts

variable {discipline : Discipline ε α} {limit now finish : Nat} {attempts : List (Attempt I ε α)}
  {es : List (Exchange I)}

/-- Whatever a pool has come to, its exchanges are those of its members, each of which has gone a
path of its own. -/
theorem runTogether_gone {rest} (sound : discipline.Sound)
    (room : limit = 0 → attempts.length = 0)
    (path : Reaches (runTogether discipline limit attempts).run now es rest finish) :
    ∃ log : Log I, log.map (·.2) = es ∧ Gone now (attempts.map (·.run)) log rest finish := by
  have clear : Clear discipline [] := by
    intro earlier suffix
    rw [List.suffix_nil.1 suffix]
    cases eq : discipline.failure? [] with
    | none => rfl
    | some error =>
      obtain ⟨_, mem⟩ := sound.failure eq
      cases mem
  have under := Under.start now (attempts.map (·.run)) (by rwa [List.length_map])
  rw [List.length_map] at under
  exact (Team.of_ofList _).gone sound under clear path

/-- A pool with room has gone the paths of its members. -/
lemma pool_gone {rest} (room : 0 < limit)
    (path : Reaches (pool limit attempts).run now es rest finish) :
    ∃ log : Log I, log.map (·.2) = es ∧ Gone now (attempts.map (·.run)) log rest finish :=
  runTogether_gone (sound_latestFailure _) (fun none => absurd none (Nat.ne_of_gt room)) path

/-- What a member of a pool follows is a path of its attempt. -/
lemma Follows.attempt {log : Log I} {position : Nat} {part : Routine I (Except ε α)} {time : Nat}
    (follows : Follows now (attempts.map (·.run)) log position part time) :
    ∃ attempt start, attempts[position]? = some attempt ∧ now ≤ start ∧
      Reaches attempt.run start (log.thread position) part time := by
  obtain ⟨x, start, eq, after, path⟩ := follows
  rw [List.getElem?_map] at eq
  obtain ⟨attempt, listed, rfl⟩ := Option.map_eq_some_iff.1 eq
  exact ⟨attempt, start, listed, after, path⟩

/-- Every exchange of a pool is on a path of one of its attempts. -/
lemma Gone.mem {rest} {log : Log I} (gone : Gone now (attempts.map (·.run)) log rest finish)
    {e : Exchange I} (mem : e ∈ log.map (·.2)) :
    ∃ attempt ∈ attempts, ∃ start es part time,
      Reaches attempt.run start es part time ∧ e ∈ es := by
  obtain ⟨⟨position, e⟩, logged, rfl⟩ := List.mem_map.1 mem
  obtain ⟨part, time, follows⟩ := gone.member position (gone.tags _ logged)
  obtain ⟨attempt, start, eq, _, path⟩ := follows.attempt
  exact ⟨attempt, List.mem_of_getElem? eq, start, _, part, time, path, Log.mem_thread.2 logged⟩

/-- A pool that has succeeded gives what each of its attempts yielded. -/
theorem Gone.yields {results : List (Nat × α)} {log : Log I}
    (gone : Gone now (attempts.map (·.run)) log (done (.ok results)) finish) :
    (inOrder results).length = attempts.length ∧
      ∀ (position : Nat) (attempt : Attempt I ε α), attempts[position]? = some attempt →
        ∃ value start time, (inOrder results)[position]? = some value ∧ now ≤ start ∧
          time ≤ finish ∧ attempt.Yields start (log.thread position) (.ok value) time := by
  obtain ⟨perm, ended⟩ := gone.ok results rfl
  rw [List.length_map] at perm
  obtain ⟨length, inOrder⟩ := getElem?_inOrder perm
  refine ⟨length, fun position attempt eq => ?_⟩
  have inRange : position ∈ List.range attempts.length :=
    List.mem_range.2 (List.getElem?_eq_some_iff.1 eq).1
  obtain ⟨⟨_, value⟩, mem, rfl⟩ := List.mem_map.1 (perm.mem_iff.2 inRange)
  obtain ⟨time, le, follows⟩ := ended _ _ mem
  obtain ⟨attempt', start, same, after, path⟩ := follows.attempt
  cases eq.symm.trans same
  exact ⟨value, start, time, inOrder _ _ mem, after, le, path⟩

/-- The results of attempts that were run all at once, each with the way to it. -/
theorem joinAll_yields {values : List α}
    (path : (joinAll attempts).Yields now es (.ok values) finish) :
    values.length = attempts.length ∧
      ∀ (position : Nat) (attempt : Attempt I ε α), attempts[position]? = some attempt →
        ∃ value start own time,
          values[position]? = some value ∧ now ≤ start ∧ time ≤ finish ∧
          own ⊆ es ∧ attempt.Yields start own (.ok value) time := by
  obtain ⟨first, second, results, time, rfl, left, right⟩ := Attempt.Yields.bind_ok path
  obtain ⟨rfl, eq, rfl⟩ := Attempt.yields_pure_iff.1 right
  cases eq
  obtain ⟨log, rfl, gone⟩ := runTogether_gone (sound_ofCount _) id left
  obtain ⟨length, yields⟩ := gone.yields
  refine ⟨length, fun position attempt eq => ?_⟩
  obtain ⟨value, start, time, at', after, le, path⟩ := yields position attempt eq
  refine ⟨value, start, _, time, at', after, le, fun e mem => ?_, path⟩
  rw [List.append_nil]
  exact List.mem_map.2 ⟨_, Log.mem_thread.1 mem, rfl⟩

variable {K : I.Request → Prop}

lemma asksOnly_runTogether (sound : discipline.Sound) (room : limit = 0 → attempts.length = 0)
    (only : ∀ attempt ∈ attempts, attempt.AsksOnly K) :
    (runTogether discipline limit attempts).AsksOnly K := by
  intro now es rest finish path e mem
  obtain ⟨log, rfl, gone⟩ := runTogether_gone sound room path
  obtain ⟨attempt, inList, _, _, _, _, path, mem⟩ := gone.mem mem
  exact only attempt inList path e mem

lemma asksOnly_pool (room : 0 < limit) (only : ∀ attempt ∈ attempts, attempt.AsksOnly K) :
    (pool limit attempts).AsksOnly K :=
  asksOnly_runTogether (sound_latestFailure _) (fun none => absurd none (Nat.ne_of_gt room)) only

lemma asksOnly_joinAll (only : ∀ attempt ∈ attempts, attempt.AsksOnly K) :
    (joinAll attempts).AsksOnly K :=
  (asksOnly_runTogether (sound_ofCount _) id only).map inOrder

/-- Attempts that run together fail as one of them does. -/
lemma fails_runTogether {E : ε → Prop} (sound : discipline.Sound)
    (room : limit = 0 → attempts.length = 0) (fails : ∀ attempt ∈ attempts, attempt.Fails E) :
    (runTogether discipline limit attempts).Fails E := by
  intro now es error finish path
  obtain ⟨log, rfl, gone⟩ := runTogether_gone sound room path
  obtain ⟨position, time, _, follows⟩ := gone.error error rfl
  obtain ⟨attempt, start, listed, _, path⟩ := follows.attempt
  exact fails attempt (List.mem_of_getElem? listed) path

lemma fails_pool {E : ε → Prop} (room : 0 < limit)
    (fails : ∀ attempt ∈ attempts, attempt.Fails E) : (pool limit attempts).Fails E :=
  fails_runTogether (sound_latestFailure _) (fun none => absurd none (Nat.ne_of_gt room)) fails

lemma fails_joinAll {E : ε → Prop} (fails : ∀ attempt ∈ attempts, attempt.Fails E) :
    (joinAll attempts).Fails E :=
  Attempt.Fails.map inOrder (fails_runTogether (sound_ofCount _) id fails)

end Attempts

end UpgradeDrill
