import UpgradeDrill.Proofs.Routine.Ending
import UpgradeDrill.Proofs.Routine.Join

/-!
# Attempts that take turns

A member that goes on alone, or without letting time pass, ends before any other member goes on
(`Team.Of.front`). So attempts of which one at most is under way, and attempts that take no time,
run one after another, as they would without a pool (`runTogether_in_turn`).
-/

namespace UpgradeDrill

open Function Routine

variable {I : Interface} {ε α σ : Type}

/-- A member that goes on without waiting is the next. -/
lemma Team.run_goOn (discipline : Discipline ε α) (member : Nat → Member I (Except ε α))
    (position : Nat) (progress : Progress ε α) :
    (Team.mk member).run discipline (progress.goOn position) =
      (member position).run discipline position progress := by
  rw [Team.run, Progress.goOn]
  exact if_pos rfl

/-- Time goes on until the turn of a member that is under way alone. -/
lemma Team.run_alone (discipline : Discipline ε α) (team : Team I (Except ε α))
    {progress : Progress ε α} {position pause : Nat} (pauses : pause ≠ 0)
    (line : progress.line = [⟨progress.now + pause, position⟩]) :
    team.run discipline progress =
      .wait pause (team.run discipline
        (Progress.goOn position { progress with now := progress.now + pause, line := [] })) := by
  obtain ⟨member⟩ := team
  rw [Team.run_goOn, Team.run, line]
  dsimp only
  rw [if_neg (by omega), Nat.add_sub_cancel_left]

/-- A member goes on as the routine in its position. -/
lemma Member.Of.inversion {member : Member I α} {position : Nat} {parts : Parts I α}
    {part : Routine I α} (of : member.Of position parts) (eq : parts position = some part) :
    match part with
    | .done value => ∃ rest, member = .ended value rest ∧ rest.Of (update parts position none)
    | .ask request left => ∃ next, member = .ask request next ∧
      ∀ reply took, (next reply took).Of (update parts position (some (left reply took)))
    | .wait pause left => ∃ next, member = .wait pause next ∧
      next.Of (update parts position (some left))
    | .clock left => ∃ next, member = .clock next ∧
      ∀ now, (next now).Of (update parts position (some (left now))) := by
  cases member with
  | absent => cases eq.symm.trans of
  | ended value rest =>
    obtain ⟨same, of⟩ := of
    cases eq.symm.trans same
    exact ⟨rest, rfl, of⟩
  | ask request next =>
    obtain ⟨left, same, of⟩ := of
    cases eq.symm.trans same
    exact ⟨next, rfl, of⟩
  | wait pause next =>
    obtain ⟨left, same, of⟩ := of
    cases eq.symm.trans same
    exact ⟨next, rfl, of⟩
  | clock next =>
    obtain ⟨left, same, of⟩ := of
    cases eq.symm.trans same
    exact ⟨next, rfl, of⟩

section Front

variable (world : World I σ) (base : Nat) (discipline : Discipline ε α)

/-- A member that is under way alone, or takes no time, runs to its end before any other. -/
lemma Team.Of.front {part : Routine I (Except ε α)} {team : Team I (Except ε α)}
    {parts : Parts I (Except ε α)} (progress : Progress ε α) {position : Nat} (state : σ)
    (of : team.Of parts) (eq : parts position = some part)
    (alone : progress.line = [] ∨
      (part.run world (base + progress.now) state).time = base + progress.now) :
    let ending := part.run world (base + progress.now) state
    let next := Progress.finish discipline.precedence position ending.value
      { progress with now := ending.time - base }
    ∃ rest : Team I (Except ε α), rest.Of (update parts position none) ∧
      (team.run discipline (progress.goOn position)).run world (base + progress.now) state =
        match discipline.failure? next.outcomes with
        | some error => ⟨.error error, ending.time, ending.state⟩
        | none => (rest.run discipline next).run world ending.time ending.state := by
  -- By recursion on what is left of the member.
  induction part generalizing team parts progress state with
  | done outcome =>
    obtain ⟨member⟩ := team
    obtain ⟨rest, here, of⟩ := (of position).inversion eq
    refine ⟨rest, of, ?_⟩
    obtain ⟨now, line, waiting, outcomes⟩ := progress
    rw [Team.run_goOn, here, Member.run, run_done, Nat.add_sub_cancel_left]
    dsimp only
    generalize Progress.finish discipline.precedence position outcome _ = next
    cases discipline.failure? next.outcomes with
    | none => rfl
    | some error => rfl
  | ask request left ih =>
    obtain ⟨member⟩ := team
    obtain ⟨next, here, of⟩ := (of position).inversion eq
    have went := ih _ _ progress _ (of (world.answer state (base + progress.now) request).1
      (world.answer state (base + progress.now) request).2.1) (update_self ..) alone
    rw [update_idem] at went
    rw [Team.run_goOn, here]
    exact went
  | wait pause left ih =>
    obtain ⟨member⟩ := team
    obtain ⟨next, here, of⟩ := (of position).inversion eq
    rw [Team.run_goOn, here, Member.run]
    split
    · rename_i none
      subst none
      have went := ih progress state of (update_self ..) alone
      rw [update_idem] at went
      exact went
    · rename_i pauses
      obtain ⟨now, line, waiting, outcomes⟩ := progress
      -- Time goes on, so nobody else is under way.
      obtain rfl : line = [] := by
        refine alone.resolve_right fun instant => ?_
        have le := le_run_time world left (base + now + pause) state
        rw [run_wait] at instant
        dsimp only at instant
        omega
      rw [Team.run_alone discipline next pauses rfl, run_wait, run_wait, Nat.add_assoc]
      have went := ih ⟨now + pause, [], waiting, outcomes⟩ state of (update_self ..) (.inl rfl)
      rw [update_idem] at went
      exact went
  | clock left ih =>
    obtain ⟨member⟩ := team
    obtain ⟨next, here, of⟩ := (of position).inversion eq
    have went := ih (base + progress.now) progress state (of _) (update_self ..) alone
    rw [update_idem] at went
    rw [Team.run_goOn, here]
    exact went

end Front

/-- Results that came in the order of the list, each with its position. -/
def numbered (values : List α) : List (Nat × α) := values.zipIdx.map Prod.swap

lemma map_numbered (values : List α) :
    (numbered values).map (·.1) = List.range values.length := by
  rw [numbered, List.map_map, List.range_eq_range', ← List.zipIdx_map_snd]
  rfl

lemma mem_numbered {values : List α} {position : Nat} {value : α} :
    (position, value) ∈ numbered values ↔ values[position]? = some value := by
  simp only [numbered, List.mem_map, Prod.exists, List.mem_zipIdx_iff_getElem?]
  constructor
  · rintro ⟨_, _, listed, eq⟩
    cases eq
    exact listed
  · intro listed
    exact ⟨value, position, listed, rfl⟩

/-- Numbered results are in order. -/
lemma inOrder_numbered (values : List α) : inOrder (numbered values) = values := by
  obtain ⟨length, listed⟩ := getElem?_inOrder (.of_eq (map_numbered values))
  refine List.ext_getElem? fun position => ?_
  cases eq : values[position]? with
  | none =>
    rw [List.getElem?_eq_none]
    exact length ▸ List.getElem?_eq_none_iff.1 eq
  | some value => exact listed position value (mem_numbered.2 eq)

namespace Outcomes

/-- The outcomes of attempts that have ended well, one after another. -/
def good (values : List α) : Outcomes ε α := ((numbered values).map (Prod.map id .ok)).reverse

lemma good_concat (values : List α) (value : α) :
    (good (values ++ [value]) : Outcomes ε α) = (values.length, .ok value) :: good values := by
  rw [good, numbered, List.zipIdx_append, List.map_append, List.map_append, List.reverse_append,
    Nat.zero_add]
  rfl

lemma results_good (values : List α) : (good values : Outcomes ε α).results = numbered values := by
  rw [results, good, List.reverse_reverse, List.filterMap_map]
  exact List.filterMap_some

lemma mem_good {values : List α} {position : Nat} {outcome : Except ε α} :
    (position, outcome) ∈ (good values : Outcomes ε α) ↔
      ∃ value, values[position]? = some value ∧ outcome = .ok value := by
  rw [good, List.mem_reverse, List.mem_map]
  constructor
  · rintro ⟨⟨_, value⟩, mem, eq⟩
    cases eq
    exact ⟨value, mem_numbered.1 mem, rfl⟩
  · rintro ⟨value, listed, rfl⟩
    exact ⟨_, mem_numbered.2 listed, rfl⟩

lemma nodup_good (values : List α) : ((good values : Outcomes ε α).map (·.1)).Nodup := by
  have positions : ((numbered values).map (Prod.map id .ok : _ → Nat × Except ε α)).map (·.1) =
      List.range values.length := by
    rw [List.map_map]
    exact map_numbered values
  rw [good, List.map_reverse, positions]
  exact (List.reverse_perm _).nodup_iff.2 List.nodup_range

end Outcomes

/-- A discipline ends a pool with the first failure of attempts that end in the order of the
list. -/
structure Discipline.Prompt (discipline : Discipline ε α) : Prop where
  failed : ∀ values error,
    discipline.failure? ((values.length, .error error) :: Outcomes.good values) = some error
  passed : ∀ values, discipline.failure? (Outcomes.good values) = none

lemma prompt_latestFailure (precedence : Precedence) :
    (⟨precedence, Outcomes.latestFailure?⟩ : Discipline ε α).Prompt where
  failed _ _ := rfl
  passed values := by
    cases values using List.reverseRecOn with
    | nil => rfl
    | append_singleton values value =>
      rw [Outcomes.good_concat]
      rfl

lemma prompt_listedFailure (precedence : Precedence) :
    (⟨precedence, Outcomes.listedFailure?⟩ : Discipline ε α).Prompt where
  failed values error := by
    have fresh : values.length ∉ (Outcomes.good values : Outcomes ε α).map (·.1) := by
      intro mem
      obtain ⟨⟨_, _⟩, mem, rfl⟩ := List.mem_map.1 mem
      obtain ⟨_, listed, _⟩ := Outcomes.mem_good.1 mem
      exact Nat.lt_irrefl _ (List.getElem?_eq_some_iff.1 listed).1
    have nodup : (((values.length, .error error) :: Outcomes.good values : Outcomes ε α).map
        (·.1)).Nodup := List.nodup_cons.2 ⟨fresh, Outcomes.nodup_good values⟩
    refine (Outcomes.listedFailure?_eq_some_iff nodup).2
      ⟨values.length, List.mem_cons_self, fun other before => ?_⟩
    have listed := List.getElem?_eq_getElem before
    exact ⟨_, List.mem_cons_of_mem _ (Outcomes.mem_good.2 ⟨_, listed, rfl⟩)⟩
  passed values := by
    refine Option.eq_none_iff_forall_ne_some.2 fun error failed => ?_
    obtain ⟨_, mem, _⟩ :=
      (Outcomes.listedFailure?_eq_some_iff (Outcomes.nodup_good values)).1 failed
    obtain ⟨_, _, eq⟩ := Outcomes.mem_good.1 mem
    cases eq

lemma prompt_ofCount (count : Nat) : (Discipline.ofCount count : Discipline ε α).Prompt := by
  unfold Discipline.ofCount
  split
  · exact prompt_latestFailure _
  · exact prompt_listedFailure _

/-- An attempt takes no time, whenever and in whatever state of the world it begins. -/
def Attempt.Instant (world : World I σ) (x : Attempt I ε α) : Prop :=
  ∀ now state, (x.run.run world now state).time = now

namespace Attempt

variable {ε' β : Type} {world : World I σ}

lemma instant_done {x : Attempt I ε α} {outcome : Except ε α} (decided : x.run = done outcome) :
    x.Instant world := by
  intro now state
  rw [decided]
  rfl

/-- A request takes no time if the world answers it at once. -/
lemma instant_request {request : I.Request}
    (atOnce : ∀ state now, (world.answer state now request).2.1 = 0) :
    (Attempt.request request : Attempt I ε _).Instant world := by
  intro now state
  have ends : (Attempt.request request : Attempt I ε _).Ends world now state _ _ _ :=
    ends_request rfl
  rw [ends]
  show now + (world.answer state now request).2.1 = now
  rw [atOnce, Nat.add_zero]

lemma Instant.bind {x : Attempt I ε α} {f : α → Attempt I ε β} (first : x.Instant world)
    (second : ∀ value, (f value).Instant world) : (x >>= f).Instant world := by
  intro now state
  have begins := first now state
  rw [ExceptT.run_bind, run_bind, begins]
  cases (x.run.run world now state).value with
  | ok value => exact second value now _
  | error error => rfl

lemma Instant.widen {x : Attempt I ε α} (instant : x.Instant world) (f : ε → ε') :
    (x.widen f).Instant world := by
  intro now state
  have ends : x.Ends world now state _ _ _ := rfl
  rw [ends.widen f]
  exact instant now state

end Attempt

/-- Who is due now comes after all who already are and stand before it in the list. -/
lemma Precedence.lineUp_last (precedence : Precedence) {now position : Nat} {ahead : List Nat}
    (before : ∀ other ∈ ahead, other < position) :
    precedence.lineUp ⟨now, position⟩ (ahead.map (⟨now, ·⟩)) =
      (ahead ++ [position]).map (⟨now, ·⟩) := by
  induction ahead with
  | nil => rfl
  | cons other ahead ih =>
    obtain ⟨first, before⟩ := List.forall_mem_cons.1 before
    have kept : precedence.keeps ⟨now, other⟩ ⟨now, position⟩ = true := by
      unfold keeps
      cases precedence with
      | listed => simpa using first
      | queued => simp
    rw [List.map_cons, lineUp, if_pos kept, ih before]
    rfl

/-- If a member ends while all others are due, the next that waits comes after them. -/
lemma Progress.finish_of_due (precedence : Precedence) (position : Nat) (outcome : Except ε α)
    (now : Nat) {ahead waiting : List Nat} (outcomes : Outcomes ε α)
    (ordered : (ahead ++ waiting).Pairwise (· < ·)) :
    ∃ ahead' waiting', ahead' ++ waiting' = ahead ++ waiting ∧ (ahead' = [] → waiting' = []) ∧
      ahead'.length ≤ ahead.length + 1 ∧
      Progress.finish precedence position outcome
          ⟨now, ahead.map (⟨now, ·⟩), waiting, outcomes⟩ =
        ⟨now, ahead'.map (⟨now, ·⟩), waiting', (position, outcome) :: outcomes⟩ := by
  cases waiting with
  | nil =>
    exact ⟨ahead, [], rfl, fun _ => rfl, Nat.le_succ _, Progress.finish_of_begun rfl ..⟩
  | cons next waiting =>
    refine ⟨ahead ++ [next], waiting, List.append_cons .. |>.symm, fun none => ?_, ?_, ?_⟩
    · cases (List.append_eq_nil_iff.1 none).2
    · exact Nat.le_of_eq List.length_append
    · have before : ∀ other ∈ ahead, other < next := fun other mem =>
        (List.pairwise_append.1 ordered).2.2 other mem next List.mem_cons_self
      rw [Progress.finish, ← precedence.lineUp_last before]
      rfl

section Turns

variable {world : World I σ} {discipline : Discipline ε α}

/-- Members of which one at most is under way, or which take no time, run one after another. -/
lemma Team.Of.in_turn (prompt : discipline.Prompt) {rest : List (Attempt I ε α)}
    {team : Team I (Except ε α)} {parts : Parts I (Except ε α)} (base now : Nat)
    {ahead waiting : List Nat} (values : List α) (state : σ) (of : team.Of parts)
    (left : ∀ index, parts (values.length + index) = (rest.map (·.run))[index]?)
    (positions : ahead ++ waiting = List.range' values.length rest.length)
    (room : ahead = [] → waiting = [])
    (alone : ahead.length ≤ 1 ∨ ∀ x ∈ rest, x.Instant world) :
    (team.run discipline ⟨now, ahead.map (⟨now, ·⟩), waiting, Outcomes.good values⟩).run world
        (base + now) state =
      (do
        let more ← rest.mapM id
        return numbered (values ++ more) : Attempt I ε (List (Nat × α))).run.run world (base + now)
          state := by
  induction rest generalizing team parts now ahead waiting values state with
  | nil =>
    obtain ⟨rfl, rfl⟩ := List.append_eq_nil_iff.1 positions
    obtain ⟨member⟩ := team
    rw [Team.run, List.map_nil]
    dsimp only
    rw [Outcomes.results_good, List.mapM_nil, pure_bind, List.append_nil]
    rfl
  | cons x rest ih =>
    rw [List.length_cons, List.range'_succ] at positions
    obtain ⟨position, ahead, rfl⟩ : ∃ position ahead', ahead = position :: ahead' := by
      refine List.exists_cons_of_ne_nil fun none => ?_
      rw [none, room none] at positions
      cases positions
    obtain ⟨rfl, others⟩ := List.cons.inj positions
    have others : ahead ++ waiting = List.range' (values.length + 1) rest.length := others
    have part : parts values.length = some x.run := left 0
    have idle : ahead = [] ∨ (x.run.run world (base + now) state).time = base + now := by
      refine alone.imp (fun few => ?_) fun instant => instant x List.mem_cons_self _ _
      exact List.eq_nil_of_length_eq_zero (by rw [List.length_cons] at few; omega)
    obtain ⟨team, of, went⟩ := of.front world base discipline
      ⟨now, ahead.map (⟨now, ·⟩), waiting, Outcomes.good values⟩ state part
      (idle.imp_left fun none => by rw [none]; rfl)
    have le := le_run_time world x.run (base + now) state
    rw [List.mapM_cons, bind_assoc, ExceptT.run_bind, run_bind]
    dsimp only [id] at went ⊢
    refine went.trans ?_
    generalize x.run.run world (base + now) state = ending at *
    obtain ⟨outcome, finish, last⟩ := ending
    obtain ⟨time, rfl⟩ := Nat.exists_eq_add_of_le (Nat.le_trans (Nat.le_add_right base now) le)
    rw [Progress.outcomes_finish, Nat.add_sub_cancel_left]
    cases outcome with
    | error error =>
      rw [prompt.failed]
      rfl
    | ok value =>
      rw [← Outcomes.good_concat, prompt.passed]
      have due : ahead.map (fun position => (⟨now, position⟩ : Turn)) =
          ahead.map (⟨time, ·⟩) := by
        rcases idle with rfl | instant
        · rfl
        · rw [Nat.add_left_cancel instant]
      obtain ⟨ahead', waiting', same, room', few', next⟩ := Progress.finish_of_due
        discipline.precedence values.length (.ok value) time (Outcomes.good values)
        (others ▸ List.pairwise_lt_range' 1)
      have left' (index : Nat) : update parts values.length none
          ((values ++ [value]).length + index) = (rest.map (·.run))[index]? := by
        rw [List.length_append, Nat.add_assoc, Nat.add_comm [value].length,
          update_of_ne (by simp)]
        exact left (index + 1)
      have positions' : ahead' ++ waiting' =
          List.range' (values ++ [value]).length rest.length := by
        rw [same, List.length_append]
        exact others
      have alone' : ahead'.length ≤ 1 ∨ ∀ x ∈ rest, x.Instant world := by
        refine alone.imp (fun few => ?_) fun instant x mem =>
          instant x (List.mem_cons_of_mem _ mem)
        rw [List.length_cons] at few
        omega
      have goes := ih time (values ++ [value]) last of left' positions' room' alone'
      rw [due, next, ← Outcomes.good_concat]
      refine goes.trans ?_
      simp only [pure_bind, bind_assoc, List.append_assoc]
      rfl

/-- Attempts of which one at most is under way, or which take no time, run one after another until
one fails, as they would without a pool. -/
theorem runTogether_in_turn (prompt : discipline.Prompt) {limit : Nat}
    {attempts : List (Attempt I ε α)} (room : limit = 0 → attempts.length = 0)
    (alone : limit ≤ 1 ∨ ∀ x ∈ attempts, x.Instant world) (now : Nat) (state : σ) :
    (runTogether discipline limit attempts).run.run world now state =
      (numbered <$> attempts.mapM id).run.run world now state := by
  have parts (index : Nat) : (attempts.map (·.run))[([] : List α).length + index]? =
      (attempts.map (·.run))[index]? := by rw [List.length_nil, Nat.zero_add]
  have positions : (List.range attempts.length).take limit ++
      (List.range attempts.length).drop limit =
        List.range' ([] : List α).length attempts.length := by
    rw [List.take_append_drop, List.range_eq_range']
    rfl
  have first : (List.range attempts.length).take limit = [] →
      (List.range attempts.length).drop limit = [] := by
    intro none
    rcases List.take_eq_nil_iff.1 none with none | none
    · rw [room none, List.range_zero, List.drop_nil]
    · rw [none, List.drop_nil]
  have few := alone.imp_left fun few =>
    Nat.le_trans (List.length_take_le limit (List.range attempts.length)) few
  have went := (Team.of_ofList _).in_turn prompt now 0 [] state parts positions first few
  rw [map_eq_pure_bind]
  exact went

end Turns

/-- Attempts that take no time are joined one after another. -/
theorem joinAll_in_turn {world : World I σ} {attempts : List (Attempt I ε α)}
    (instant : ∀ x ∈ attempts, x.Instant world) (now : Nat) (state : σ) :
    (joinAll attempts).run.run world now state = (attempts.mapM id).run.run world now state := by
  have turns := runTogether_in_turn (prompt_ofCount attempts.length) id (.inr instant) now state
  have listed : (attempts.mapM id).run.run world now state = ⟨_, _, _⟩ := rfl
  rw [ExceptT.run_map, Attempt.run_map listed] at turns
  rw [joinAll, ExceptT.run_map, Attempt.run_map turns]
  refine Eq.trans ?_ listed.symm
  cases ((attempts.mapM id).run.run world now state).value with
  | error error => rfl
  | ok values => rw [Except.map, Except.map, inOrder_numbered]

end UpgradeDrill
