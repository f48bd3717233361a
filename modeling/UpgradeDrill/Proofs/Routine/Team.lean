import Mathlib.Data.List.Induction
import Mathlib.Logic.Function.Basic
import Mathlib.Tactic.Lemma
import UpgradeDrill.Routine.Team

/-!
# Members of teams

`Team.Of` says that a team is made of given routines, one in each of some positions: each member
does next what its routine does, and leaves a team in which only its own routine has gone on. The
team of a list is made of the routines in the list (`of_ofList`).
-/

namespace UpgradeDrill

open Function

variable {I : Interface} {α : Type}

/-- The routines of a team by their positions. -/
abbrev Parts (I : Interface) (α : Type) : Type := Nat → Option (Routine I α)

mutual

/-- A team is made of given routines. -/
def Team.Of : Team I α → Parts I α → Prop
  | .mk member, parts => ∀ position, (member position).Of position parts

/-- A member does next what the routine in its position does, which alone goes on by it. -/
def Member.Of : Member I α → (position : Nat) → Parts I α → Prop
  | .absent, position, parts => parts position = none
  | .ended value rest, position, parts =>
    parts position = some (.done value) ∧ rest.Of (update parts position none)
  | .ask request next, position, parts =>
    ∃ left, parts position = some (.ask request left) ∧
      ∀ reply took, (next reply took).Of (update parts position (some (left reply took)))
  | .wait pause next, position, parts =>
    ∃ left, parts position = some (.wait pause left) ∧
      next.Of (update parts position (some left))
  | .clock next, position, parts =>
    ∃ left, parts position = some (.clock left) ∧
      ∀ now, (next now).Of (update parts position (some (left now)))

end

/-- What a new member does of every team that it may meet. -/
def Acts (position : Nat) (routine : Routine I α) (act : Team I α → Member I α) : Prop :=
  ∀ ⦃team parts⦄, team.Of parts → parts position = none →
    (act team).Of position (update parts position (some routine))

mutual

lemma Team.Of.insert {position : Nat} {routine : Routine I α} {act : Team I α → Member I α}
    (acts : Acts position routine act) :
    ∀ {team : Team I α} {parts : Parts I α}, team.Of parts → parts position = none →
      (team.insert position act).Of (update parts position (some routine))
  | .mk member, parts, of, free => by
    intro other
    show Member.Of (if other = position then _ else _) ..
    split
    · rename_i eq
      subst eq
      exact acts of free
    · exact Member.Of.insert acts ‹_› (of other) free

lemma Member.Of.insert {position : Nat} {routine : Routine I α} {act : Team I α → Member I α}
    (acts : Acts position routine act) {other : Nat} (ne : other ≠ position) :
    ∀ {member : Member I α} {parts : Parts I α}, member.Of other parts → parts position = none →
      (member.insert position act).Of other (update parts position (some routine))
  | .absent, parts, of, free => by
    rw [Member.insert, Member.Of, update_of_ne ne]
    exact of
  | .ended value rest, parts, ⟨eq, of⟩, free => by
    rw [Member.insert, Member.Of, update_of_ne ne, update_comm ne.symm]
    have free : update parts other none position = none := by rwa [update_of_ne ne.symm]
    exact ⟨eq, of.insert acts free⟩
  | .ask request next, parts, ⟨left, eq, of⟩, free => by
    rw [Member.insert, Member.Of, update_of_ne ne]
    refine ⟨left, eq, fun reply took => ?_⟩
    rw [update_comm ne.symm]
    have free : update parts other (some (left reply took)) position = none := by
      rwa [update_of_ne ne.symm]
    exact (of reply took).insert acts free
  | .wait pause next, parts, ⟨left, eq, of⟩, free => by
    rw [Member.insert, Member.Of, update_of_ne ne]
    refine ⟨left, eq, ?_⟩
    rw [update_comm ne.symm]
    have free : update parts other (some left) position = none := by rwa [update_of_ne ne.symm]
    exact of.insert acts free
  | .clock next, parts, ⟨left, eq, of⟩, free => by
    rw [Member.insert, Member.Of, update_of_ne ne]
    refine ⟨left, eq, fun now => ?_⟩
    rw [update_comm ne.symm]
    have free : update parts other (some (left now)) position = none := by
      rwa [update_of_ne ne.symm]
    exact (of now).insert acts free

end

namespace Team

lemma of_empty : (empty : Team I α).Of fun _ => none := fun _ => rfl

/-- A team with one more routine is made of one more routine. -/
lemma Of.add {position : Nat} {routine : Routine I α} {team : Team I α} {parts : Parts I α}
    (of : team.Of parts) (free : parts position = none) :
    (team.add position routine).Of (update parts position (some routine)) := by
  induction routine generalizing team parts with
  | done value =>
    have acts : Acts position (.done value) fun rest : Team I α => .ended value rest := by
      intro team parts of free
      refine ⟨update_self .., ?_⟩
      -- A routine that has ended leaves the team as it was without it.
      rw [update_idem, update_eq_self_iff.2 free.symm]
      exact of
    exact of.insert acts free
  | ask request next ih =>
    have acts : Acts position (.ask request next) fun rest =>
        .ask request fun reply took => Team.add position (next reply took) rest := by
      intro team parts of free
      refine ⟨next, update_self .., fun reply took => ?_⟩
      rw [update_idem]
      exact ih reply took of free
    exact of.insert acts free
  | wait pause next ih =>
    have acts : Acts position (.wait pause next) fun rest =>
        .wait pause (Team.add position next rest) := by
      intro team parts of free
      refine ⟨next, update_self .., ?_⟩
      rw [update_idem]
      exact ih of free
    exact of.insert acts free
  | clock next ih =>
    have acts : Acts position (.clock next) fun rest =>
        .clock fun now => Team.add position (next now) rest := by
      intro team parts of free
      refine ⟨next, update_self .., fun now => ?_⟩
      rw [update_idem]
      exact ih now of free
    exact of.insert acts free

/-- The team of a list is made of the routines in the list. -/
theorem of_ofList (routines : List (Routine I α)) : (ofList routines).Of (routines[·]?) := by
  induction routines using List.reverseRecOn with
  | nil => exact of_empty
  | append_singleton routines routine ih =>
    have team : ofList (routines ++ [routine]) = (ofList routines).add routines.length routine := by
      rw [ofList, List.zipIdx_append, List.foldl_append, Nat.zero_add]
      rfl
    have parts : ((routines ++ [routine])[·]?) =
        update (routines[·]?) routines.length (some routine) := by
      funext position
      rw [update_apply]
      split
      · rename_i eq
        rw [eq, List.getElem?_concat_length]
      · rw [List.getElem?_append]
        split
        · rfl
        · have beyond : [routine].length ≤ position - routines.length := by
            rw [List.length_singleton]
            omega
          rw [List.getElem?_eq_none beyond, List.getElem?_eq_none (by omega)]
    rw [team, parts]
    exact ih.add (List.getElem?_eq_none (Nat.le_refl _))

end Team

end UpgradeDrill
