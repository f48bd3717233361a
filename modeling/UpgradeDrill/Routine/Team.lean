import UpgradeDrill.Routine.Basic

/-!
# Teams

Routines that are under way together, as one tree: it branches by which of them goes on, and then
by what that one is told. Whoever runs a team chooses the next member at every step, so a team knows
nothing of time.
-/

namespace UpgradeDrill

mutual

/-- Routines under way together: what each of them does next, by its position in a list. -/
inductive Team (I : Interface) (α : Type) where
  | mk (member : Nat → Member I α)

/-- What a member of a team does next, and the team after that. -/
inductive Member (I : Interface) (α : Type) where
  | absent
  | ended (value : α) (rest : Team I α)
  | ask (request : I.Request) (next : I.Reply request → (took : Nat) → Team I α)
  | wait (pause : Nat) (next : Team I α)
  | clock (next : (now : Nat) → Team I α)

end

variable {I : Interface} {α : Type}

mutual

/-- Gives a team one more member, which does what `act` says of the team that is there then. -/
def Team.insert (position : Nat) (act : Team I α → Member I α) : Team I α → Team I α
  | .mk member =>
    .mk fun other =>
      if other = position then act (.mk member) else (member other).insert position act

/-- What a member does next once the team has one more member. -/
def Member.insert (position : Nat) (act : Team I α → Member I α) : Member I α → Member I α
  | .absent => .absent
  | .ended value rest => .ended value (rest.insert position act)
  | .ask request next => .ask request fun reply took => (next reply took).insert position act
  | .wait pause next => .wait pause (next.insert position act)
  | .clock next => .clock fun now => (next now).insert position act

end

namespace Team

def empty : Team I α := .mk fun _ => .absent

/-- Adds a routine in a position that no member has. -/
def add (position : Nat) : Routine I α → Team I α → Team I α
  | .done value => insert position fun rest => .ended value rest
  | .ask request next =>
    insert position fun rest => .ask request fun reply took => add position (next reply took) rest
  | .wait pause next => insert position fun rest => .wait pause (add position next rest)
  | .clock next => insert position fun rest => .clock fun now => add position (next now) rest

/-- The team of the routines in a list. -/
def ofList (routines : List (Routine I α)) : Team I α :=
  routines.zipIdx.foldl (fun team (routine, position) => team.add position routine) empty

end Team

end UpgradeDrill
