/-!
# Reading from the front

What a reader took from the front of its input, with the rest and the fact that the rest is shorter,
so that reading on ends.
-/

namespace UpgradeDrill

/-- A value read from the front of a list, and what is left of the list. -/
structure Found (α : Type) {τ : Type} (input : List τ) where
  value : α
  rest : List τ
  shorter : rest.length < input.length

namespace Found

variable {α β τ : Type} {input more : List τ}

def map (f : α → β) (found : Found α input) : Found β input :=
  ⟨f found.value, found.rest, found.shorter⟩

/-- The first element stands for a value. -/
def head (first : τ) (value : α) : Found α (first :: input) := ⟨value, input, Nat.lt_succ_self _⟩

/-- What was read from the end of a list was read from the list. -/
def within (h : input.length ≤ more.length) (found : Found α input) : Found α more :=
  ⟨found.value, found.rest, Nat.lt_of_lt_of_le found.shorter h⟩

/-- What was read after the first element. -/
def after (first : τ) (found : Found α input) : Found α (first :: input) :=
  found.within (Nat.le_succ _)

/-- What was read, if a certain element follows it, which goes with it. -/
def followedBy? [DecidableEq τ] (mark : τ) (found : Found α input) : Option (Found α input) :=
  match h : found.rest with
  | [] => none
  | next :: rest =>
    if next = mark then
      have shorter : (next :: rest).length < input.length := h ▸ found.shorter
      some ⟨found.value, rest, Nat.lt_of_succ_lt shorter⟩
    else none

end Found

end UpgradeDrill
