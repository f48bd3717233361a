/-!
# Replies laid down in advance

A source gives one reply after another, the last one again and again, or gives replies by the time
at which they are asked for.
-/

namespace UpgradeDrill

/-- Replies to requests of one kind. -/
inductive Source (α : Type) where
  /-- One reply for each request, the last one for all that follow. -/
  | inTurn (replies : List α)
  /-- Replies with the times from which they are given. -/
  | timeline (entries : List (Nat × α))

namespace Source

variable {α : Type}

/-- The reply to a request made at some time, if there is one, and the source from then on. -/
def next (now : Nat) : Source α → Option α × Source α
  | inTurn [] => (none, inTurn [])
  | inTurn [reply] => (some reply, inTurn [reply])
  | inTurn (reply :: rest) => (some reply, inTurn rest)
  | timeline entries =>
    ((entries.filter (·.1 ≤ now)).getLast?.map (·.2), timeline entries)

end Source

abbrev Sources (κ α : Type) : Type := List (κ × Source α)

/-- The reply to a request of some kind, if there is one, and the sources from then on. -/
def Sources.next {κ α : Type} [DecidableEq κ] (kind : κ) (now : Nat) :
    Sources κ α → Option α × Sources κ α
  | [] => (none, [])
  | (other, source) :: rest =>
    if other = kind then
      let (reply, source) := source.next now
      (reply, (other, source) :: rest)
    else
      let (reply, rest) := Sources.next kind now rest
      (reply, (other, source) :: rest)

end UpgradeDrill
