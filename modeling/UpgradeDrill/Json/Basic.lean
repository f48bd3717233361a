/-!
# JSON values

An object keeps its members in the order of their keys, each key once; the last of several members
with one key counts.
-/

namespace UpgradeDrill

/-- A JSON number: an integer of at most 64 bits, or else a floating-point number. -/
inductive JsonNumber where
  | int (value : Int)
  | float (value : Float)

inductive Json where
  | null
  | bool (value : Bool)
  | num (value : JsonNumber)
  | str (value : String)
  | arr (items : List Json)
  | obj (members : List (String × Json))

namespace Json

/-- Sets a member in a list ordered by key. -/
def insertMember (key : String) (value : Json) : List (String × Json) → List (String × Json)
  | [] => [(key, value)]
  | (other, kept) :: rest =>
    if key < other then (key, value) :: (other, kept) :: rest
    else if key = other then (key, value) :: rest
    else (other, kept) :: insertMember key value rest

/-- The object with the given members, the last of several with one key. -/
def ofMembers (members : List (String × Json)) : Json :=
  .obj (members.foldl (fun sorted (key, value) => insertMember key value sorted) [])

def get? : Json → String → Option Json
  | obj members, key => members.lookup key
  | _, _ => none

def ofNat (n : Nat) : Json := .num (.int n)

end Json

end UpgradeDrill
