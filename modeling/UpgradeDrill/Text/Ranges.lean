/-!
# Ranges of characters

Classes of characters as ranges of their numbers, in ascending order.
-/

namespace UpgradeDrill

/-- Whether a number lies in one of some ranges, each given by its first and its last number, in
ascending order. -/
def inRanges (n : Nat) : List (Nat × Nat) → Bool
  | [] => false
  | (first, last) :: rest => first ≤ n && (n ≤ last || inRanges n rest)

end UpgradeDrill
