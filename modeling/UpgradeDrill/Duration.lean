/-!
# Durations

Lengths of time are natural numbers of nanoseconds, and a reading of a clock is the time since the
clock started. Here are the units they are given in, and the short text in which messages show
them: the largest unit that fits, then a fraction without trailing zeros.
-/

namespace UpgradeDrill

namespace Duration

def ofMillis (count : Nat) : Nat := count * 1000000

def ofSecs (count : Nat) : Nat := count * 1000000000

def wholeSecs (span : Nat) : Nat := span / 1000000000

/-- The nanoseconds of a duration beyond its whole seconds. -/
def restNanos (span : Nat) : Nat := span % 1000000000

def wholeMillis (span : Nat) : Nat := span / 1000000

/-- The digits of `part` out of `10 ^ places`, without trailing zeros. -/
def fraction (places part : Nat) : List Char :=
  let digits := Nat.toDigits 10 part
  let padded := List.replicate (places - digits.length) '0' ++ digits
  (padded.reverse.dropWhile (· == '0')).reverse

/-- A number of units with `10 ^ places` parts each, `parts` parts in all. -/
def decimal (places parts : Nat) : String :=
  let whole := toString (parts / Nat.pow 10 places)
  match fraction places (parts % Nat.pow 10 places) with
  | [] => whole
  | digits => whole ++ "." ++ String.ofList digits

/-- The text of a duration: `90s`, `1.5ms`, `2µs`, `0ns`. -/
def render (span : Nat) : String :=
  if 1000000000 ≤ span then decimal 9 span ++ "s"
  else if 1000000 ≤ span then decimal 6 span ++ "ms"
  else if 1000 ≤ span then decimal 3 span ++ "µs"
  else toString span ++ "ns"

end Duration

end UpgradeDrill
