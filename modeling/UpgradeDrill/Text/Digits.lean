/-!
# Numbers in digits

Natural numbers read from digits in a base up to sixteen. A whole text is a number or it is not:
nothing is skipped, and a number that reaches the limit is refused rather than wrapped.
-/

namespace UpgradeDrill.Digits

/-- The value of a character as a digit, letters counting from ten in either case. -/
def value? (base : Nat) (c : Char) : Option Nat :=
  let value :=
    if '0' ≤ c ∧ c ≤ '9' then some (c.toNat - '0'.toNat)
    else if 'a' ≤ c ∧ c ≤ 'f' then some (c.toNat - 'a'.toNat + 10)
    else if 'A' ≤ c ∧ c ≤ 'F' then some (c.toNat - 'A'.toNat + 10)
    else none
  value.filter (· < base)

/-- Appends digits to a number read so far. -/
def append? (base : Nat) (number : Nat) : List Char → Option Nat
  | [] => some number
  | c :: rest => do append? base (number * base + (← value? base c)) rest

/-- One or more digits. -/
def natural? (base : Nat) : List Char → Option Nat
  | [] => none
  | digits => append? base 0 digits

/-- An optional plus sign and one or more digits of a number below the limit. -/
def below? (base limit : Nat) : List Char → Option Nat
  | '+' :: digits => (natural? base digits).filter (· < limit)
  | digits => (natural? base digits).filter (· < limit)

end UpgradeDrill.Digits

namespace UpgradeDrill

def maxUInt64 : Nat := UInt64.size - 1

def uint128Size : Nat := UInt64.size * UInt64.size

def maxUInt32 : Nat := UInt32.size - 1

end UpgradeDrill
