/-!
# Shortest decimals

A floating-point number stands for all reals that round to it. Its shortest decimal is the one with
the fewest digits among those reals, the nearest of them, and of two equally near the even one.
-/

namespace UpgradeDrill.Shortest

/-- A positive dyadic number with the reals that round to it, all in units of `up / down`. -/
structure Binade where
  value : Nat
  low : Nat
  high : Nat
  /-- Whether the two ends of the interval round to the number as well. -/
  closed : Bool
  up : Nat
  down : Nat

/-- How many numbers have one exponent. -/
def fractionSize : Nat := Nat.pow 2 52

/-- The magnitude of a finite number. -/
def Binade.ofFloat (x : Float) : Binade :=
  let bits := x.toBits.toNat
  let power := bits / fractionSize % 2048
  let fraction := bits % fractionSize
  let significand := if power = 0 then fraction else fraction + fractionSize
  -- Units are quarters of the last binary place, 2 ^ (power - 1075), so every end is whole.
  let below := if fraction = 0 ∧ 1 < power then 1 else 2
  let place := max power 1
  { value := 4 * significand
    low := 4 * significand - below
    high := 4 * significand + 2
    closed := significand % 2 = 0
    up := Nat.pow 2 (place - 1077)
    down := Nat.pow 2 (1077 - place) }

/-- A decimal, `digits · 10 ^ power`. -/
structure Decimal where
  digits : Nat
  power : Int
  deriving DecidableEq, Repr

/-- The power of ten of the first digit of `num / den`, both positive. -/
def leadingPower (num den : Nat) : Int :=
  let shift : Int := (Nat.toDigits 10 den).length - (Nat.toDigits 10 num).length
  if den * Nat.pow 10 (-shift).toNat ≤ num * Nat.pow 10 shift.toNat then -shift else -shift - 1

/-- Whether a decimal rounds to the number. -/
def Binade.contains (b : Binade) (d : Decimal) : Bool :=
  let point := d.digits * Nat.pow 10 d.power.toNat * b.down
  let low := b.low * b.up * Nat.pow 10 (-d.power).toNat
  let high := b.high * b.up * Nat.pow 10 (-d.power).toNat
  if b.closed then low ≤ point && point ≤ high else low < point && point < high

/-- The better of the two neighbours of the number among the decimals with a given last place. -/
def Binade.neighbour? (b : Binade) (power : Int) : Option Decimal :=
  let num := b.value * b.up * Nat.pow 10 (-power).toNat
  let den := b.down * Nat.pow 10 power.toNat
  let lower := num / den
  let below : Decimal := ⟨lower, power⟩
  let above : Decimal := ⟨lower + 1, power⟩
  let twice := 2 * (num % den)
  match b.contains below && decide (0 < lower), b.contains above with
  | true, true =>
    if twice < den ∨ (twice = den ∧ lower % 2 = 0) then some below else some above
  | true, false => some below
  | false, true => some above
  | false, false => none

/-- The shortest decimal of a number that is finite and not zero: its digits, the last of them not
zero, and the power of ten of the last. -/
def ofFloat (x : Float) : List Char × Int :=
  let b := Binade.ofFloat x
  let first := leadingPower (b.value * b.up) b.down
  let found := (List.range 17).findSome? fun (more : Nat) => b.neighbour? (first - more)
  let decimal := found.getD ⟨0, 0⟩
  let digits := Nat.toDigits 10 decimal.digits
  let short := (digits.reverse.dropWhile (· == '0')).reverse
  (short, decimal.power + (digits.length - short.length : Nat))

end UpgradeDrill.Shortest
