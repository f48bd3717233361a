/-!
# Bytes as base-64 text

The standard alphabet. Reading wants no bits left over, and allows the padding to be left out or cut
short, but not to be too long.
-/

namespace UpgradeDrill.Base64

/-- The six bits of a symbol. -/
def value? (c : Char) : Option Nat :=
  if 'A' ≤ c ∧ c ≤ 'Z' then some (c.toNat - 'A'.toNat)
  else if 'a' ≤ c ∧ c ≤ 'z' then some (c.toNat - 'a'.toNat + 26)
  else if '0' ≤ c ∧ c ≤ '9' then some (c.toNat - '0'.toNat + 52)
  else if c = '+' then some 62
  else if c = '/' then some 63
  else none

/-- The bytes of six-bit values, four of which make three bytes; the bits of a shorter group that
fill no byte must be zero. -/
def unpack? : List Nat → Option (List UInt8)
  | [] => some []
  | [_] => none
  | [a, b] => if b % 16 = 0 then some [UInt8.ofNat (a * 4 + b / 16)] else none
  | [a, b, c] =>
    if c % 4 = 0 then
      some [UInt8.ofNat (a * 4 + b / 16), UInt8.ofNat (b % 16 * 16 + c / 4)]
    else none
  | a :: b :: c :: d :: rest => do
    let bytes ← unpack? rest
    return UInt8.ofNat (a * 4 + b / 16) :: UInt8.ofNat (b % 16 * 16 + c / 4) ::
      UInt8.ofNat (c % 4 * 64 + d) :: bytes

/-- Reads symbols up to the padding, which fills up the last group of four at most. -/
def decode? (text : List Char) : Option (List UInt8) := do
  let symbols := text.takeWhile (· ≠ '=')
  let padding := text.dropWhile (· ≠ '=')
  guard (padding.all (· = '='))
  guard (padding.length ≤ (4 - symbols.length % 4) % 4)
  unpack? (← symbols.mapM value?)

end UpgradeDrill.Base64
