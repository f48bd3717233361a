import UpgradeDrill.Json.Basic

/-!
# JSON numbers

A number without fraction and exponent is an integer if it fits 64 bits. Any other number is read
as a significand of at most 64 bits, scaled in floating point by a power of ten: digits that the
significand has no room for are dropped, so the result can be a last place away from the nearest.
-/

namespace UpgradeDrill.JsonNumber

/-- The written parts of a number. -/
structure Parts where
  negative : Bool
  whole : List Char
  fraction : Option (List Char)
  /-- The digits of the exponent and whether it is negative, if there is one. -/
  exponent : Option (Bool × List Char)

def digit (c : Char) : Nat := c.toNat - '0'.toNat

/-- Appends digits to a significand until one does not fit. Gives the significand, how many digits
it took, and how many were left. -/
def gather (significand : Nat) (taken : Nat) : List Char → Nat × Nat × Nat
  | [] => (significand, taken, 0)
  | c :: rest =>
    let longer := significand * 10 + digit c
    if longer < UInt64.size then gather longer (taken + 1) rest
    else (significand, taken, rest.length + 1)

def tenTo (power : Nat) : Float := Float.ofScientific 1 false power

/-- Divides by `10 ^ power`, in steps for a large power. -/
def scaleDown (x : Float) (power : Nat) : Float :=
  if power ≤ 308 then x / tenTo power
  else if x == 0 then x
  else scaleDown (x / tenTo 308) (power - 308)
termination_by power
decreasing_by omega

/-- `significand · 10 ^ power`; `none` if that is too large. -/
def scale? (significand : Nat) (power : Int) : Option Float :=
  let x := (UInt64.ofNat significand).toFloat
  if power < 0 then some (scaleDown x (-power).toNat)
  else if power ≤ 308 then
    let scaled := x * tenTo power.toNat
    if scaled.isInf then none else some scaled
  else if x == 0 then some x
  else none

/-- The number that its parts stand for; `none` if it is too large. -/
def ofParts? (parts : Parts) : Option JsonNumber :=
  let signed (x : Float) : JsonNumber := .float (if parts.negative then -x else x)
  let (whole, _, dropped) := gather 0 0 parts.whole
  match parts.fraction, parts.exponent with
  | none, none =>
    if dropped = 0 then
      if parts.negative = false then some (.int whole)
      else if 0 < whole ∧ whole ≤ UInt64.size / 2 then some (.int (-whole))
      else some (signed (UInt64.ofNat whole).toFloat)
    else (scale? whole dropped).map signed
  | fraction, exponent =>
    let (significand, places, _) := gather whole 0 (fraction.getD [])
    let power : Int := dropped - places
    match exponent with
    | none => (scale? significand power).map signed
    | some (negative, digits) =>
      let size := digits.foldl (fun n c => n * 10 + digit c) 0
      if size < UInt32.size / 2 then
        (scale? significand (if negative then power - size else power + size)).map signed
      else if significand ≠ 0 ∧ negative = false then none
      else some (signed 0)

end UpgradeDrill.JsonNumber
