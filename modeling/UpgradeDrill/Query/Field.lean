import UpgradeDrill.Query.Error
import UpgradeDrill.Text.Digits

/-!
# Fields of replies

Reading a field that a reply must have. Integers may be written as numbers or as decimal texts, and
quantities as texts of hexadecimal digits behind `0x`.
-/

namespace UpgradeDrill.Json

def dotted (path : List String) : String := ".".intercalate path

/-- The value at the end of a path of object members. -/
def follow? : Json → List String → Option Json
  | value, [] => some value
  | value, key :: path => (value.get? key).bind fun member => follow? member path

/-- The value at the end of a path, which must be there. -/
def field (value : Json) (path : List String) : Except QueryError Json :=
  match follow? value path with
  | some found => .ok found
  | none => .error (.missingField (dotted path))

/-- The 64-bit natural number that a value is or spells. -/
def toUInt64? : Json → Option Nat
  | num (.int value) => if 0 ≤ value ∧ value < UInt64.size then some value.toNat else none
  | str text => Digits.below? 10 UInt64.size text.toList
  | _ => none

def toText? : Json → Option String
  | str text => some text
  | _ => none

/-- Reads a value that must be there and of a kind. -/
def fieldAs {α : Type} (read? : Json → Option α) (value : Json) (path : List String) :
    Except QueryError α :=
  match value.field path with
  | .error error => .error error
  | .ok found =>
    match read? found with
    | some result => .ok result
    | none => .error (.invalidField (dotted path) found)

def uint64Field (value : Json) (path : List String) : Except QueryError Nat :=
  fieldAs toUInt64? value path

def textField (value : Json) (path : List String) : Except QueryError String :=
  fieldAs toText? value path

/-- The number below a limit that a text of hexadecimal digits behind `0x` spells. -/
def toQuantity? (limit : Nat) : Json → Option Nat
  | str text =>
    match text.toList with
    | '0' :: 'x' :: digits => Digits.below? 16 limit digits
    | _ => none
  | _ => none

/-- A quantity of at most 128 bits. -/
def quantity (value : Json) : Except QueryError Nat :=
  match toQuantity? uint128Size value with
  | some n => .ok n
  | none => .error (.invalidField "quantity" value)

/-- A block number: a quantity of at most 64 bits. -/
def blockNumber (value : Json) : Except QueryError Nat :=
  match value.quantity with
  | .error error => .error error
  | .ok n => if n < UInt64.size then .ok n else .error (.invalidField "quantity" value)

end UpgradeDrill.Json
