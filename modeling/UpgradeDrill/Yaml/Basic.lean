import UpgradeDrill.Text.Digits

/-!
# YAML values

A value is kept as it was written, and its meaning is settled by whoever reads it: a plain scalar
may be taken as a text, a number or a truth value, a quoted one only as a text.
-/

namespace UpgradeDrill

inductive Yaml where
  | scalar (text : String) (plain : Bool)
  | items (items : List Yaml)
  | entries (entries : List (Yaml × Yaml))

namespace Yaml

/-- The value that is not written. -/
def empty : Yaml := scalar "" true

def toText? : Yaml → Option String
  | scalar text _ => some text
  | _ => none

def toPlain? : Yaml → Option String
  | scalar text true => some text
  | _ => none

/-- The truth value that a plain scalar spells. -/
def toBool? (value : Yaml) : Option Bool := do
  let text ← value.toPlain?
  if ["true", "True", "TRUE"].contains text then return true
  else if ["false", "False", "FALSE"].contains text then return false
  else none

/-- The digits of a number with its base, by what is written before them. -/
def natural? : List Char → Option Nat
  | '0' :: 'x' :: digits => Digits.natural? 16 digits
  | '0' :: 'o' :: digits => Digits.natural? 8 digits
  | '0' :: 'b' :: digits => Digits.natural? 2 digits
  | '0' :: _ :: _ => none
  | digits => Digits.natural? 10 digits

/-- The 64-bit natural number that a plain scalar spells. Decimal digits do not begin with a zero,
and a plus sign may stand in front. -/
def toUInt64? (value : Yaml) : Option Nat := do
  let text ← value.toPlain?
  let n ←
    match text.toList with
    | '+' :: digits => natural? digits
    | digits => natural? digits
  if n ≤ maxUInt64 then return n else none

/-- Reads a value that may be null. -/
def toOption? {α : Type} (read? : Yaml → Option α) (value : Yaml) : Option (Option α) :=
  match value.toPlain? with
  | some text =>
    if ["", "~", "null", "Null", "NULL"].contains text then some none else (read? value).map some
  | none => (read? value).map some

/-- Reads a sequence. A value that is not written is an empty one. -/
def toList? {α : Type} (read? : Yaml → Option α) : Yaml → Option (List α)
  | items values => values.mapM read?
  | value => if value.toPlain? = some "" then some [] else none

/-- The entries of a mapping by the texts of their keys. A value that is not written is an empty
mapping. -/
def toEntries? : Yaml → Option (List (String × Yaml))
  | entries values => values.mapM fun (key, value) => key.toText?.map fun key => (key, value)
  | value => if value.toPlain? = some "" then some [] else none

/-- Replaces the entry with a key, or adds it at the end. -/
def assign {κ α : Type} [BEq κ] (key : κ) (value : α) : List (κ × α) → List (κ × α)
  | [] => [(key, value)]
  | (other, kept) :: rest =>
    if other == key then (key, value) :: rest else (other, kept) :: assign key value rest

/-- Reads a mapping with any keys. Of several entries with one key the last one counts. -/
def toMap? {κ α : Type} [BEq κ] (readKey? : String → Option κ) (read? : Yaml → Option α)
    (value : Yaml) : Option (List (κ × α)) := do
  (← value.toEntries?).foldlM (fun map (key, value) => do
    return assign (← readKey? key) (← read? value) map) []

/-- The entries of a mapping whose keys are names of fields. A field is given at most once, and
keys that name no field are ignored. -/
def toFields? (names : List String) (value : Yaml) : Option (List (String × Yaml)) := do
  let fields := (← value.toEntries?).filter fun (key, _) => names.contains key
  if (fields.map (·.1)).eraseDups.length = fields.length then return fields else none

def required? {α : Type} (read? : Yaml → Option α) (fields : List (String × Yaml)) (name : String) :
    Option α :=
  (fields.lookup name).bind read?

def optional? {α : Type} (read? : Yaml → Option α) (default : α) (fields : List (String × Yaml))
    (name : String) : Option α :=
  match fields.lookup name with
  | some value => read? value
  | none => some default

end Yaml

end UpgradeDrill
