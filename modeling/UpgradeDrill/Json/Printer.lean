import UpgradeDrill.Json.Basic
import UpgradeDrill.Text.Hex
import UpgradeDrill.Text.Shortest

/-!
# JSON text: writing

The compact form: no blanks, members in the order of their keys, and only those characters escaped
that must be.
-/

namespace UpgradeDrill.Json

def escape (c : Char) : List Char :=
  if c = '"' then ['\\', '"']
  else if c = '\\' then ['\\', '\\']
  else if c = '\n' then ['\\', 'n']
  else if c = '\t' then ['\\', 't']
  else if c = '\r' then ['\\', 'r']
  else if c.toNat = 8 then ['\\', 'b']
  else if c.toNat = 12 then ['\\', 'f']
  else if c.toNat < 32 then
    ['\\', 'u', '0', '0', Hex.digit (c.toNat / 16), Hex.digit (c.toNat % 16)]
  else [c]

def quote (text : String) : List Char := '"' :: text.toList.flatMap escape ++ ['"']

/-- A positive decimal: positional if its point stands within sixteen digits of the first digit, or
less than five places before it, else with an exponent and its sign. -/
def renderDecimal (digits : List Char) (power : Int) : List Char :=
  let point := digits.length + power
  if 0 ≤ power ∧ point ≤ 16 then digits ++ List.replicate power.toNat '0' ++ ['.', '0']
  else if 0 < point ∧ point ≤ 16 then
    digits.take point.toNat ++ '.' :: digits.drop point.toNat
  else if -5 < point ∧ point ≤ 0 then
    '0' :: '.' :: List.replicate (-point).toNat '0' ++ digits
  else
    let exponent := (if 0 < point then ['+'] else []) ++ (toString (point - 1)).toList
    match digits with
    | first :: second :: rest => first :: '.' :: second :: rest ++ 'e' :: exponent
    | digits => digits ++ 'e' :: exponent

/-- A floating-point number, always with a fraction or an exponent. -/
def renderFloat (x : Float) : List Char :=
  let negative := decide (UInt64.size / 2 ≤ x.toBits.toNat)
  let magnitude :=
    if x == 0 then ['0', '.', '0']
    else renderDecimal (Shortest.ofFloat x).1 (Shortest.ofFloat x).2
  if negative then '-' :: magnitude else magnitude

def renderNumber : JsonNumber → List Char
  | .int value => (toString value).toList
  | .float value => renderFloat value

mutual

def renderChars : Json → List Char
  | null => "null".toList
  | bool true => "true".toList
  | bool false => "false".toList
  | num value => renderNumber value
  | str value => quote value
  | arr [] => ['[', ']']
  | arr (item :: items) => '[' :: renderChars item ++ renderItems items
  | obj [] => ['\x7b', '\x7d']
  | obj ((key, value) :: members) =>
    '\x7b' :: quote key ++ ':' :: renderChars value ++ renderMembers members

/-- The items after the first, and the end of the array. -/
def renderItems : List Json → List Char
  | [] => [']']
  | item :: items => ',' :: renderChars item ++ renderItems items

/-- The members after the first, and the end of the object. -/
def renderMembers : List (String × Json) → List Char
  | [] => ['\x7d']
  | (key, value) :: members =>
    ',' :: quote key ++ ':' :: renderChars value ++ renderMembers members

end

def render (value : Json) : String := String.ofList (renderChars value)

end UpgradeDrill.Json
