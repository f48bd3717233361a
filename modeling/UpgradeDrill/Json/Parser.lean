import UpgradeDrill.Json.Number
import UpgradeDrill.Text.Digits
import UpgradeDrill.Text.Found

/-!
# JSON text: reading

Each reader takes its part from the front of a text and gives the rest, which is always shorter.
Arrays and objects may be nested less than 128 deep.
-/

namespace UpgradeDrill.Json

def isSpace (c : Char) : Bool := c = ' ' || c = '\n' || c = '\t' || c = '\r'

def skipSpace (text : List Char) : List Char := text.dropWhile isSpace

theorem length_skipSpace_le (text : List Char) : (skipSpace text).length ≤ text.length :=
  (List.dropWhile_sublist _).length_le

/-- The character that an escape of one letter stands for. -/
def unescape? (c : Char) : Option Char :=
  if c = '"' ∨ c = '\\' ∨ c = '/' then some c
  else if c = 'b' then some (Char.ofNat 8)
  else if c = 'f' then some (Char.ofNat 12)
  else if c = 'n' then some '\n'
  else if c = 'r' then some '\r'
  else if c = 't' then some '\t'
  else none

/-- The number that four hexadecimal digits spell. -/
def unit? (a b c d : Char) : Option Nat := Digits.append? 16 0 [a, b, c, d]

/-- A string after its opening quote. -/
def readString : (text : List Char) → Option (Found (List Char) text)
  | [] => none
  | '"' :: _ => some (.head '"' [])
  | '\\' :: 'u' :: a :: b :: c :: d :: rest => do
    let unit ← unit? a b c d
    if 0xd800 ≤ unit ∧ unit < 0xdc00 then
      match h : rest with
      | '\\' :: 'u' :: a :: b :: c :: d :: rest =>
        let low ← unit? a b c d
        if 0xdc00 ≤ low ∧ low < 0xe000 then
          let found ← readString rest
          let c := Char.ofNat (0x10000 + (unit - 0xd800) * 0x400 + (low - 0xdc00))
          return (found.map (c :: ·)).within (by simp [h]; omega)
        else none
      | _ => none
    else if 0xdc00 ≤ unit ∧ unit < 0xe000 then none
    else
      let found ← readString rest
      return (found.map (Char.ofNat unit :: ·)).within (by simp only [List.length_cons]; omega)
  | '\\' :: letter :: rest => do
    let c ← unescape? letter
    let found ← readString rest
    return ((found.map (c :: ·)).after letter).after '\\'
  | c :: rest =>
    if c.toNat < 32 ∨ c = '\\' then none
    else do
      let found ← readString rest
      return (found.map (c :: ·)).after c

/-- The digits at the front of a text, at least one. -/
def readDigits (text : List Char) : Option (Found (List Char) text) :=
  match h : text.takeWhile Char.isDigit with
  | [] => none
  | digit :: digits =>
    some ⟨digit :: digits, text.dropWhile Char.isDigit, by
      have := congrArg List.length (List.takeWhile_append_dropWhile (p := Char.isDigit) (l := text))
      simp only [h, List.length_append, List.length_cons] at this
      omega⟩

/-- An exponent, at the front of a text that may have none. -/
def readExponent (text : List Char) :
    Option (Option (Bool × List Char) × { rest : List Char // rest.length ≤ text.length }) :=
  match text with
  | c :: rest =>
    if c = 'e' ∨ c = 'E' then
      match rest with
      | '-' :: rest => (readDigits rest).map fun found =>
        (some (true, found.value), ⟨found.rest, Nat.le_of_lt ((found.after _).after _).shorter⟩)
      | '+' :: rest => (readDigits rest).map fun found =>
        (some (false, found.value), ⟨found.rest, Nat.le_of_lt ((found.after _).after _).shorter⟩)
      | rest => (readDigits rest).map fun found =>
        (some (false, found.value), ⟨found.rest, Nat.le_of_lt (found.after _).shorter⟩)
    else some (none, ⟨c :: rest, Nat.le_refl _⟩)
  | [] => some (none, ⟨[], Nat.le_refl _⟩)

/-- A number without its sign. -/
def readUnsigned (negative : Bool) (text : List Char) : Option (Found JsonNumber text) := do
  let whole ← readDigits text
  if whole.value.head? = some '0' ∧ whole.value ≠ ['0'] then none
  else
    match h : whole.rest with
    | '.' :: rest =>
      let fraction ← readDigits rest
      let (exponent, ⟨rest, bound⟩) ← readExponent fraction.rest
      let number ← JsonNumber.ofParts? ⟨negative, whole.value, some fraction.value, exponent⟩
      return ⟨number, rest, by
        have := whole.shorter; have := fraction.shorter; simp [h] at *; omega⟩
    | _ =>
      let (exponent, ⟨rest, bound⟩) ← readExponent whole.rest
      let number ← JsonNumber.ofParts? ⟨negative, whole.value, none, exponent⟩
      return ⟨number, rest, by have := whole.shorter; omega⟩

def readWord (word : List Char) (value : Json) (text : List Char) : Option (Found Json text) :=
  if h : 0 < word.length ∧ word <+: text then
    some ⟨value, text.drop word.length, by
      have := h.2.length_le
      simp only [List.length_drop]
      omega⟩
  else none

mutual

/-- A value at the front of a text, with at most `depth` levels of nesting. -/
def readValue (depth : Nat) (text : List Char) : Option (Found Json text) :=
  match h : skipSpace text with
  | [] => none
  | c :: rest => do
    have bound : rest.length < text.length := by
      have := length_skipSpace_le text
      simp only [h, List.length_cons] at this
      omega
    if c = '"' then
      let found ← readString rest
      return (found.map (.str ∘ String.ofList)).within (Nat.le_of_lt bound)
    else if c = '[' then
      match depth, h' : skipSpace rest with
      | 0, _ => none
      | _, ']' :: after =>
        return ⟨.arr [], after, by
          have := length_skipSpace_le rest; simp only [h', List.length_cons] at this; omega⟩
      | depth + 1, _ =>
        let found ← readItems depth rest
        return (found.map .arr).within (Nat.le_of_lt bound)
    else if c = '\x7b' then
      match depth, h' : skipSpace rest with
      | 0, _ => none
      | _, '\x7d' :: after =>
        return ⟨.obj [], after, by
          have := length_skipSpace_le rest; simp only [h', List.length_cons] at this; omega⟩
      | depth + 1, _ =>
        let found ← readMembers depth rest
        return (found.map ofMembers).within (Nat.le_of_lt bound)
    else if c = '-' then
      let found ← readUnsigned true rest
      return (found.map .num).within (Nat.le_of_lt bound)
    else if c.isDigit then
      let found ← readUnsigned false (c :: rest)
      return (found.map .num).within (h ▸ length_skipSpace_le text)
    else
      let found ← readWord "null".toList .null (c :: rest) <|>
        readWord "true".toList (.bool true) (c :: rest) <|>
        readWord "false".toList (.bool false) (c :: rest)
      return found.within (h ▸ length_skipSpace_le text)
termination_by 2 * text.length

/-- The items of an array, at least one, and its end. -/
def readItems (depth : Nat) (text : List Char) : Option (Found (List Json) text) := do
  let item ← readValue depth text
  match h : skipSpace item.rest with
  | c :: rest =>
    have bound : rest.length < text.length := by
      have := length_skipSpace_le item.rest
      have := item.shorter
      simp only [h, List.length_cons] at *
      omega
    if c = ']' then return ⟨[item.value], rest, bound⟩
    else if c = ',' then
      let items ← readItems depth rest
      return (items.map (item.value :: ·)).within (Nat.le_of_lt bound)
    else none
  | [] => none
termination_by 2 * text.length + 1

/-- The members of an object, at least one, and its end. -/
def readMembers (depth : Nat) (text : List Char) : Option (Found (List (String × Json)) text) := do
  match h : skipSpace text with
  | '"' :: text' =>
    let key ← readString text'
    match h' : skipSpace key.rest with
    | ':' :: text'' =>
      have bound : text''.length < text.length := by
        have := length_skipSpace_le text
        have := length_skipSpace_le key.rest
        have := key.shorter
        simp only [h, h', List.length_cons] at *
        omega
      let value ← readValue depth text''
      let member := (String.ofList key.value, value.value)
      match h'' : skipSpace value.rest with
      | c :: rest =>
        have bound : rest.length < text.length := by
          have := length_skipSpace_le value.rest
          have := value.shorter
          simp only [h'', List.length_cons] at *
          omega
        if c = '\x7d' then return ⟨[member], rest, bound⟩
        else if c = ',' then
          let members ← readMembers depth rest
          return (members.map (member :: ·)).within (Nat.le_of_lt bound)
        else none
      | [] => none
    | _ => none
  | _ => none
termination_by 2 * text.length + 1

end

/-- The value that a whole text spells. -/
def parse? (text : String) : Option Json := do
  let found ← readValue 127 text.toList
  if skipSpace found.rest = [] then return found.value else none

end UpgradeDrill.Json
