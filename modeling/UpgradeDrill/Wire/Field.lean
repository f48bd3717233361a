import UpgradeDrill.Text.Found
import UpgradeDrill.Wire.Varint

/-!
# Fields of encoded messages

An encoded message is a sequence of numbered fields. Which fields a message has, and what they mean,
is not decided here: every well-formed field is read. A group is read to its end, and its contents
are dropped.
-/

namespace UpgradeDrill.Wire

/-- What a field holds, by the form in which it is written. -/
inductive Payload where
  | varint (value : Nat)
  | fixed64 (bytes : List UInt8)
  | delimited (bytes : List UInt8)
  | group
  | fixed32 (bytes : List UInt8)
  deriving DecidableEq, Repr

structure Field where
  number : Nat
  payload : Payload
  deriving DecidableEq, Repr

/-- The key of a field: its number and the form of what it holds. -/
def encodeKey (number form : Nat) : List UInt8 := encodeVarint (number * 8 + form)

/-- The bytes of a field. A group is written without contents. -/
def Field.encode (field : Field) : List UInt8 :=
  match field.payload with
  | .varint value => encodeKey field.number 0 ++ encodeVarint value
  | .fixed64 bytes => encodeKey field.number 1 ++ bytes
  | .delimited bytes => encodeKey field.number 2 ++ encodeVarint bytes.length ++ bytes
  | .group => encodeKey field.number 3 ++ encodeKey field.number 4
  | .fixed32 bytes => encodeKey field.number 5 ++ bytes

def frontVarint (bytes : List UInt8) : Option (Found Nat bytes) :=
  match h : decodeVarint bytes with
  | none => none
  | some (value, rest) => some ⟨value, rest, length_lt_of_decodeVarint h⟩

/-- Reads a key: a positive number and a form below six. -/
def frontKey (bytes : List UInt8) : Option (Found (Nat × Nat) bytes) := do
  let ⟨key, rest, shorter⟩ ← frontVarint bytes
  if key < UInt32.size ∧ key % 8 < 6 ∧ 8 ≤ key then return ⟨(key / 8, key % 8), rest, shorter⟩
  else none

def takeBytes (count : Nat) (bytes : List UInt8) :
    Option (List UInt8 × { rest : List UInt8 // rest.length ≤ bytes.length }) :=
  if count ≤ bytes.length then
    some (bytes.take count, ⟨bytes.drop count, by rw [List.length_drop]; exact Nat.sub_le ..⟩)
  else none

mutual

/-- Reads what a field holds after its key, with groups at most `depth` deep. -/
def readPayload (depth number form : Nat) (bytes : List UInt8) :
    Option (Payload × { rest : List UInt8 // rest.length ≤ bytes.length }) :=
  match depth, form with
  | 0, _ => none
  | _, 0 => do
    let ⟨value, rest, shorter⟩ ← frontVarint bytes
    return (.varint value, ⟨rest, Nat.le_of_lt shorter⟩)
  | _, 1 => do
    let (taken, rest) ← takeBytes 8 bytes
    return (.fixed64 taken, rest)
  | _, 2 => do
    let ⟨size, rest, shorter⟩ ← frontVarint bytes
    let (taken, ⟨rest, le⟩) ← takeBytes size rest
    return (.delimited taken, ⟨rest, Nat.le_trans le (Nat.le_of_lt shorter)⟩)
  | depth + 1, 3 => do
    let ⟨rest, le⟩ ← skipGroup depth number bytes
    return (.group, ⟨rest, le⟩)
  | _, 5 => do
    let (taken, rest) ← takeBytes 4 bytes
    return (.fixed32 taken, rest)
  | _, _ => none
termination_by 2 * bytes.length + 1

/-- Reads fields to the end of a group with a given number. -/
def skipGroup (depth number : Nat) (bytes : List UInt8) :
    Option { rest : List UInt8 // rest.length ≤ bytes.length } := do
  let ⟨(inner, form), rest, shorter⟩ ← frontKey bytes
  if form = 4 then
    if inner = number then return ⟨rest, Nat.le_of_lt shorter⟩ else none
  else
    let (_, ⟨after, le⟩) ← readPayload depth inner form rest
    have : after.length < bytes.length := Nat.lt_of_le_of_lt le shorter
    let ⟨last, le⟩ ← skipGroup depth number after
    return ⟨last, Nat.le_trans le (Nat.le_of_lt this)⟩
termination_by 2 * bytes.length

end

def readField (depth : Nat) (bytes : List UInt8) : Option (Found Field bytes) := do
  let ⟨(number, form), rest, shorter⟩ ← frontKey bytes
  let (payload, ⟨rest, le⟩) ← readPayload depth number form rest
  return ⟨⟨number, payload⟩, rest, Nat.lt_of_le_of_lt le shorter⟩

def readFields (depth : Nat) (bytes : List UInt8) : Option (List Field) :=
  match bytes with
  | [] => some []
  | byte :: rest => do
    let ⟨field, rest, _⟩ ← readField depth (byte :: rest)
    return field :: (← readFields depth rest)
termination_by bytes.length
decreasing_by assumption

end UpgradeDrill.Wire
