import UpgradeDrill.Text.Utf8
import UpgradeDrill.Wire.Field

/-!
# Encoded messages

A message is written as its fields in the order of their numbers, leaving out those that have their
default value. It is read field by field into a message that begins with all defaults: of a plain
field the last one counts, a repeated field grows, an embedded message takes in the new fields, and
fields that the message does not have are ignored.
-/

namespace UpgradeDrill.Wire

class Message (M : Type) where
  /-- The message with no field set. -/
  blank : M
  fields : M → List Field
  /-- Takes in a field, with embedded messages at most `depth` deep. -/
  absorb (depth : Nat) : M → Field → Option M

/-- How deep messages and groups may be nested. -/
def maxDepth : Nat := 100

def encodeFields (fields : List Field) : List UInt8 := fields.flatMap Field.encode

def encode {M : Type} [Message M] (message : M) : List UInt8 :=
  encodeFields (Message.fields message)

/-- A message with the fields that bytes spell taken in. -/
def extend? {M : Type} [Message M] (depth : Nat) (message : M) (bytes : List UInt8) : Option M := do
  (← readFields depth bytes).foldlM (Message.absorb depth) message

def decode? {M : Type} [Message M] (bytes : List UInt8) : Option M :=
  extend? maxDepth Message.blank bytes

/-- The field of a number, left out if it is zero. -/
def numberField (number value : Nat) : List Field :=
  if value = 0 then [] else [⟨number, .varint value⟩]

/-- The field of some bytes, left out if there are none. -/
def bytesField (number : Nat) (bytes : List UInt8) : List Field :=
  if bytes.isEmpty then [] else [⟨number, .delimited bytes⟩]

/-- The field of a text, left out if it is empty. -/
def textField (number : Nat) (text : String) : List Field := bytesField number (Utf8.encode text)

/-- The fields of repeated bytes, none left out. -/
def repeatedField (number : Nat) (items : List (List UInt8)) : List Field :=
  items.map fun bytes => ⟨number, .delimited bytes⟩

def Payload.number? : Payload → Option Nat
  | .varint value => some value
  | _ => none

def Payload.bytes? : Payload → Option (List UInt8)
  | .delimited bytes => some bytes
  | _ => none

def Payload.text? (payload : Payload) : Option String := payload.bytes?.bind Utf8.decode?

/-- The message that a field holds, taken into one that is there already. -/
def Payload.into? {M : Type} [Message M] (payload : Payload) (depth : Nat) (message : M) :
    Option M :=
  match depth with
  | 0 => none
  | depth + 1 => payload.bytes?.bind (extend? depth message)

end UpgradeDrill.Wire
