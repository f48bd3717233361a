import UpgradeDrill.Yaml.Basic
import UpgradeDrill.Yaml.Token

/-!
# YAML text: reading

The value that the tokens of a text spell. What is left out after a mark stands for an empty value.
-/

namespace UpgradeDrill.Yaml

/-- What a part of a collection stands in. -/
inductive Place where
  | blockItems
  | blockEntries
  | flowItems
  | flowEntries
  deriving DecidableEq

def Place.inFlow : Place → Bool
  | blockItems | blockEntries => false
  | flowItems | flowEntries => true

/-- Whether a token shows that a part has been left out. -/
def Place.ends : Place → Token → Bool
  | blockItems, token => [.dash, .key, .colon, .endBlock].contains token
  | blockEntries, token => [.key, .colon, .endBlock].contains token
  | flowItems, token => [.colon, .comma, .closeItems].contains token
  | flowEntries, token => [.colon, .comma, .closeEntries].contains token

mutual

/-- A value at the front of tokens, `flow` if within brackets. A block sequence that is a key or a
value in a mapping may stand in the column of the mapping, and then it has no beginning and end of
its own. -/
def readValue (flow : Bool) (tokens : List Token) : Option (Found Yaml tokens) :=
  match tokens with
  | .scalar text plain :: _ => some (.head _ (.scalar text plain))
  | .openItems :: rest => do return ((← readFlowItems rest).map .items).after _
  | .openEntries :: rest => do return ((← readFlowEntries rest).map .entries).after _
  | .beginItems :: rest =>
    if flow then none
    else do return ((← (← readItems rest).followedBy? .endBlock).map .items).after _
  | .beginEntries :: rest =>
    if flow then none
    else do return ((← (← readEntries rest).followedBy? .endBlock).map .entries).after _
  | .dash :: rest => if flow then none else do return (← readItems (.dash :: rest)).map .items
  | _ => none
termination_by 4 * tokens.length + 1

/-- A part after a mark. -/
def readPart (place : Place) (mark : Token) (rest : List Token) :
    Option (Found Yaml (mark :: rest)) :=
  if rest.head?.any place.ends then some (.head mark empty)
  else do return (← readValue place.inFlow rest).after mark
termination_by 4 * rest.length + 2

/-- A key after its mark. If it is left out of a pair in a sequence in brackets, the token that
shows it is passed over. -/
def readKey (place : Place) (rest : List Token) : Option (Found Yaml (.key :: rest)) :=
  match place, rest with
  | .flowItems, next :: rest =>
    if Place.flowItems.ends next then some ((Found.head next empty).after .key)
    else readPart .flowItems .key (next :: rest)
  | place, rest => readPart place .key rest
termination_by 4 * rest.length + 3

/-- A key with its value, after the mark of the key. -/
def readPair (place : Place) (rest : List Token) : Option (Found (Yaml × Yaml) (.key :: rest)) := do
  let key ← readKey place rest
  match key.followedBy? .colon with
  | none => return key.map (·, empty)
  | some key =>
    have : key.rest.length < rest.length + 1 := key.shorter
    let value ← readPart place .colon key.rest
    return (value.map (key.value, ·)).within (by exact key.shorter)
termination_by 4 * rest.length + 4

/-- The items of a block sequence, of which there is at least one. -/
def readItems (tokens : List Token) : Option (Found (List Yaml) tokens) :=
  match tokens with
  | .dash :: rest => do
    let item ← readPart .blockItems .dash rest
    have : item.rest.length < rest.length + 1 := item.shorter
    if item.rest.head? = some .dash then
      let found ← readItems item.rest
      return (found.map (item.value :: ·)).within (Nat.le_of_lt item.shorter)
    else return item.map ([·])
  | _ => none
termination_by 4 * tokens.length

/-- The entries of a block mapping, of which there is at least one. -/
def readEntries (tokens : List Token) : Option (Found (List (Yaml × Yaml)) tokens) :=
  match tokens with
  | .key :: rest => do
    let pair ← readPair .blockEntries rest
    have : pair.rest.length < rest.length + 1 := pair.shorter
    if pair.rest.head? = some .key then
      let found ← readEntries pair.rest
      return (found.map (pair.value :: ·)).within (Nat.le_of_lt pair.shorter)
    else return pair.map ([·])
  | _ => none
termination_by 4 * tokens.length + 1

/-- An item of a sequence in brackets. A pair is a mapping of its own. -/
def readFlowItem (tokens : List Token) : Option (Found Yaml tokens) :=
  match tokens with
  | .key :: rest => do return (← readPair .flowItems rest).map fun pair => Yaml.entries [pair]
  | tokens => readValue true tokens
termination_by 4 * tokens.length + 2

/-- An entry of a mapping in brackets. A value that is not marked as a key is one. -/
def readFlowEntry (tokens : List Token) : Option (Found (Yaml × Yaml) tokens) :=
  match tokens with
  | .key :: rest => readPair .flowEntries rest
  | tokens => do return (← readValue true tokens).map (·, empty)
termination_by 4 * tokens.length + 2

/-- The rest of a sequence in brackets, from an item or the closing bracket on. -/
def readFlowItems (tokens : List Token) : Option (Found (List Yaml) tokens) :=
  match tokens with
  | .closeItems :: _ => some (.head _ [])
  | tokens => do
    let item ← readFlowItem tokens
    match item.followedBy? .closeItems with
    | some last => return last.map ([·])
    | none =>
      let item ← item.followedBy? .comma
      have : item.rest.length < tokens.length := item.shorter
      let found ← readFlowItems item.rest
      return (found.map (item.value :: ·)).within (Nat.le_of_lt item.shorter)
termination_by 4 * tokens.length + 3

/-- The rest of a mapping in brackets, from an entry or the closing bracket on. -/
def readFlowEntries (tokens : List Token) : Option (Found (List (Yaml × Yaml)) tokens) :=
  match tokens with
  | .closeEntries :: _ => some (.head _ [])
  | tokens => do
    let entry ← readFlowEntry tokens
    match entry.followedBy? .closeEntries with
    | some last => return last.map ([·])
    | none =>
      let entry ← entry.followedBy? .comma
      have : entry.rest.length < tokens.length := entry.shorter
      let found ← readFlowEntries entry.rest
      return (found.map (entry.value :: ·)).within (Nat.le_of_lt entry.shorter)
termination_by 4 * tokens.length + 3

end

/-- The value of a document, after its mark if it has one. -/
def readDocument (marked : Bool) (tokens : List Token) : Option (Yaml × List Token) :=
  if marked && tokens.head?.all [.beginDocument, .endDocument].contains then some (empty, tokens)
  else (readValue false tokens).map fun found => (found.value, found.rest)

/-- The value that a whole text spells. It is one document. -/
def parse? (text : String) : Option Yaml := do
  let (value, rest) ←
    match ← tokens? text with
    | .beginDocument :: tokens => readDocument true tokens
    | tokens => readDocument false tokens
  if rest.all (· = .endDocument) then return value else none

end UpgradeDrill.Yaml
