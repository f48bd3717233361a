import UpgradeDrill.Yaml.Scalar

/-!
# YAML text: tokens

A text is cut into scalars and marks. Layout carries the structure of block collections, so tokens
that are not written tell where they begin and end, and where a key begins that only the colon after
it gives away. Anchors, aliases, tags, directives and block scalars are refused.
-/

namespace UpgradeDrill.Yaml

/-- A scalar, or a part of the structure around scalars. -/
inductive Token where
  /-- A scalar, and whether it is plain. -/
  | scalar (text : String) (plain : Bool)
  /-- The beginning of a block sequence. -/
  | beginItems
  /-- The beginning of a block mapping. -/
  | beginEntries
  | endBlock
  /-- The `-` before an item of a block sequence. -/
  | dash
  /-- The beginning of a key, written `?` or not at all. -/
  | key
  /-- The `:` between a key and its value. -/
  | colon
  /-- The `,` between the parts of a flow collection. -/
  | comma
  | openItems
  | closeItems
  | openEntries
  | closeEntries
  /-- The `---` before a document. -/
  | beginDocument
  /-- The `...` after a document. -/
  | endDocument
  deriving DecidableEq, Repr

/-- Where a key may have begun. -/
structure KeyStart where
  position : Position
  /-- How many tokens stand before it. -/
  before : Nat
  /-- Whether what begins here must turn out to be a key. -/
  required : Bool
  deriving DecidableEq, Repr

/-- Whether a colon is too far from a key: in a later line, or more than 1024 bytes away. -/
def KeyStart.isStale (key : KeyStart) (colon : Position) : Bool :=
  key.position.line < colon.line || key.position.offset + 1024 < colon.offset

/-- How far a text has been cut into tokens. -/
structure Layout where
  position : Position
  /-- The tokens so far, the latest first. -/
  tokens : List Token
  /-- The columns of the block collections that are open, the innermost first. -/
  columns : List Nat
  /-- Where a key may have begun in the innermost collection. -/
  key : Option KeyStart
  /-- Where a key may have begun around each flow collection that is open, the innermost first. -/
  outerKeys : List (Option KeyStart)
  /-- Whether a key, or an item of a block sequence, may begin here. -/
  fresh : Bool
  deriving DecidableEq, Repr

namespace Layout

def start : Layout := ⟨⟨0, 0, 0⟩, [], [], none, [], true⟩

/-- Whether a flow collection is open. -/
def inFlow (layout : Layout) : Bool := !layout.outerKeys.isEmpty

def advance (text : List Char) (layout : Layout) : Layout :=
  { layout with position := layout.position.after text }

def push (token : Token) (layout : Layout) : Layout :=
  { layout with tokens := token :: layout.tokens }

/-- Adds a token that stands before all but the first `before` tokens. -/
def insert (before : Nat) (token : Token) (layout : Layout) : Layout :=
  let since := layout.tokens.length - before
  { layout with tokens := layout.tokens.take since ++ token :: layout.tokens.drop since }

/-- Ends the block collections in certain columns, from the innermost on. -/
def closeBlocks (ends : Nat → Bool) (layout : Layout) : Layout :=
  if layout.inFlow then layout
  else
    let columns := layout.columns.dropWhile ends
    let ended := layout.columns.length - columns.length
    { layout with columns, tokens := List.replicate ended .endBlock ++ layout.tokens }

/-- Begins a block collection in a column, unless one is open there. -/
def openBlock (column before : Nat) (token : Token) (layout : Layout) : Layout :=
  if !layout.inFlow && layout.columns.head?.all (· < column) then
    { layout.insert before token with columns := column :: layout.columns }
  else layout

/-- Begins a block collection here, where keys and items may begin, unless one is open. -/
def openBlockHere? (token : Token) (layout : Layout) : Option Layout :=
  if !layout.inFlow && !layout.fresh then none
  else some (layout.openBlock layout.position.column layout.tokens.length token)

/-- Takes what may have begun as a key for none. -/
def dropKey? (layout : Layout) : Option Layout :=
  if layout.key.any (·.required) then none else some { layout with key := none }

/-- Notes that a key may begin here. -/
def noteKey? (layout : Layout) : Option Layout :=
  if layout.fresh then do
    let required := !layout.inFlow && layout.columns.head? = some layout.position.column
    return { ← layout.dropKey? with
      key := some ⟨layout.position, layout.tokens.length, required⟩ }
  else some layout

/-- Adds a scalar. A key may follow it only in a new line. -/
def addScalar? (text : List Char) (plain broken : Bool) (layout : Layout) : Option Layout := do
  return { (← layout.noteKey?).push (.scalar (String.ofList text) plain) with fresh := broken }

/-- Opens a flow collection, which may be a key too. -/
def openFlow? (token : Token) (layout : Layout) : Option Layout := do
  let layout ← layout.noteKey?
  return { layout.push token with
    key := none, outerKeys := layout.key :: layout.outerKeys, fresh := true }

def closeFlow? (token : Token) (layout : Layout) : Option Layout := do
  let layout ← layout.dropKey?
  match layout.outerKeys with
  | [] => return { layout.push token with fresh := false }
  | key :: outerKeys => return { layout.push token with key, outerKeys, fresh := false }

/-- Adds the mark between the parts of a flow collection. -/
def addComma? (layout : Layout) : Option Layout := do
  return { (← layout.dropKey?).push .comma with fresh := true }

/-- Adds the mark of an item, which only a block sequence has. -/
def addDash? (layout : Layout) : Option Layout := do
  if layout.inFlow then none
  else
    return { (← (← layout.openBlockHere? .beginItems).dropKey?).push .dash with fresh := true }

def addKey? (layout : Layout) : Option Layout := do
  return { (← (← layout.openBlockHere? .beginEntries).dropKey?).push .key with
    fresh := !layout.inFlow }

/-- Adds a colon, which makes a key of what may have begun as one. -/
def addColon? (layout : Layout) : Option Layout := do
  let other : Option Layout := do
    return { (← layout.openBlockHere? .beginEntries).push .colon with
      key := none, fresh := !layout.inFlow }
  match layout.key with
  | none => other
  | some key =>
    if key.isStale layout.position then if key.required then none else other
    else
      let opened :=
        (layout.insert key.before .key).openBlock key.position.column key.before .beginEntries
      return { opened.push .colon with key := none, fresh := false }

/-- Adds a mark between documents, which ends all block collections. -/
def addDocumentMark? (token : Token) (layout : Layout) : Option Layout := do
  return { (← (layout.closeBlocks fun _ => true).dropKey?).push token with fresh := false }

/-- The tokens once the text is over. -/
def finish? (layout : Layout) : Option (List Token) := do
  return (← (layout.closeBlocks fun _ => true).dropKey?).tokens.reverse

/-- Adds what begins with a character that is no blank, before what follows it. -/
def read (layout : Layout) (c : Char) (rest : List Char) : Option (Found Layout (c :: rest)) :=
  let atFront := layout.position.column = 0
  let mark (added : Option Layout) : Option (Found Layout (c :: rest)) := added.map (.head c)
  if atFront ∧ c = '%' then none
  else if atFront ∧ atDocumentMark (c :: rest) then do
    let token := if c = '-' then .beginDocument else .endDocument
    let layout ← layout.addDocumentMark? token
    return ⟨layout, rest.drop 2, Nat.lt_succ_of_le (by rw [List.length_drop]; exact Nat.sub_le ..)⟩
  else if c = '[' then mark (layout.openFlow? .openItems)
  else if c = '\x7b' then mark (layout.openFlow? .openEntries)
  else if c = ']' then mark (layout.closeFlow? .closeItems)
  else if c = '\x7d' then mark (layout.closeFlow? .closeEntries)
  else if c = ',' then mark layout.addComma?
  else if c = '-' ∧ atGap rest then mark layout.addDash?
  else if c = '?' ∧ (layout.inFlow ∨ atGap rest) then mark layout.addKey?
  else if c = ':' ∧ (layout.inFlow ∨ atGap rest) then mark layout.addColon?
  else if c = '"' ∨ c = '\'' then do
    let found ← readQuoted c false [] rest
    let layout ← layout.addScalar? found.value false false
    return (found.map fun _ => layout).after c
  else if beginsPlain layout.inFlow c rest then do
    let indent := layout.columns.head?.elim 0 (· + 1)
    let found ← readPlain layout.inFlow indent [] c rest
    let layout ← layout.addScalar? (c :: found.value.1) true found.value.2
    return found.map fun _ => layout
  else none

end Layout

/-- The tokens of a text that goes on from a layout. -/
def tokensFrom (layout : Layout) (text : List Char) : Option (List Token) :=
  match text with
  | [] => layout.finish?
  | c :: rest =>
    let next := layout.advance [c]
    if isBreak c then tokensFrom { next with fresh := layout.fresh || !layout.inFlow } rest
    else if c = ' ' || (c = '\t' && (layout.inFlow || !layout.fresh)) ||
        (isByteOrderMark c && layout.position.column = 0) then
      tokensFrom next rest
    else if c = '#' then
      let comment := rest.takeWhile (!isBreak ·)
      tokensFrom (next.advance comment) (rest.dropWhile (!isBreak ·))
    else do
      let found ← (layout.closeBlocks (layout.position.column < ·)).read c rest
      let taken := (c :: rest).take ((c :: rest).length - found.rest.length)
      tokensFrom (found.value.advance taken) found.rest
termination_by text.length
decreasing_by
  · simp only [List.length_cons]; omega
  · simp only [List.length_cons]; omega
  · exact Nat.lt_succ_of_le (List.dropWhile_sublist _).length_le
  · exact found.shorter

def tokens? (text : String) : Option (List Token) := do tokensFrom .start (← characters? text)

end UpgradeDrill.Yaml
