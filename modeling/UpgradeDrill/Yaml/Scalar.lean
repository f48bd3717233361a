import UpgradeDrill.Text.Digits
import UpgradeDrill.Text.Found
import UpgradeDrill.Yaml.Line

/-!
# YAML text: scalars

A scalar is quoted, or plain: then it ends where something else begins. Both may go on over several
lines, which are folded. Gaps are held with their last character first.
-/

namespace UpgradeDrill.Yaml

/-- The character that an escape of one letter stands for. -/
def unescape? : Char → Option Char
  | '0' => Char.ofNat 0
  | 'a' => Char.ofNat 7
  | 'b' => Char.ofNat 8
  | 't' => '\t'
  | '\t' => '\t'
  | 'n' => '\n'
  | 'v' => Char.ofNat 11
  | 'f' => Char.ofNat 12
  | 'r' => '\r'
  | 'e' => Char.ofNat 27
  | ' ' => ' '
  | '"' => '"'
  | '/' => '/'
  | '\\' => '\\'
  | 'N' => Char.ofNat 0x85
  | '_' => Char.ofNat 0xa0
  | 'L' => Char.ofNat 0x2028
  | 'P' => Char.ofNat 0x2029
  | _ => none

/-- How many digits give the number of a character after the letter of an escape. -/
def numberedEscape? : Char → Option Nat
  | 'x' => some 2
  | 'u' => some 4
  | 'U' => some 8
  | _ => none

/-- The character of a number in hexadecimal digits. -/
def numbered? (digits : List Char) : Option Char := do
  let n ← Digits.append? 16 0 digits
  if n < 0xd800 ∨ 0xe000 ≤ n ∧ n < 0x110000 then return Char.ofNat n else none

/-- What stands in a quoted scalar besides gaps. -/
inductive QuotedPart where
  | char (c : Char)
  /-- A break that is taken back, with the blanks after it. -/
  | joint
  | close

/-- What a backslash and the text after it stand for. -/
def readEscape (rest : List Char) : Option (Found QuotedPart ('\\' :: rest)) :=
  match rest with
  | [] => none
  | letter :: rest =>
    if isBreak letter then some ((Found.head letter .joint).after '\\')
    else
      match numberedEscape? letter with
      | some count =>
        if rest.length < count then none
        else do
          let c ← numbered? (rest.take count)
          return ⟨.char c, rest.drop count, Nat.lt_of_le_of_lt (List.drop_sublist _ _).length_le
            (Nat.lt_succ_of_lt (Nat.lt_succ_self _))⟩
      | none => do
        let c ← unescape? letter
        return (Found.head letter (.char c)).after '\\'

/-- What a character stands for between two quotes `mark`. A single quote is written twice. -/
def readQuotedPart (mark c : Char) (rest : List Char) : Option (Found QuotedPart (c :: rest)) :=
  if c = mark then
    match mark, rest with
    | '\'', '\'' :: _ => some ((Found.head '\'' (.char '\'')).after c)
    | _, _ => some (.head c .close)
  else if h : c = '\\' ∧ mark = '"' then
    (readEscape rest).map fun found => ⟨found.value, found.rest, h.1 ▸ found.shorter⟩
  else some (.head c (.char c))

/-- A scalar between two quotes `mark`, from the gap before a text on, `joined` if the break before
that gap was taken back. A mark between documents cannot stand in it. -/
def readQuoted (mark : Char) (joined : Bool) (gap text : List Char) :
    Option (Found (List Char) text) :=
  match text with
  | [] => none
  | c :: rest =>
    if isBlank c || isBreak c then
      if isBreak c && atDocumentMark rest then none
      else (readQuoted mark joined (c :: gap) rest).map (·.after c)
    else do
      let before := if joined then gap.reverse.filter isBreak else foldGap gap.reverse
      let part ← readQuotedPart mark c rest
      match part.value with
      | .close => return ⟨before, part.rest, part.shorter⟩
      | .joint =>
        if atDocumentMark part.rest then none
        else
          let found ← readQuoted mark true [] part.rest
          return (found.map (before ++ ·)).within (Nat.le_of_lt part.shorter)
      | .char c =>
        let found ← readQuoted mark false [] part.rest
        return (found.map (before ++ c :: ·)).within (Nat.le_of_lt part.shorter)
termination_by text.length
decreasing_by
  · exact Nat.lt_succ_self _
  · exact part.shorter
  · exact part.shorter

/-- A mark of flow collections. -/
def isFlowMark (c : Char) : Bool := ",[]\x7b\x7d".toList.contains c

/-- A character that begins something else than a plain scalar. -/
def isIndicator (c : Char) : Bool := "-?:,[]\x7b\x7d#&*!|>'\"%@".toList.contains c || c.toNat = 0x60

/-- Whether a plain scalar begins with a character, before what follows it. -/
def beginsPlain (flow : Bool) (c : Char) (rest : List Char) : Bool :=
  if c = '-' then !atGap rest
  else if c = '?' || c = ':' then !flow && !atGap rest
  else !isIndicator c && !isBlank c && !isBreak c

/-- The column after a gap that holds a break. -/
def columnAfter? (gap : List Char) : Option Nat :=
  if gap.any isBreak then some (gap.takeWhile (!isBreak ·)).length else none

/-- Whether a plain scalar is over before a character that is no blank, after a gap. In a block, its
further lines stand in the column `indent` or to the right of it. -/
def endsPlain (flow : Bool) (indent : Nat) (gap : List Char) (c : Char) (rest : List Char) : Bool :=
  (c = ':' && atGap rest) || (flow && isFlowMark c) || (c = '#' && !gap.isEmpty) ||
    (columnAfter? gap).any fun column =>
      (column = 0 && atDocumentMark (c :: rest)) || (!flow && column < indent)

/-- The rest of a plain scalar after the character `last` and a gap, which may end in it, and
whether the scalar is over after a break. -/
def readPlain (flow : Bool) (indent : Nat) (gap : List Char) (last : Char) :
    (rest : List Char) → Option (Found (List Char × Bool) (last :: rest))
  | [] => some (.head last ([], gap.any isBreak))
  | c :: rest =>
    if isBlank c || isBreak c then
      if c = '\t' && (columnAfter? gap).any (· < indent) then none
      else (readPlain flow indent (c :: gap) c rest).map (·.after last)
    else if endsPlain flow indent gap c rest then some (.head last ([], gap.any isBreak))
    else if flow && c = ':' && rest.head?.any fun next => next = '?' || isFlowMark next then none
    else
      (readPlain flow indent [] c rest).map fun found =>
        (found.map fun (word, broken) => (foldGap gap.reverse ++ c :: word, broken)).after last

end UpgradeDrill.Yaml
