/-!
# YAML text: lines

What a text is made of before anything is read from it: its characters, its lines, and places in it.
A scalar may go on over several lines, and this module says what remains of the gap between two of
its words.
-/

namespace UpgradeDrill.Yaml

/-- A character that may stand in a text. -/
def isAllowed (c : Char) : Bool :=
  let n := c.toNat
  n = 9 || n = 10 || n = 13 || (0x20 ≤ n && n ≤ 0x7e) || n = 0x85 || (0xa0 ≤ n && n ≤ 0xfffd) ||
    0x10000 ≤ n

/-- The mark that may stand before a text, and at the front of a line. -/
def isByteOrderMark (c : Char) : Bool := c.toNat = 0xfeff

/-- A text whose lines end in line feeds, whatever they ended in. Line and paragraph separators stay
as they are. -/
def unifyBreaks : List Char → List Char
  | [] => []
  | '\r' :: '\n' :: rest => '\n' :: unifyBreaks rest
  | c :: rest => (if c = '\r' || c.toNat = 0x85 then '\n' else c) :: unifyBreaks rest

/-- The characters of a text, without the mark before them. -/
def characters? (text : String) : Option (List Char) :=
  if text.toList.all isAllowed then
    match text.toList with
    | [] => some []
    | c :: rest => some (unifyBreaks (if isByteOrderMark c then rest else c :: rest))
  else none

def isBlank (c : Char) : Bool := c = ' ' || c = '\t'

/-- A character that ends a line. -/
def isBreak (c : Char) : Bool := c = '\n' || c.toNat = 0x2028 || c.toNat = 0x2029

/-- Whether a text goes on with a blank, a break, or not at all. -/
def atGap : List Char → Bool
  | [] => true
  | c :: _ => isBlank c || isBreak c

/-- Whether a text goes on with a mark between documents, if it is at the front of a line. -/
def atDocumentMark : List Char → Bool
  | '-' :: '-' :: '-' :: rest => atGap rest
  | '.' :: '.' :: '.' :: rest => atGap rest
  | _ => false

/-- A place in a text: bytes before it, lines before it, and characters before it in its line. -/
structure Position where
  offset : Nat
  line : Nat
  column : Nat
  deriving DecidableEq, Repr

/-- The place after some characters. -/
def Position.after (position : Position) (text : List Char) : Position :=
  text.foldl
    (fun position c =>
      let offset := position.offset + c.utf8Size
      if isBreak c then ⟨offset, position.line + 1, 0⟩
      else ⟨offset, position.line, position.column + 1⟩)
    position

/-- How a gap counts: one within a line as it is, and of one between lines the breaks, where a
single one becomes a space and the first of several is left out. Separators are never left out. -/
def foldGap (gap : List Char) : List Char :=
  match gap.filter isBreak with
  | [] => gap
  | ['\n'] => [' ']
  | '\n' :: breaks => breaks
  | breaks => breaks

end UpgradeDrill.Yaml
