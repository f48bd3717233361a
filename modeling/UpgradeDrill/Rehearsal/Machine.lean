import UpgradeDrill.Network.Command
import UpgradeDrill.Text.Utf8

/-!
# The machine of a rehearsal

Which programs can be started where, and what they leave behind by what they are told to do.
-/

namespace UpgradeDrill

/-- A machine that programs are started on. -/
structure Machine where
  /-- Programs that are found by their names. -/
  programs : List String
  /-- Directories by their paths. That of the root is empty, and that of the current one a dot. -/
  directories : List String
  /-- Other files that are there, by their paths. None of them can be run. -/
  files : List String

namespace Machine

/-- Whether a text cannot be handed to the system. -/
def hasNul (text : String) : Bool := text.toList.any (·.toNat = 0)

/-- The names in a path, between its slashes. -/
def names (path : String) : List String :=
  (path.toList.foldr
    (fun c names =>
      match names with
      | name :: rest => if c = '/' then [] :: name :: rest else (c :: name) :: rest
      | [] => [[c]])
    [[]]).map String.ofList

/-- The path of a place, which is a list of names from the inside out. -/
def pathOf (place : List String) : String := "/".intercalate place.reverse

/-- Goes from a place to what has a name there. -/
def enter (machine : Machine) (place : List String) (name : String) :
    Except SystemError (List String) :=
  if machine.files.contains (pathOf place) then .error .notDirectory
  else if name = "" ∨ name = "." then .ok place
  else if name = ".." then .ok (if place.length = 1 then place else place.drop 1)
  else if 255 < name.utf8ByteSize then .error .nameTooLong
  else if (machine.directories ++ machine.files).contains (pathOf (name :: place)) then
    .ok (name :: place)
  else .error .notFound

def find (machine : Machine) (path : String) : Except SystemError (List String) :=
  if 4095 < path.utf8ByteSize then .error .nameTooLong
  else
    match names path with
    | "" :: [] => .error .notFound
    | "" :: names => names.foldlM machine.enter [""]
    | names => names.foldlM machine.enter ["."]

def enterError? (machine : Machine) (directory : String) : Option SystemError :=
  match machine.find directory with
  | .error error => some error
  | .ok place => if machine.files.contains (pathOf place) then some .notDirectory else none

/-- Why a program cannot be started. One whose name holds no slash is looked for by its name. -/
def programError? (machine : Machine) (program : String) : Option SystemError :=
  if machine.programs.contains program then none
  else
    match machine.find program with
    | .error error => some error
    | .ok _ => some .permissionDenied

/-- Why a command cannot be started. The directory is entered before the program is looked for. -/
def startError? (machine : Machine) (command : Command) : Option SystemError :=
  if hasNul command.program || command.arguments.any hasNul || command.directory.any hasNul then
    some .nulByte
  else
    match command.directory.bind machine.enterError? with
    | some error => some error
    | none => machine.programError? command.program

end Machine

/-- What a program leaves behind if its command line contains a text. -/
structure CommandRule where
  part : String
  output : CommandOutput
  /-- How often the rule still applies, if not always. -/
  uses : Option Nat

namespace CommandRule

/-- Whether a text stands somewhere in another. -/
def occursIn (part : List Char) : List Char → Bool
  | [] => part.isEmpty
  | c :: rest => part.isPrefixOf (c :: rest) || occursIn part rest

def applies (rule : CommandRule) (line : String) : Bool :=
  occursIn rule.part.toList line.toList && rule.uses != some 0

/-- The output of a program that no rule speaks of. -/
def silence : CommandOutput := ⟨.exited 0, [], []⟩

/-- The output of the first rule that applies, and the rules from then on. -/
def next (line : String) : List CommandRule → CommandOutput × List CommandRule
  | [] => (silence, [])
  | rule :: rest =>
    if rule.applies line then (rule.output, { rule with uses := rule.uses.map (· - 1) } :: rest)
    else
      let (output, rest) := next line rest
      (output, rule :: rest)

end CommandRule

end UpgradeDrill
