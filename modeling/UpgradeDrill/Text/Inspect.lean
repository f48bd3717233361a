/-!
# Values in messages

How structured values are written in messages: lists in brackets, records in braces, and values that
may be missing.
-/

namespace UpgradeDrill

def bracketed (items : List String) : String := "[" ++ ", ".intercalate items ++ "]"

def inspectBytes (bytes : List UInt8) : String :=
  bracketed (bytes.map fun byte => toString byte.toNat)

def inspectOption {α : Type} (inspect : α → String) : Option α → String
  | none => "None"
  | some value => "Some(" ++ inspect value ++ ")"

/-- Named parts between braces. -/
def inspectRecord (name : String) (parts : List (String × String)) : String :=
  name ++ " \x7b " ++ ", ".intercalate (parts.map fun (part, text) => part ++ ": " ++ text) ++
    " \x7d"

end UpgradeDrill
