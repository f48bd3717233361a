import UpgradeDrill.Network.Command
import UpgradeDrill.Query.Error

/-!
# Errors of upgrades
-/

namespace UpgradeDrill

/-- Why an upgrade could not be carried out, or is not what it should be. -/
inductive UpgradeError where
  | query (cause : QueryError)
  | emptyCohort
  | inconsistent (what reference node expected actual : String)
  | changed (what before after : String)
  | noChangeInfos
  | unknownChange (change : String)
  | ambiguousChange (change first second : String)
  | heightOverflow (height blocks : Nat)
  | activationHeightMismatch (change : String) (expected actual : Nat)
  | appVersionMismatch (change : String) (expected actual : Nat)
  | unexpectedAppliedChanges (node : String) (count : Nat)
  | unexpectedScheduledChanges (node : String) (count : Nat)
  | missingActivationHeight
  | notStalled (node : String) (height activationHeight : Nat)
  | appVersionUnchanged (node : String) (before after : Nat)
  | voteExtensionsEnableHeight (node : String) (expected actual : Nat)
  | extendedCommitInfo (node : String) (height : Nat) (present expected : Bool)
  | unknownUpgrade (name : String)
  | commandFailed (command : String) (status : ExitStatus)
  | io (cause : SystemError)

namespace UpgradeError

def message : UpgradeError → String
  | query cause => cause.message
  | emptyCohort => "cohort is empty"
  | inconsistent what reference node expected actual =>
    reference ++ " and " ++ node ++ " report different values for " ++ what ++ ": " ++ expected ++
      " != " ++ actual
  | changed what before after => what ++ " changed: " ++ before ++ " != " ++ after
  | noChangeInfos => "no change infos reported"
  | unknownChange change => "change `" ++ change ++ "` does not belong to any known upgrade"
  | ambiguousChange change first second =>
    "change `" ++ change ++ "` is claimed by both " ++ first ++ " and " ++ second
  | heightOverflow height blocks => s!"height {height} + {blocks} overflows"
  | activationHeightMismatch change expected actual =>
    "change `" ++ change ++ s!"` activates at {actual}, expected {expected}"
  | appVersionMismatch change expected actual =>
    "change `" ++ change ++ s!"` has app version {actual}, expected {expected}"
  | unexpectedAppliedChanges node count =>
    node ++ s!": expected no applied changes, found {count}"
  | unexpectedScheduledChanges node count =>
    node ++ s!": expected no scheduled changes, found {count}"
  | missingActivationHeight => "release does not schedule an activation height"
  | notStalled node height activationHeight =>
    node ++ s!" should be stalled but reports height {height} " ++
      s!"(activation height {activationHeight})"
  | appVersionUnchanged node before after =>
    node ++ s!": app version {after} did not increase from {before}"
  | voteExtensionsEnableHeight node expected actual =>
    node ++ s!": vote extensions enable height is {actual}, expected {expected}"
  | extendedCommitInfo node height present expected =>
    node ++ s!": block {height} has extended commit info: {present} (expected {expected})"
  | unknownUpgrade name => "unknown upgrade: " ++ name
  | commandFailed command status => "`" ++ command ++ "` failed: " ++ status.message
  | io cause => "io error: " ++ cause.message

end UpgradeError

end UpgradeDrill
