import UpgradeDrill.Chain.Block
import UpgradeDrill.Text.Quoted

/-!
# Upgrade changes as nodes report them
-/

namespace UpgradeDrill

/-- A named change, with the height at which it takes effect and the app version it brings. -/
structure ChangeInfo where
  activationHeight : Nat
  name : String
  appVersion : Nat
  /-- The hash of the change in base 64. -/
  hash : String
  deriving DecidableEq, Repr

/-- The changes that a node has applied, and those it has scheduled. -/
structure UpgradesInfo where
  applied : List ChangeInfo := []
  scheduled : List ChangeInfo := []
  deriving DecidableEq, Repr

namespace ChangeInfo

/-- A change in one line. -/
def message (info : ChangeInfo) : String :=
  info.name ++ s!" (activation height {info.activationHeight}, app version {info.appVersion}, hash "
    ++ info.hash ++ ")"

def inspect (info : ChangeInfo) : String :=
  inspectRecord "ChangeInfo"
    [("activation_height", toString info.activationHeight), ("change_name", quoted info.name),
      ("app_version", toString info.appVersion), ("base64_hash", quoted info.hash)]

end ChangeInfo

def UpgradesInfo.inspect (info : UpgradesInfo) : String :=
  inspectRecord "UpgradesInfo"
    [("applied", bracketed (info.applied.map ChangeInfo.inspect)),
      ("scheduled", bracketed (info.scheduled.map ChangeInfo.inspect))]

end UpgradeDrill
