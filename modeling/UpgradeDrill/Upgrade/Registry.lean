import UpgradeDrill.Chain.Change
import UpgradeDrill.Upgrade.Error

/-!
# Known upgrades

Which changes belong to which upgrade, and whether the changes that a node reports are among them. A
change belongs to one upgrade only.
-/

namespace UpgradeDrill

/-- A named set of changes that take effect together at one height. -/
structure UpgradeGroup where
  name : String
  changes : List String
  activationHeight : Nat
  deriving DecidableEq, Repr

/-- The upgrades that a node may report changes of. -/
structure Registry where
  groups : List UpgradeGroup
  deriving DecidableEq, Repr

namespace Registry

/-- Every change with the name of the group that claims it, in order. -/
def claims (groups : List UpgradeGroup) : List (String × String) :=
  groups.flatMap fun group => group.changes.map fun change => (change, group.name)

/-- The first change that is claimed a second time, with both claimants; `owners` are the claims
before. -/
def secondClaim? (owners : List (String × String)) :
    List (String × String) → Option (String × String × String)
  | [] => none
  | (change, claimant) :: rest =>
    match owners.lookup change with
    | some owner => some (change, owner, claimant)
    | none => secondClaim? ((change, claimant) :: owners) rest

/-- The registry of some groups, no change of which may be claimed twice. -/
def ofGroups (groups : List UpgradeGroup) : Except UpgradeError Registry :=
  match secondClaim? [] (claims groups) with
  | some (change, first, second) => .error (.ambiguousChange change first second)
  | none => .ok ⟨groups⟩

def groupOf? (registry : Registry) (change : String) : Option UpgradeGroup :=
  registry.groups.find? fun group => group.changes.contains change

/-- Checks that a reported change is known and takes effect at the height of its group. -/
def checkChange (registry : Registry) (info : ChangeInfo) : Except UpgradeError Unit :=
  match registry.groupOf? info.name with
  | none => .error (.unknownChange info.name)
  | some group =>
    if info.activationHeight = group.activationHeight then .ok ()
    else
      .error (.activationHeightMismatch info.name group.activationHeight info.activationHeight)

/-- Checks reported changes, of which there must be some. The expected app version is that of the
last change only: those before it may belong to earlier upgrades. -/
def checkChanges (registry : Registry) (infos : List ChangeInfo) (expectedVersion : Option Nat) :
    Except UpgradeError Unit :=
  match infos.getLast? with
  | none => .error .noChangeInfos
  | some last => do
    infos.forM registry.checkChange
    match expectedVersion with
    | none => return
    | some expected =>
      if last.appVersion = expected then return
      else throw (.appVersionMismatch last.name expected last.appVersion)

end Registry

end UpgradeDrill
