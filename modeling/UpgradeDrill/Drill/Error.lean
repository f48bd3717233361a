import UpgradeDrill.Text.Inspect
import UpgradeDrill.Upgrade.Error

/-!
# Errors of drills
-/

namespace UpgradeDrill

inductive DrillError where
  | invalidConfig (reason : String)
  | unreadableConfig
  | io (cause : SystemError)
  | backoff (cause : BackoffError)
  | query (cause : QueryError)
  | upgrade (cause : UpgradeError)
  | cliFailed (command : String) (status : ExitStatus) (stderr : String)
  | cliRetriesExhausted (command : String) (attempts : Nat) (last : DrillError)
  | unexpectedOutput (command stdout : String)
  | notRejected (command : String)
  | balanceUnsatisfied (account : String) (expected timeout : Nat) (last : Option Nat)
  | unexpectedBalance (address : String) (balance expected : Nat)
  | staleNetwork (genesis current : Nat)
  /-- A part is given to a validator by its place, and there is none at that place. -/
  | missingValidator (place : Nat)

namespace DrillError

def message : DrillError → String
  | invalidConfig reason => "invalid configuration: " ++ reason
  | unreadableConfig => "yaml error"
  | io cause => "io error: " ++ cause.message
  | backoff cause => cause.message
  | query cause => cause.message
  | upgrade cause => cause.message
  | cliFailed command status stderr =>
    "`" ++ command ++ "` failed (" ++ status.message ++ "): " ++ stderr
  | cliRetriesExhausted command attempts last =>
    "`" ++ command ++ s!"` failed {attempts} times, giving up: " ++ last.message
  | unexpectedOutput command stdout => "unexpected output from `" ++ command ++ "`: " ++ stdout
  | notRejected command => "`" ++ command ++ "` succeeded but should have been rejected"
  | balanceUnsatisfied account expected timeout last =>
    "balance of " ++ account ++ s!" did not reach {expected} within " ++ Duration.render timeout ++
      " (last observed: " ++ inspectOption toString last ++ ")"
  | unexpectedBalance address balance expected =>
    "balance of " ++ address ++ s!" is {balance}, expected {expected}"
  | staleNetwork genesis current =>
    s!"genesis app version {genesis} differs from current app version {current} " ++
      "(has the network been reset since the last run?)"
  | missingValidator place => s!"no validator at place {place}"

end DrillError

end UpgradeDrill
