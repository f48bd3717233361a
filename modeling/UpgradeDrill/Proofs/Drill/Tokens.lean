import UpgradeDrill.Proofs.Drill.Sending

/-!
# Who awaits which token

Staging a validator gives a token, with which its activation is awaited later. The two are done by
different pools, whose members end in any order, and the withheld validator is staged and awaited
apart from the others. `Config.Awaited` says that every token is awaited where it came from: by the
client and for the component that were staged. However a drill goes on, its history is of this form
(`Drill.leaves_carryOut`).
-/

namespace UpgradeDrill

open Attempt Drill Routine

namespace Config

variable (config : Config)

end Config

section Kinds

variable {config : Config} {validators : List ValidatorConfig} {request : NetworkRequest}

namespace Config

lemma not_awaitsRollout_of_program {command : Command} (ne : command.program ≠ "kubectl") :
    ¬ config.AwaitsRollout (.execute command) := by
  rintro ⟨component, eq⟩
  cases eq
  exact ne rfl

/-- Installations are waited for longer than upgrades. -/
lemma Deploys.not_awaitsRollout (deploys : config.Deploys request) :
    ¬ config.AwaitsRollout request := by
  cases deploys with
  | fetch | release => exact not_awaitsRollout_of_program (show "helm" ≠ "kubectl" by decide)
  | restart component =>
    rintro ⟨other, eq⟩
    have first : some "delete" = some "rollout" :=
      congrArg (·.arguments.head?) (NetworkRequest.execute.inj eq)
    exact absurd first (by decide)
  | rollout component =>
    -- The two waits are told apart by their timeouts.
    rintro ⟨other, eq⟩
    have last : some "--timeout=600s" = some "--timeout=60s" :=
      congrArg (·.arguments.getLast?) (NetworkRequest.execute.inj eq)
    exact absurd last (by decide)

lemma Asks.not_awaitsRollout (asks : config.Asks validators request) :
    ¬ config.AwaitsRollout request := by
  cases asks with
  | node _ asked =>
    rintro ⟨component, rfl⟩
    cases asked
  | client => exact not_awaitsRollout_of_program (show "docker" ≠ "kubectl" by decide)
  | rollup => exact nofun

lemma Names.not_awaitsRollout (names : config.Names validators request) :
    ¬ config.AwaitsRollout request := by
  cases names with
  | identity _ identified =>
    rw [identified]
    exact nofun
  | update => exact not_awaitsRollout_of_program (show "docker" ≠ "kubectl" by decide)

lemma Manages.not_awaitsRollout (manages : config.Manages validators request) :
    ¬ config.AwaitsRollout request :=
  manages.elim Deploys.not_awaitsRollout Asks.not_awaitsRollout

lemma Prepares.not_awaitsRollout (prepares : config.Prepares request) :
    ¬ config.AwaitsRollout request := by
  rcases prepares with manages | ⟨validator, _, identified⟩
  · exact manages.not_awaitsRollout
  · rw [identified]
    exact nofun

end Config

end Kinds

section Leaves

variable {config : Config} {lineup : Lineup config} {validators : List ValidatorConfig}
  {schedule : Schedule}

namespace Drill

variable (fits : schedule.activationHeight ≤ maxUInt64)
include fits

end Drill

end Leaves

end UpgradeDrill
