import UpgradeDrill.Config.Json
import UpgradeDrill.Main
import UpgradeDrill.Rehearsal.Basic
import UpgradeDrill.Simulation.Network
import UpgradeDrill.Proofs.Routine.Attempt
import UpgradeDrill.Proofs.Query.Retry
import UpgradeDrill.Proofs.Routine.Pool
import UpgradeDrill.Proofs.Query.Settled
import UpgradeDrill.Proofs.Node.Sequencer
import UpgradeDrill.Proofs.Node.Reports
import UpgradeDrill.Proofs.Upgrade.Asks
import UpgradeDrill.Proofs.Drill.Queries
import UpgradeDrill.Proofs.Upgrade.Cohort
import UpgradeDrill.Proofs.Drill.Commands
import UpgradeDrill.Proofs.Routine.History
import UpgradeDrill.Proofs.Drill.Lineup
import UpgradeDrill.Proofs.Drill.Protocol
import UpgradeDrill.Proofs.Drill.Launch
import UpgradeDrill.Proofs.Drill.Staging
import UpgradeDrill.Proofs.Drill.Recovery
import UpgradeDrill.Proofs.Drill.Order
import UpgradeDrill.Proofs.Upgrade.Registry
import UpgradeDrill.Proofs.Drill.Agreement
import UpgradeDrill.Proofs.Drill.Applied
import UpgradeDrill.Proofs.Drill.Failures
import UpgradeDrill.Proofs.Drill.Naming
import UpgradeDrill.Proofs.Drill.Readiness
import UpgradeDrill.Proofs.Routine.Ending
import UpgradeDrill.Proofs.Query.Poll
import UpgradeDrill.Proofs.Simulation.Node
import UpgradeDrill.Proofs.Simulation.Network
import UpgradeDrill.Proofs.Simulation.Rollout
import UpgradeDrill.Proofs.Simulation.Stall
import UpgradeDrill.Proofs.Drill.Loops
import UpgradeDrill.Proofs.Query.Rounds
import UpgradeDrill.Proofs.Upgrade.Steps
import UpgradeDrill.Proofs.Drill.Termination
import UpgradeDrill.Proofs.Upgrade.Faults
import UpgradeDrill.Proofs.Drill.Faults
import UpgradeDrill.Proofs.Drill.Concurrency
import UpgradeDrill.Proofs.Backoff
import UpgradeDrill.Proofs.Wire.Message
import UpgradeDrill.Proofs.Query.Exact
import UpgradeDrill.Proofs.Upgrade.Demands
import UpgradeDrill.Proofs.Upgrade.Activation
import UpgradeDrill.Proofs.Upgrade.Capture
import UpgradeDrill.Proofs.Upgrade.CatchUp
import UpgradeDrill.Proofs.Backoff.Delays
import UpgradeDrill.Proofs.Upgrade.Verdict
import UpgradeDrill.Proofs.Upgrade.Refusal
import UpgradeDrill.Proofs.Upgrade.Budgets
import UpgradeDrill.Proofs.Upgrade.Numbers
import UpgradeDrill.Proofs.Routine.Join
import UpgradeDrill.Proofs.Upgrade.Consistency
import UpgradeDrill.Proofs.Upgrade.Ownership
import UpgradeDrill.Proofs.Drill.Isolation
import UpgradeDrill.Proofs.Routine.Plan
import UpgradeDrill.Proofs.Routine.Schedule
import UpgradeDrill.Proofs.Routine.Turns
import UpgradeDrill.Proofs.Routine.Bounded
import UpgradeDrill.Proofs.Upgrade.Aspen
import UpgradeDrill.Proofs.Upgrade.Arguments
import UpgradeDrill.Proofs.Query.Replies
import UpgradeDrill.Proofs.Query.Absorbed
import UpgradeDrill.Proofs.Drill.BalanceWait
import UpgradeDrill.Proofs.Wire.Undeclared
import UpgradeDrill.Proofs.Node.Identity
import UpgradeDrill.Proofs.Simulation.Reads
import UpgradeDrill.Proofs.Simulation.Heights
import UpgradeDrill.Proofs.Drill.BalanceOutput
