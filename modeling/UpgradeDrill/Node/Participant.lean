/-!
# Participants

The members of a network under test and where they are reached.
-/

namespace UpgradeDrill

/-- A member of the network under test. -/
structure Participant where
  /-- The identity of the node, which is also its moniker. -/
  name : String
  kubeNamespace : String
  rpcUrl : String
  grpcUrl : String
  deriving DecidableEq, Repr

/-- The name of the validator whose host names have no suffix. -/
def primaryNode : String := "node0"

/-- The namespace of the primary validator and of the rollup. -/
def devNamespace : String := "astria-dev-cluster"

/-- A validator of the local development cluster. -/
def Participant.validator (name : String) : Participant :=
  if name = primaryNode then
    { name
      kubeNamespace := devNamespace
      rpcUrl := "http://rpc.sequencer.localdev.me"
      grpcUrl := "http://grpc.sequencer.localdev.me:80" }
  else
    { name
      kubeNamespace := "astria-validator-" ++ name
      rpcUrl := "http://rpc.sequencer-" ++ name ++ ".localdev.me"
      grpcUrl := "http://grpc.sequencer-" ++ name ++ ".localdev.me:80" }

end UpgradeDrill
