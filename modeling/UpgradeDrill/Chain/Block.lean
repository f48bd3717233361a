import UpgradeDrill.Text.Inspect

/-!
# Blocks

A block as the sequencer assembles it. Parts that are only compared or tested for presence are kept
as bytes.
-/

namespace UpgradeDrill

/-- The votes that a block carries from the one before it, with the proof that they belong there. -/
structure CommitInfo where
  info : List UInt8
  proof : List UInt8
  deriving DecidableEq, Repr

structure Block where
  header : List UInt8 := []
  rollupTransactions : List (List UInt8) := []
  rollupTransactionsProof : List UInt8 := []
  rollupIdsProof : List UInt8 := []
  hash : List UInt8 := []
  upgradeChangeHashes : List (List UInt8) := []
  commitInfo : Option CommitInfo := none
  deriving DecidableEq, Repr

def CommitInfo.inspect (info : CommitInfo) : String :=
  inspectRecord "ExtendedCommitInfoWithProof"
    [("extended_commit_info", inspectBytes info.info), ("proof", inspectBytes info.proof)]

def Block.inspect (block : Block) : String :=
  inspectRecord "SequencerBlock"
    [("header", inspectBytes block.header),
      ("rollup_transactions", bracketed (block.rollupTransactions.map inspectBytes)),
      ("rollup_transactions_proof", inspectBytes block.rollupTransactionsProof),
      ("rollup_ids_proof", inspectBytes block.rollupIdsProof),
      ("block_hash", inspectBytes block.hash),
      ("upgrade_change_hashes", bracketed (block.upgradeChangeHashes.map inspectBytes)),
      ("extended_commit_info_with_proof", inspectOption CommitInfo.inspect block.commitInfo)]

end UpgradeDrill
