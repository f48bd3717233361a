import UpgradeDrill.Chain.Change
import UpgradeDrill.Wire.Message

/-!
# Messages of the sequencer service

The fields of each message that is exchanged with a node.
-/

namespace UpgradeDrill

structure BlockRequest where
  height : Nat
  deriving DecidableEq, Repr

structure UpgradesRequest where
  deriving DecidableEq, Repr

structure ValidatorAddress where
  bech32m : String
  deriving DecidableEq, Repr

structure ValidatorNameRequest where
  address : Option ValidatorAddress
  deriving DecidableEq, Repr

structure ValidatorName where
  name : String
  deriving DecidableEq, Repr

open Wire

instance : Message BlockRequest where
  blank := ⟨0⟩
  fields request := numberField 1 request.height
  absorb _ request field :=
    match field.number with
    | 1 => do return { request with height := ← field.payload.number? }
    | _ => some request

instance : Message CommitInfo where
  blank := ⟨[], []⟩
  fields info := bytesField 1 info.info ++ bytesField 2 info.proof
  absorb _ info field :=
    match field.number with
    | 1 => do return { info with info := ← field.payload.bytes? }
    | 2 => do return { info with proof := ← field.payload.bytes? }
    | _ => some info

instance : Message Block where
  blank := {}
  fields block :=
    bytesField 1 block.header ++ repeatedField 2 block.rollupTransactions ++
      bytesField 3 block.rollupTransactionsProof ++ bytesField 4 block.rollupIdsProof ++
      bytesField 5 block.hash ++ repeatedField 6 block.upgradeChangeHashes ++
      repeatedField 7 (block.commitInfo.toList.map encode)
  absorb depth block field :=
    match field.number with
    | 1 => do return { block with header := ← field.payload.bytes? }
    | 2 => do
      let bytes ← field.payload.bytes?
      return { block with rollupTransactions := block.rollupTransactions ++ [bytes] }
    | 3 => do return { block with rollupTransactionsProof := ← field.payload.bytes? }
    | 4 => do return { block with rollupIdsProof := ← field.payload.bytes? }
    | 5 => do return { block with hash := ← field.payload.bytes? }
    | 6 => do
      let bytes ← field.payload.bytes?
      return { block with upgradeChangeHashes := block.upgradeChangeHashes ++ [bytes] }
    | 7 => do
      let info ← field.payload.into? depth (block.commitInfo.getD Message.blank)
      return { block with commitInfo := some info }
    | _ => some block

instance : Message ChangeInfo where
  blank := ⟨0, "", 0, ""⟩
  fields info :=
    numberField 1 info.activationHeight ++ Wire.textField 2 info.name ++
      numberField 3 info.appVersion ++ Wire.textField 4 info.hash
  absorb _ info field :=
    match field.number with
    | 1 => do return { info with activationHeight := ← field.payload.number? }
    | 2 => do return { info with name := ← field.payload.text? }
    | 3 => do return { info with appVersion := ← field.payload.number? }
    | 4 => do return { info with hash := ← field.payload.text? }
    | _ => some info

instance : Message UpgradesRequest where
  blank := ⟨⟩
  fields _ := []
  absorb _ request _ := some request

instance : Message UpgradesInfo where
  blank := {}
  fields info :=
    repeatedField 1 (info.applied.map encode) ++ repeatedField 2 (info.scheduled.map encode)
  absorb depth info field :=
    match field.number with
    | 1 => do
      let change ← field.payload.into? depth Message.blank
      return { info with applied := info.applied ++ [change] }
    | 2 => do
      let change ← field.payload.into? depth Message.blank
      return { info with scheduled := info.scheduled ++ [change] }
    | _ => some info

instance : Message ValidatorAddress where
  blank := ⟨""⟩
  fields address := Wire.textField 1 address.bech32m
  absorb _ address field :=
    match field.number with
    | 1 => do return { address with bech32m := ← field.payload.text? }
    | _ => some address

instance : Message ValidatorNameRequest where
  blank := ⟨none⟩
  fields request := repeatedField 1 (request.address.toList.map encode)
  absorb depth request field :=
    match field.number with
    | 1 => do
      let address ← field.payload.into? depth (request.address.getD Message.blank)
      return { request with address := some address }
    | _ => some request

instance : Message ValidatorName where
  blank := ⟨""⟩
  fields response := Wire.textField 1 response.name
  absorb _ response field :=
    match field.number with
    | 1 => do return { response with name := ← field.payload.text? }
    | _ => some response

end UpgradeDrill
