import UpgradeDrill.Config.Basic
import UpgradeDrill.Yaml.Parser

/-!
# Reading configurations

A configuration is a YAML mapping of its fields.
-/

namespace UpgradeDrill

open Yaml

def PreUpgradeImages.ofYaml? (value : Yaml) : Option PreUpgradeImages := do
  let fields ← value.toFields? ["sequencer", "sequencer_relayer"]
  return {
    sequencer := ← required? toText? fields "sequencer"
    sequencerRelayer := ← required? toText? fields "sequencer_relayer" }

def ValidatorConfig.ofYaml? (value : Yaml) : Option ValidatorConfig := do
  let fields ← value.toFields? ["name", "address", "price_feed", "rpc_url", "grpc_url"]
  return {
    name := ← required? toText? fields "name"
    address := ← required? toText? fields "address"
    priceFeed := ← optional? toBool? true fields "price_feed"
    rpcUrl := ← optional? (toOption? toText?) none fields "rpc_url"
    grpcUrl := ← optional? (toOption? toText?) none fields "grpc_url" }

def RollupConfig.ofYaml? (value : Yaml) : Option RollupConfig := do
  let fields ← value.toFields? ["url", "images"]
  return {
    url := ← optional? toText? Rollup.defaultUrl fields "url"
    images := ← optional? (toMap? Image.ofName? toText?) [] fields "images" }

def BridgeConfig.ofYaml? (value : Yaml) : Option BridgeConfig := do
  let fields ← value.toFields?
    ["evm_destination", "sequencer_account", "lock_amount", "evm_balance_after_lock",
      "withdraw_transaction", "withdraw_transaction_hash", "evm_balance_after_withdraw",
      "sequencer_balance_after_withdraw"]
  return {
    evmDestination := ← required? toText? fields "evm_destination"
    sequencerAccount := ← required? toText? fields "sequencer_account"
    lockAmount := ← required? toUInt64? fields "lock_amount"
    evmBalanceAfterLock := ← required? toUInt64? fields "evm_balance_after_lock"
    withdrawTransaction := ← required? toText? fields "withdraw_transaction"
    withdrawTransactionHash := ← required? toText? fields "withdraw_transaction_hash"
    evmBalanceAfterWithdraw := ← required? toUInt64? fields "evm_balance_after_withdraw"
    sequencerBalanceAfterWithdraw := ←
      required? toUInt64? fields "sequencer_balance_after_withdraw" }

namespace Config

def ofYaml? (value : Yaml) : Option Config := do
  let fields ← value.toFields?
    ["upgrade_name", "image_tag", "pre_upgrade_images", "upgrades", "validators",
      "activation_offset", "concurrency", "chart_root", "rollup", "bridge"]
  return {
    upgradeName := ← required? toText? fields "upgrade_name"
    imageTag := ← required? toText? fields "image_tag"
    preUpgradeImages := ←
      optional? (toMap? some PreUpgradeImages.ofYaml?) standardPreUpgradeImages fields
        "pre_upgrade_images"
    upgrades := ← optional? (toMap? some (toList? toText?)) standardUpgrades fields "upgrades"
    validators := ←
      optional? (toList? ValidatorConfig.ofYaml?) standardValidators fields "validators"
    activationOffset := ← optional? toUInt64? 10 fields "activation_offset"
    concurrency := ← optional? toUInt64? 6 fields "concurrency"
    chartRoot := ← optional? toText? "." fields "chart_root"
    rollup := ← optional? RollupConfig.ofYaml? {} fields "rollup"
    bridge := ← optional? BridgeConfig.ofYaml? .standard fields "bridge" }

/-- The configuration that a text spells, whether or not a drill can rely on it. -/
def parse (text : String) : Except DrillError Config :=
  match (Yaml.parse? text).bind ofYaml? with
  | some config => .ok config
  | none => .error .unreadableConfig

/-- The configuration in a file, as far as the file could be opened, checked. -/
def load (file : Except SystemError String) : Except DrillError Config := do
  match file with
  | .error cause => throw (.io cause)
  | .ok text =>
    let config ← parse text
    config.validate
    return config

end Config

end UpgradeDrill
