import UpgradeDrill.Config.Basic
import UpgradeDrill.Json.Basic

/-!
# Configurations as JSON

A configuration with every field written out.
-/

namespace UpgradeDrill

open Json

def Json.ofList {α : Type} (write : α → Json) (items : List α) : Json := .arr (items.map write)

/-- A text that may be missing, as itself or null. -/
def Json.ofOption : Option String → Json
  | some text => .str text
  | none => .null

def Json.ofMap {α : Type} (write : α → Json) (entries : List (String × α)) : Json :=
  ofMembers (entries.map fun (key, value) => (key, write value))

def PreUpgradeImages.toJson (images : PreUpgradeImages) : Json :=
  ofMembers
    [("sequencer", .str images.sequencer), ("sequencer_relayer", .str images.sequencerRelayer)]

def ValidatorConfig.toJson (validator : ValidatorConfig) : Json :=
  ofMembers
    [("name", .str validator.name), ("address", .str validator.address),
      ("price_feed", .bool validator.priceFeed), ("rpc_url", ofOption validator.rpcUrl),
      ("grpc_url", ofOption validator.grpcUrl)]

def BridgeConfig.toJson (bridge : BridgeConfig) : Json :=
  ofMembers
    [("evm_destination", .str bridge.evmDestination),
      ("sequencer_account", .str bridge.sequencerAccount), ("lock_amount", ofNat bridge.lockAmount),
      ("evm_balance_after_lock", ofNat bridge.evmBalanceAfterLock),
      ("withdraw_transaction", .str bridge.withdrawTransaction),
      ("withdraw_transaction_hash", .str bridge.withdrawTransactionHash),
      ("evm_balance_after_withdraw", ofNat bridge.evmBalanceAfterWithdraw),
      ("sequencer_balance_after_withdraw", ofNat bridge.sequencerBalanceAfterWithdraw)]

def RollupConfig.toJson (rollup : RollupConfig) : Json :=
  ofMembers
    [("url", .str rollup.url),
      ("images", ofMap .str (rollup.images.map fun (image, tag) => (image.name, tag)))]

def Config.toJson (config : Config) : Json :=
  ofMembers
    [("upgrade_name", .str config.upgradeName), ("image_tag", .str config.imageTag),
      ("pre_upgrade_images", ofMap PreUpgradeImages.toJson config.preUpgradeImages),
      ("upgrades", ofMap (ofList .str) config.upgrades),
      ("validators", ofList ValidatorConfig.toJson config.validators),
      ("activation_offset", ofNat config.activationOffset),
      ("concurrency", ofNat config.concurrency), ("chart_root", .str config.chartRoot),
      ("rollup", config.rollup.toJson), ("bridge", config.bridge.toJson)]

end UpgradeDrill
