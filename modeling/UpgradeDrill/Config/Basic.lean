import UpgradeDrill.Drill.Error
import UpgradeDrill.Node.Rollup
import UpgradeDrill.Upgrade.Aspen
import UpgradeDrill.Upgrade.Release

/-!
# Configurations

What a drill is told: which upgrade to carry out with which images, on which validators, and what to
move across the bridge. Everything but the upgrade and its image tag has a default.
-/

namespace UpgradeDrill

structure PreUpgradeImages where
  sequencer : String
  sequencerRelayer : String
  deriving DecidableEq, Repr

/-- A validator of the network under test. -/
structure ValidatorConfig where
  /-- The name, which is also the moniker. -/
  name : String
  address : String
  priceFeed : Bool := true
  /-- Where the node is reached, if not where a validator of its name is by default. -/
  rpcUrl : Option String := none
  grpcUrl : Option String := none
  deriving DecidableEq, Repr

structure RollupConfig where
  url : String := Rollup.defaultUrl
  /-- The tags that override those of the chart. -/
  images : List (Image × String) := []
  deriving DecidableEq, Repr

/-- Accounts and amounts that are moved across the bridge. -/
structure BridgeConfig where
  /-- The rollup account that is credited when funds are locked. -/
  evmDestination : String
  /-- The sequencer account that is credited by the withdrawal. -/
  sequencerAccount : String
  lockAmount : Nat
  evmBalanceAfterLock : Nat
  /-- A signed transaction of the rollup that withdraws funds. -/
  withdrawTransaction : String
  withdrawTransactionHash : String
  evmBalanceAfterWithdraw : Nat
  sequencerBalanceAfterWithdraw : Nat
  deriving DecidableEq, Repr

structure Config where
  upgradeName : String
  /-- The tag of the images that carry out the upgrade. -/
  imageTag : String
  preUpgradeImages : List (String × PreUpgradeImages)
  upgrades : List (String × List String)
  /-- In the order of their deployment. The last one joins after activation, and the one before it
  is not upgraded in time. -/
  validators : List ValidatorConfig
  /-- How many blocks ahead the upgrade is scheduled. -/
  activationOffset : Nat
  /-- How many deployments may be under way at once. -/
  concurrency : Nat
  chartRoot : String
  rollup : RollupConfig
  bridge : BridgeConfig
  deriving DecidableEq, Repr

namespace ValidatorConfig

def participant (validator : ValidatorConfig) : Participant :=
  let participant := Participant.validator validator.name
  { participant with
    rpcUrl := validator.rpcUrl.getD participant.rpcUrl
    grpcUrl := validator.grpcUrl.getD participant.grpcUrl }

end ValidatorConfig

namespace BridgeConfig

/-- The bridge accounts of the local development cluster. -/
def standard : BridgeConfig where
  evmDestination := "0xaC21B97d35Bf75A7dAb16f35b111a50e78A72F30"
  sequencerAccount := "astria17w0adeg64ky0daxwd2ugyuneellmjgnxl39504"
  lockAmount := 10000000000
  evmBalanceAfterLock := 10000000000000000000
  withdrawTransaction :=
    "0xf8f280843ba60f5782a35194a58639fb5458e65e4fa917ff951c390292c24a15880de0b6b3a7640000b884" ++
    "bab916d000000000000000000000000000000000000000000000000000000000000000200000000000000000" ++
    "00000000000000000000000000000000000000000000002d617374726961313777306164656736346b793064" ++
    "6178776432756779756e65656c6c6d6a676e786c333935303400000000000000000000000000000000000000" ++
    "820a95a034652da1bbcad94f6af3db785127dae70f9b4e7d4da3c3f4b36eafe7fce9bf58a0169ed71974bcd7" ++
    "4f0cea148148b5f3f8da50cdd055057dd18a599a2a3e14679f"
  withdrawTransactionHash := "0x326c3910da4c96c5a40ba1505fc338164b659729f2f975ccb07e8794c96b66f6"
  evmBalanceAfterWithdraw := 9000000000000000000
  sequencerBalanceAfterWithdraw := 1000000000

end BridgeConfig

namespace Config

/-- The images that run before the known upgrade. -/
def standardPreUpgradeImages : List (String × PreUpgradeImages) :=
  [(Aspen.name, ⟨"2.0.0", "1.0.1"⟩)]

def standardUpgrades : List (String × List String) := [(Aspen.name, Aspen.changes)]

/-- The validators of the local development cluster. One of them runs without the price feed, which
must keep working with only a supermajority of them. -/
def standardValidators : List ValidatorConfig :=
  [{ name := "node0", address := "astria1py0ywasutrz8g560f4q54ugy5m90jrpzdja7vs" },
    { name := "node1", address := "astria1aqkcy7psk93a29ujj8aj0w6cucza7taz48guf3" },
    { name := "node2", address := "astria13stmhhrux5xg832szc693lym0fd4ffjwkzyuth",
      priceFeed := false },
    { name := "node3", address := "astria1jtsd309u6a78egrje6pnwsu006agztdaxzzter" },
    { name := "node4", address := "astria1h0wwsjmkhq8pk7z7wjcw34jqhakjh599yhlmxc" }]

def participants (config : Config) : List Participant :=
  config.validators.map (·.participant)

def preUpgrade (config : Config) : Except DrillError PreUpgradeImages :=
  match config.preUpgradeImages.lookup config.upgradeName with
  | some images => .ok images
  | none => .error (.invalidConfig ("no pre-upgrade images for `" ++ config.upgradeName ++ "`"))

def changes (config : Config) : Except DrillError (List String) :=
  match config.upgrades.lookup config.upgradeName with
  | some changes => .ok changes
  | none => .error (.invalidConfig ("unknown upgrade `" ++ config.upgradeName ++ "`"))

/-- How many validators a drill needs: two are held back, and the bridge uses the second to the
fourth. -/
def minValidators : Nat := 4

/-- The first name that was there before; `seen` are the names before the list. -/
def repeated? (seen : List String) : List String → Option String
  | [] => none
  | name :: rest => if seen.contains name then some name else repeated? (name :: seen) rest

def validate (config : Config) : Except DrillError Unit := do
  let _ ← config.changes
  let _ ← config.preUpgrade
  let count := config.validators.length
  if count < minValidators then
    throw (.invalidConfig s!"at least {minValidators} validators required, found {count}")
  match repeated? [] (config.validators.map (·.name)) with
  | some name => throw (.invalidConfig ("duplicate validator `" ++ name ++ "`"))
  | none =>
    if config.concurrency = 0 then throw (.invalidConfig "concurrency must be at least 1")
    if config.activationOffset ≤ Lifecycle.preCheckMargin then
      throw (.invalidConfig s!"activation offset must exceed {Lifecycle.preCheckMargin}")

end Config

end UpgradeDrill
