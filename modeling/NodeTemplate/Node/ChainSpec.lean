/-
The chain specification (node/src/chain_spec.rs): `testnet_genesis` and the two configurations the node ships.

`testnetGenesis` is the function as written: it makes four sections out of two lists, the initial authorities and the
endowed accounts, and leaves the rest at its defaults. Two numbers in it are machine arithmetic: `len() as u32`
truncates, and `len() as u32 * 2` overflows for 2^31 authorities or more, which panics in a debug build (`none`).
`developmentConfig` and `localTestnetConfig` are the two pairs of lists it is called with, `loadSpec` chooses between
them (node/src/command.rs). Key derivation (`Pair::from_string` and
`into_account`) is third-party code and a parameter, `KeyDerivation`.
-/
import Mathlib.Tactic
import NodeTemplate.Runtime.Genesis

namespace NodeTemplate.ChainSpec

open NodeTemplate.Core NodeTemplate.Runtime NodeTemplate.Substrate

/-- an initial authority: the tuple `(AccountId, AccountId, BabeId, GrandpaId)` -/
structure Authority (A B G : Type) where
  stash : A
  controller : A
  babe : B
  grandpa : G
deriving DecidableEq, Repr

def initialStaking : ℕ := 100000 * dollars

section Spec

variable {A B G : Type}

def sessionKeys (babe : B) (grandpa : G) : SessionKeys B G := ⟨babe, grandpa⟩

/-- the session section's entry for an authority: its stash both as account and as validator id -/
def keyEntry (x : Authority A B G) : A × A × SessionKeys B G := (x.stash, x.stash, sessionKeys x.babe x.grandpa)

/-- the staking section's entry for an authority -/
def stakerEntry (x : Authority A B G) : Staker A := ⟨x.stash, x.controller, initialStaking, .validator⟩

/-- the value `testnet_genesis` returns, once its validator count is computed -/
def testnetSections (wasmBinary : List UInt8) (initialAuthorities : List (Authority A B G)) (rootKey : A)
    (endowedAccounts : List A) (validatorCount : ℕ) : GenesisConfig A B G where
  systemCode := wasmBinary
  sudoKey := rootKey
  balances := endowedAccounts.map fun k => (k, 1 <<< 60)
  babeAuthorities := []
  grandpaAuthorities := []
  indices := []
  sessionKeys := initialAuthorities.map keyEntry
  staking := {
    validatorCount := validatorCount
    minimumValidatorCount := asU32 initialAuthorities.length
    stakers := initialAuthorities.map stakerEntry
    invulnerables := initialAuthorities.map Authority.stash
    forceEra := .notForcing }
  councilMembers := []
  technicalCommitteeMembers := []
  technicalMembershipMembers := []
  electionsPhragmenMembers := []

def testnetGenesis (profile : Profile) (wasmBinary : List UInt8) (initialAuthorities : List (Authority A B G))
    (rootKey : A) (endowedAccounts : List A) : Option (GenesisConfig A B G) :=
  (profile.fit 32 (asU32 initialAuthorities.length * 2)).map
    (testnetSections wasmBinary initialAuthorities rootKey endowedAccounts)

theorem testnetSections_plain (wasm : List UInt8) (auths : List (Authority A B G)) (root : A) (accounts : List A)
    (vc : ℕ) : (testnetSections wasm auths root accounts vc).Plain := by
  refine ⟨rfl, rfl, rfl, rfl, rfl, fun x hx => ?_⟩
  obtain ⟨a, -, rfl⟩ := List.mem_map.1 hx
  rfl

/-- with fewer than 2^31 authorities the validator count does not overflow -/
theorem testnetGenesis_eq (profile : Profile) (wasm : List UInt8) {auths : List (Authority A B G)}
    (hauths : auths.length < 2 ^ 31) (root : A) (accounts : List A) :
    testnetGenesis profile wasm auths root accounts =
      some (testnetSections wasm auths root accounts (auths.length * 2)) := by
  have hcount : asU32 auths.length = auths.length := asU32_of_lt (by omega)
  rw [testnetGenesis, hcount, Profile.fit_of_lt _ (by omega), Option.map_some]

variable [DecidableEq A] [DecidableEq B] [DecidableEq G] [Inhabited B] [Inhabited G]

/-- the genesis storage of the chain: the configuration of `testnet_genesis`, built by the runtime -/
def genesisStore (F : Framework A B G) (wasm : List UInt8) (auths : List (Authority A B G)) (root : A)
    (accounts : List A) : Option F.Store := do
  let cfg ← testnetGenesis F.profile wasm auths root accounts
  F.buildStorage constructRuntime cfg

end Spec

/-! ## The shipped chains -/

/-- the third-party key derivation: the account and the two authority keys of a derivation path -/
structure KeyDerivation (A B G : Type) where
  account : String → A
  babe : String → B
  grandpa : String → G

inductive ChainType where
  | development
  | local
deriving DecidableEq, Repr

/-- a `ChainSpec`: its names, and the arguments its genesis closure passes to `testnet_genesis` -/
structure ChainConfig (A B G : Type) where
  name : String
  id : String
  chainType : ChainType
  wasmBinary : List UInt8
  initialAuthorities : List (Authority A B G)
  rootKey : A
  endowedAccounts : List A

section Shipped

variable {A B G : Type}

def getFromSeed {K : Type} (derive : String → K) (seed : String) : K := derive ("//" ++ seed)

def KeyDerivation.getAccountIdFromSeed (d : KeyDerivation A B G) (seed : String) : A := getFromSeed d.account seed

def KeyDerivation.authorityKeysFromSeed (d : KeyDerivation A B G) (seed : String) : Authority A B G :=
  ⟨d.getAccountIdFromSeed (seed ++ "//stash"), d.getAccountIdFromSeed seed, getFromSeed d.babe seed,
    getFromSeed d.grandpa seed⟩

/-- a chain whose authorities and accounts come from seeds; the sudo account is Alice's in both of them -/
def KeyDerivation.seededConfig (d : KeyDerivation A B G) (name id : String) (chainType : ChainType)
    (wasm : Option (List UInt8)) (authoritySeeds accountSeeds : List String) : Except String (ChainConfig A B G) :=
  match wasm with
  | none => .error "Development wasm not available"
  | some wasmBinary => .ok
    { name := name
      id := id
      chainType := chainType
      wasmBinary := wasmBinary
      initialAuthorities := authoritySeeds.map d.authorityKeysFromSeed
      rootKey := d.getAccountIdFromSeed "Alice"
      endowedAccounts := accountSeeds.map d.getAccountIdFromSeed }

def KeyDerivation.developmentConfig (d : KeyDerivation A B G) (wasm : Option (List UInt8)) :
    Except String (ChainConfig A B G) :=
  d.seededConfig "Development" "dev" .development wasm ["Alice"] ["Alice", "Bob", "Alice//stash", "Bob//stash"]

def KeyDerivation.localTestnetConfig (d : KeyDerivation A B G) (wasm : Option (List UInt8)) :
    Except String (ChainConfig A B G) :=
  d.seededConfig "Local Testnet" "local_testnet" .local wasm ["Alice", "Bob"]
    ["Alice", "Bob", "Charlie", "Dave", "Eve", "Ferdie", "Alice//stash", "Bob//stash", "Charlie//stash", "Dave//stash",
      "Eve//stash", "Ferdie//stash"]

/-- the command line's `load_spec` (node/src/command.rs): two built-in chains, any other name is a file -/
def KeyDerivation.loadSpec (d : KeyDerivation A B G) (wasm : Option (List UInt8))
    (fromJsonFile : String → Except String (ChainConfig A B G)) (id : String) : Except String (ChainConfig A B G) :=
  match id with
  | "dev" => d.developmentConfig wasm
  | "" | "local" => d.localTestnetConfig wasm
  | path => fromJsonFile path

/-- the names `load_spec` knows by itself -/
def builtinIds : List String := ["dev", "", "local"]

variable [DecidableEq A] [DecidableEq B] [DecidableEq G] [Inhabited B] [Inhabited G]

def ChainConfig.store (F : Framework A B G) (c : ChainConfig A B G) : Option F.Store :=
  genesisStore F c.wasmBinary c.initialAuthorities c.rootKey c.endowedAccounts

end Shipped

end NodeTemplate.ChainSpec
