/-
Soundness of the genesis of `testnet_genesis`, for every list of authorities and every list of endowed accounts.

Results:
- `genesisStore_isSome`: the build succeeds iff there is an authority, no account is endowed twice and every stash is
  endowed;
- `genesisStore_sound`: a built storage has every authority's stash bonded to its own controller with INITIAL_STAKING,
  standing for election, invulnerable, and owner of its own two session keys; nobody else is any of these; and the
  candidates lie between the two validator counts of Staking (`Sound`);
- `genesis_sound`: the two together, with the total issuance;
- `builtin_chains_start`: the chains `load_spec` knows by itself, development and local testnet, are such chains.
The issuance is NOT the endowments alone. `pallet_treasury` has a genesis builder too, which creates the treasury's
account, so that one existential deposit is issued on top, unless the treasury's account is itself endowed
(`genesisIssuance`). `treasury_deposit_issued` is the smallest such chain.

Premise: the authorities' stashes, controllers, Babe keys and Grandpa keys are pairwise distinct (`Distinct`); fewer
than 2^31 authorities and 2^64 accounts.
-/
import Mathlib.Tactic
import NodeTemplate.Node.GenesisBuild

namespace NodeTemplate.ChainSpec

open NodeTemplate.Core NodeTemplate.Runtime NodeTemplate.Substrate

section Sound

variable {A B G : Type}

/-- what a sound genesis is, with `issuance` issued in total: each clause says which entries there are, and that there
are no others -/
structure Sound (issuance : ℕ) (auths : List (Authority A B G)) (s : Storage A B G) : Prop where
  issued : s.totalIssuance = issuance
  noOverflow : issuance < 2 ^ 128
  bonded : ∀ a c, s.bonded a = some c ↔ ∃ x ∈ auths, x.stash = a ∧ x.controller = c
  ledger : ∀ c l, s.ledger c = some l ↔
    ∃ x ∈ auths, x.controller = c ∧ (⟨x.stash, initialStaking, initialStaking⟩ : StakingLedger A) = l
  candidate : ∀ a, a ∈ s.candidates ↔ ∃ x ∈ auths, x.stash = a
  invulnerable : ∀ a, a ∈ s.invulnerables ↔ ∃ x ∈ auths, x.stash = a
  keys : ∀ a k, s.nextKeys a = some k ↔ ∃ x ∈ auths, x.stash = a ∧ (⟨x.babe, x.grandpa⟩ : SessionKeys B G) = k
  babeOwner : ∀ k a, s.babeOwner k = some a ↔ ∃ x ∈ auths, x.babe = k ∧ x.stash = a
  grandpaOwner : ∀ k a, s.grandpaOwner k = some a ↔ ∃ x ∈ auths, x.grandpa = k ∧ x.stash = a
  enough : s.minimumValidatorCount ≤ s.candidates.card
  seats : s.candidates.card ≤ s.validatorCount

variable [DecidableEq A] [DecidableEq B] [DecidableEq G]

/-- the intended storage is sound -/
theorem genesisStorage_sound (treasury : A) {auths : List (Authority A B G)} (hd : Distinct auths) (root : A)
    {accounts : List A} (hlen : accounts.length < 2 ^ 64) :
    Sound (genesisIssuance treasury accounts) auths (genesisStorage treasury auths root accounts) := by
  have hcard : (genesisStorage treasury auths root accounts).candidates.card = auths.length := hd.card_stashes
  refine ⟨rfl, genesisIssuance_lt treasury hlen, fun a c => ?_, fun c l => ?_, fun a => ?_, fun a => ?_,
    fun a k => ?_, fun k a => ?_, fun k a => ?_, ?_, ?_⟩
  · exact ofList_column hd.stash
  · exact ofList_column hd.controller
  · exact mem_stashes
  · exact List.mem_map
  · exact ofList_column hd.stash
  · exact ofList_column hd.babe
  · exact ofList_column hd.grandpa
  · exact hcard.symm.le
  · rw [hcard]
    exact Nat.le_mul_of_pos_right _ (by decide)

variable [Inhabited B] [Inhabited G]

/-- what is visible of a built store is the intended storage -/
theorem view_genesisStore (F : Framework A B G) (wasm : List UInt8) {auths : List (Authority A B G)}
    (hd : Distinct auths) (hauths : auths.length < 2 ^ 31) (root : A) {accounts : List A}
    (hlen : accounts.length < 2 ^ 64) :
    (genesisStore F wasm auths root accounts).map F.view =
      if auths ≠ [] ∧ accounts.Nodup ∧ ∀ x ∈ auths, x.stash ∈ accounts then
        some (genesisStorage F.treasury auths root accounts)
      else none := by
  rw [genesisStore, testnetGenesis_eq F.profile wasm hauths, Option.bind_eq_bind, Option.bind_some,
    view_buildStorage F _ _ (testnetSections_plain wasm auths root accounts _)]
  exact documentedStorage_testnetGenesis F.profile F.treasury F.elect wasm hd hauths root hlen

theorem genesisStore_isSome (F : Framework A B G) (wasm : List UInt8) {auths : List (Authority A B G)}
    (hd : Distinct auths) (hauths : auths.length < 2 ^ 31) (root : A) {accounts : List A}
    (hlen : accounts.length < 2 ^ 64) :
    (∃ st, genesisStore F wasm auths root accounts = some st) ↔
      auths ≠ [] ∧ accounts.Nodup ∧ ∀ x ∈ auths, x.stash ∈ accounts := by
  have hview := view_genesisStore F wasm hd hauths root hlen
  constructor
  · rintro ⟨st, hst⟩
    rw [hst, Option.map_some] at hview
    by_contra hc
    rw [if_neg hc] at hview
    cases hview
  · intro hc
    rw [if_pos hc, Option.map_eq_some_iff] at hview
    obtain ⟨st, hst, -⟩ := hview
    exact ⟨st, hst⟩

theorem genesisStore_sound (F : Framework A B G) (wasm : List UInt8) {auths : List (Authority A B G)}
    (hd : Distinct auths) (hauths : auths.length < 2 ^ 31) (root : A) {accounts : List A}
    (hlen : accounts.length < 2 ^ 64) {st : F.Store} (hst : genesisStore F wasm auths root accounts = some st) :
    Sound (genesisIssuance F.treasury accounts) auths (F.view st) := by
  have hc := (genesisStore_isSome F wasm hd hauths root hlen).1 ⟨st, hst⟩
  have hview := view_genesisStore F wasm hd hauths root hlen
  rw [hst, if_pos hc, Option.map_some, Option.some.injEq] at hview
  rw [hview]
  exact genesisStorage_sound F.treasury hd root hlen

/-- **Genesis soundness.** -/
theorem genesis_sound (F : Framework A B G) (wasm : List UInt8) (auths : List (Authority A B G))
    (hd : Distinct auths) (hauths : auths.length < 2 ^ 31) (root : A) (accounts : List A)
    (hlen : accounts.length < 2 ^ 64) :
    ((∃ st, genesisStore F wasm auths root accounts = some st) ↔
      auths ≠ [] ∧ accounts.Nodup ∧ ∀ x ∈ auths, x.stash ∈ accounts) ∧
    ∀ st, genesisStore F wasm auths root accounts = some st →
      Sound (accounts.length * 2 ^ 60 + if F.treasury ∈ accounts then 0 else existentialDeposit) auths (F.view st) :=
  ⟨genesisStore_isSome F wasm hd hauths root hlen, fun _ hst => genesisStore_sound F wasm hd hauths root hlen hst⟩

end Sound

/-! ## A small chain -/

/-- the documented behaviour, with an election in which everybody wins; account 99 is the treasury's -/
def smallFramework : Framework ℕ ℕ ℕ := reference .release 99 soloElection

def lone : Authority ℕ ℕ ℕ := ⟨0, 1, 2, 3⟩

theorem lone_distinct : Distinct [lone] := by
  refine ⟨?_, ?_, ?_, ?_⟩ <;> decide

/-- two authorities that share nothing -/
def pair : List (Authority ℕ ℕ ℕ) := [⟨0, 1, 2, 3⟩, ⟨4, 5, 6, 7⟩]

theorem pair_distinct : Distinct pair := by
  refine ⟨?_, ?_, ?_, ?_⟩ <;> decide

/-- two authorities, endowed, on a chain whose treasury is endowed too -/
theorem pair_genesis_sound :
    (∃ st, genesisStore smallFramework [] pair 1 [4, 99, 0] = some st) ∧
    ∀ st, genesisStore smallFramework [] pair 1 [4, 99, 0] = some st →
      Sound (3 * 2 ^ 60) pair (smallFramework.view st) := by
  obtain ⟨hiff, hsound⟩ := genesis_sound smallFramework [] pair pair_distinct (by decide) 1 [4, 99, 0] (by decide)
  exact ⟨hiff.2 (by decide), hsound⟩

/-- **The treasury's deposit is issued on top.** One authority and its endowed stash: the chain starts, and the total
issuance is not the one endowment. -/
theorem treasury_deposit_issued :
    Distinct [lone] ∧ [lone.stash].Nodup ∧ (∀ x ∈ [lone], x.stash ∈ [lone.stash]) ∧
    ∃ st, genesisStore smallFramework [] [lone] 1 [lone.stash] = some st ∧
      (smallFramework.view st).totalIssuance = 2 ^ 60 + 500 ∧
      ¬ Sound ([lone.stash].length * 2 ^ 60) [lone] (smallFramework.view st) := by
  have hstart : ∃ st, genesisStore smallFramework [] [lone] 1 [lone.stash] = some st :=
    (genesisStore_isSome smallFramework [] lone_distinct (by decide) 1 (by decide)).2 (by decide)
  obtain ⟨st, hst⟩ := hstart
  have hissued : (smallFramework.view st).totalIssuance = 2 ^ 60 + 500 :=
    (genesisStore_sound smallFramework [] lone_distinct (by decide) 1 (by decide) hst).issued
  refine ⟨lone_distinct, by decide, by decide, st, hst, hissued, fun h => ?_⟩
  rw [h.issued] at hissued
  exact absurd hissued (by decide)

/-! ## The shipped chains -/

section Shipped

variable {A B G : Type}

/-- key derivation keeps the seeds of a configuration apart: the accounts of all, the session keys of the authorities -/
structure KeyDerivation.Separates (d : KeyDerivation A B G) (authoritySeeds accountSeeds : List String) : Prop where
  account : ∀ a ∈ accountSeeds, ∀ b ∈ accountSeeds, d.getAccountIdFromSeed a = d.getAccountIdFromSeed b → a = b
  babe : ∀ a ∈ authoritySeeds, ∀ b ∈ authoritySeeds, getFromSeed d.babe a = getFromSeed d.babe b → a = b
  grandpa : ∀ a ∈ authoritySeeds, ∀ b ∈ authoritySeeds, getFromSeed d.grandpa a = getFromSeed d.grandpa b → a = b

theorem KeyDerivation.Separates.mono {d : KeyDerivation A B G} {authoritySeeds accountSeeds auths accounts : List String}
    (h : d.Separates authoritySeeds accountSeeds) (hauths : auths ⊆ authoritySeeds) (haccounts : accounts ⊆ accountSeeds) :
    d.Separates auths accounts where
  account a ha b hb := h.account a (haccounts ha) b (haccounts hb)
  babe a ha b hb := h.babe a (hauths ha) b (hauths hb)
  grandpa a ha b hb := h.grandpa a (hauths ha) b (hauths hb)

theorem authorityKeysFromSeed_distinct {d : KeyDerivation A B G} {seeds accountSeeds : List String}
    (h : d.Separates seeds accountSeeds) (hnd : seeds.Nodup)
    (hseeds : ∀ seed ∈ seeds, seed ∈ accountSeeds ∧ seed ++ "//stash" ∈ accountSeeds) :
    Distinct (seeds.map d.authorityKeysFromSeed) := by
  have hstash : ∀ a ∈ seeds, ∀ b ∈ seeds,
      d.getAccountIdFromSeed (a ++ "//stash") = d.getAccountIdFromSeed (b ++ "//stash") → a = b := by
    intro a ha b hb hab
    simpa using h.account _ (hseeds a ha).2 _ (hseeds b hb).2 hab
  refine ⟨?_, ?_, ?_, ?_⟩ <;> rw [List.map_map]
  · exact hnd.map_on hstash
  · exact hnd.map_on fun a ha b hb => h.account a (hseeds a ha).1 b (hseeds b hb).1
  · exact hnd.map_on h.babe
  · exact hnd.map_on h.grandpa

variable [DecidableEq A] [DecidableEq B] [DecidableEq G] [Inhabited B] [Inhabited G]

/-- a chain made of seeds starts if it has an authority and every authority's accounts are among the endowed seeds -/
theorem seededConfig_starts (F : Framework A B G) {d : KeyDerivation A B G} {name id : String}
    {chainType : ChainType} {wasm : Option (List UInt8)} {authoritySeeds accountSeeds : List String}
    (h : d.Separates authoritySeeds accountSeeds) (hne : authoritySeeds ≠ []) (hauth : authoritySeeds.Nodup)
    (hacc : accountSeeds.Nodup) (hseeds : ∀ seed ∈ authoritySeeds, seed ∈ accountSeeds ∧ seed ++ "//stash" ∈ accountSeeds)
    (hauths : authoritySeeds.length < 2 ^ 31) (hlen : accountSeeds.length < 2 ^ 64) {c : ChainConfig A B G}
    (hc : d.seededConfig name id chainType wasm authoritySeeds accountSeeds = .ok c) :
    ∃ st, c.store F = some st ∧
      Sound (genesisIssuance F.treasury c.endowedAccounts) c.initialAuthorities (F.view st) := by
  cases wasm with
  | none => cases hc
  | some code =>
    cases hc
    have hd := authorityKeysFromSeed_distinct h hauth hseeds
    have hauths' : (authoritySeeds.map d.authorityKeysFromSeed).length < 2 ^ 31 := by rwa [List.length_map]
    have hlen' : (accountSeeds.map d.getAccountIdFromSeed).length < 2 ^ 64 := by rwa [List.length_map]
    have hstart := (genesisStore_isSome F code hd hauths' (d.getAccountIdFromSeed "Alice") hlen').2
    obtain ⟨st, hst⟩ := hstart (by
      refine ⟨by simpa using hne, hacc.map_on h.account, ?_⟩
      intro x hx
      obtain ⟨seed, hseed, rfl⟩ := List.mem_map.1 hx
      exact List.mem_map_of_mem (hseeds seed hseed).2)
    exact ⟨st, hst, genesisStore_sound F code hd hauths' _ hlen' hst⟩

/-- the seeds the two built-in chains use: those of the local testnet, which has the development chain's among them -/
def builtinAuthoritySeeds : List String := ["Alice", "Bob"]

def builtinAccountSeeds : List String :=
  ["Alice", "Bob", "Charlie", "Dave", "Eve", "Ferdie", "Alice//stash", "Bob//stash", "Charlie//stash", "Dave//stash",
    "Eve//stash", "Ferdie//stash"]

/-- **Every built-in chain starts, soundly**, if the runtime's code is there and key derivation does not collide on the
seeds these chains use -/
theorem builtin_chains_start (F : Framework A B G) {d : KeyDerivation A B G}
    (h : d.Separates builtinAuthoritySeeds builtinAccountSeeds) {wasm : Option (List UInt8)}
    {fromJsonFile : String → Except String (ChainConfig A B G)} {id : String} (hid : id ∈ builtinIds)
    {c : ChainConfig A B G} (hc : d.loadSpec wasm fromJsonFile id = .ok c) :
    ∃ st, c.store F = some st ∧
      Sound (genesisIssuance F.treasury c.endowedAccounts) c.initialAuthorities (F.view st) := by
  have hconfig : d.developmentConfig wasm = .ok c ∨ d.localTestnetConfig wasm = .ok c := by
    simp only [builtinIds, List.mem_cons, List.not_mem_nil, or_false] at hid
    rcases hid with rfl | rfl | rfl
    · exact Or.inl hc
    · exact Or.inr hc
    · exact Or.inr hc
  rcases hconfig with hc | hc
  · exact seededConfig_starts F (h.mono (by decide) (by decide)) (by decide) (by decide) (by decide) (by decide)
      (by decide) (by decide) hc
  · exact seededConfig_starts F h (by decide) (by decide) (by decide) (by decide) (by decide) (by decide) hc

end Shipped

end NodeTemplate.ChainSpec
