/-
The genesis of `testnet_genesis` for lists of authorities that share stashes, controllers or keys.

`Node.GenesisSound` takes all of them to be distinct. Nothing in chain_spec.rs checks that, and a chain specification is a
file that people write, so this module says what happens for ANY list.
Results:
- `genesis_starts_iff`: exactly when the chain starts. Session panics on a key that another account holds
  (`ClashFree`); controllers do not matter;
- `genesis_left_out`: an authority that shares its stash or its controller with an earlier one is in session, but is not
  bonded and does not stand (`bondable`). minimum_validator_count is the number of authorities configured, so the chain as
  built can hold an election exactly when nobody was left out;
- `genesis_shared_starves`: otherwise it never holds one, until somebody else stands or the minimum is lowered.
Witness: `twins`, two authorities with one controller.
-/
import Mathlib.Tactic
import NodeTemplate.Node.GenesisKeys
import NodeTemplate.Node.GenesisBonds
import NodeTemplate.Node.GenesisRuns

namespace NodeTemplate.ChainSpec

open NodeTemplate.Core NodeTemplate.Runtime NodeTemplate.Substrate

/-! ## The whole build -/

section Build

variable {A B G : Type}

/-- Staking's own items of the configuration -/
def configured (vc : ℕ) (auths : List (Authority A B G)) (s : Storage A B G) : Storage A B G :=
  { s with
    validatorCount := vc
    minimumValidatorCount := asU32 auths.length
    invulnerables := auths.map Authority.stash
    forceEra := .notForcing }

theorem Unbonded.configured {s : Storage A B G} (h : Unbonded s) (vc : ℕ) (auths : List (Authority A B G)) :
    Unbonded (configured vc auths s) := ⟨h.bonded, h.ledger, h.candidates⟩

variable [DecidableEq A]

/-- what Staking elects from once the bondable are bonded -/
def bondableEntries (validatorCount minimumValidatorCount issuance : ℕ) (auths : List (Authority A B G)) :
    StakingEntries A where
  validatorCount := validatorCount
  minimumValidatorCount := minimumValidatorCount
  totalIssuance := issuance
  bonded := ofList ((bondable auths).map fun x => (x.stash, x.controller))
  ledger := ofList ((bondable auths).map fun x => (x.controller, ⟨x.stash, initialStaking, initialStaking⟩))
  candidates := ((bondable auths).map Authority.stash).toFinset

theorem bondable_candidates_card (auths : List (Authority A B G)) (vc mvc issuance : ℕ) :
    (bondableEntries vc mvc issuance auths).candidates.card = (bondable auths).length := by
  show ((bondable auths).map Authority.stash).toFinset.card = _
  rw [List.toFinset_card_of_nodup (bondable_nodup auths).1, List.length_map]

/-- **Staking's builder**, for any list -/
theorem stakingBuild_bondable (wasm : List UInt8) (auths : List (Authority A B G)) (root : A) (accounts : List A)
    (vc : ℕ) {s : Storage A B G} (h : Unbonded s)
    (hprov : ∀ a, 0 < (s.account a).free → 0 < (s.account a).providers) :
    stakingBuild existentialDeposit (testnetSections wasm auths root accounts vc).staking s =
      if ∀ x ∈ auths, initialStaking ≤ (s.account x.stash).free then
        some (bondedBy auths (configured vc auths s))
      else none :=
  foldlM_stakerBuild (h.configured vc auths) hprov auths

theorem stakingBuild_entries (wasm : List UInt8) (auths : List (Authority A B G)) (root : A) (accounts : List A)
    (vc : ℕ) {s t : Storage A B G} (h : Unbonded s)
    (hprov : ∀ a, 0 < (s.account a).free → 0 < (s.account a).providers)
    (ht : stakingBuild existentialDeposit (testnetSections wasm auths root accounts vc).staking s = some t) :
    t.entries = bondableEntries vc (asU32 auths.length) s.totalIssuance auths := by
  rw [stakingBuild_bondable wasm auths root accounts vc h hprov] at ht
  obtain ⟨-, ht⟩ := Option.ite_none_right_eq_some.1 ht
  cases ht
  rw [bondedBy_eq (h.configured vc auths)]
  rfl

variable [DecidableEq B] [DecidableEq G] [Inhabited B] [Inhabited G]

/-- the storage when Session's builder has its turn -/
def beforeSession (root : A) (accounts : List A) : Storage A B G :=
  { (Storage.empty : Storage A B G) with
    sudoKey := some root
    totalIssuance := accounts.length * endowment
    account := endowed accounts }

/-- of the builders, Balances, Session, Staking and Treasury have something to do -/
theorem documentedStorage_stages (profile : Profile) (treasury : A) (elect : Election A B G) (wasm : List UInt8)
    (auths : List (Authority A B G)) (root : A) {accounts : List A} (hlen : accounts.length < 2 ^ 64) (vc : ℕ) :
    documentedStorage profile treasury elect constructRuntime (testnetSections wasm auths root accounts vc) =
      if accounts.Nodup then
        (sessionBuild (genesisParams elect).sessionManager (auths.map keyEntry) (beforeSession root accounts)).bind
          fun u => (stakingBuild existentialDeposit (testnetSections wasm auths root accounts vc).staking u).map
            (treasuryBuild existentialDeposit treasury)
      else none := by
  have horder : genesisOrder constructRuntime = [.sudo, .system, .balances, .indices, .babe, .grandpa, .session,
      .staking, .council, .technicalCommittee, .technicalMembership, .electionsPhragmen, .treasury] := by decide
  have hed : (genesisParams elect).existentialDeposit = existentialDeposit := rfl
  rw [documentedStorage, horder]
  simp only [List.foldlM_cons, List.foldlM_nil, documentedBuild, Option.bind_eq_bind, Option.bind_some,
    Option.pure_def, testnetSections, hed, babeBuild, grandpaBuild, initializeAuthorities, if_true, Option.map_some]
  rw [balancesBuild_endowed profile accounts hlen _ rfl]
  by_cases hnd : accounts.Nodup
  · rw [if_pos hnd, if_pos hnd, Option.bind_some]
    simp only [Option.map_eq_bind, Function.comp_def]
    rfl
  · rw [if_neg hnd, if_neg hnd]
    rfl

/-- Session's builder, on these authorities: exactly when it goes through -/
theorem sessionBuild_iff (elect : Election A B G) (auths : List (Authority A B G)) (root : A) (accounts : List A) :
    (∃ u, sessionBuild (genesisParams elect).sessionManager (auths.map keyEntry) (beforeSession root accounts) =
        some u) ↔
      auths ≠ [] ∧ (∀ x ∈ auths, x.stash ∈ accounts) ∧ ClashFree auths := by
  have hval : (auths.map keyEntry).map (fun x => x.2.1) = auths.map Authority.stash := by
    simp [Function.comp_def, keyEntry]
  have howned : KeysOwned (beforeSession root accounts : Storage A B G) :=
    ⟨fun k a => by simp [beforeSession, Storage.empty], fun k a => by simp [beforeSession, Storage.empty]⟩
  have hloop := foldlM_sessionKeyBuild_iff (s := beforeSession root accounts) rfl howned auths
  have hprov : ∀ x : Authority A B G,
      0 < ((beforeSession root accounts : Storage A B G).account x.stash).providers ↔ x.stash ∈ accounts :=
    fun x => endowed_providers
  simp only [hprov] at hloop
  rw [← hloop, sessionBuild, hval]
  constructor
  · rintro ⟨u, hu⟩
    rw [Option.bind_eq_bind, Option.bind_eq_some_iff] at hu
    obtain ⟨v, hv, hu⟩ := hu
    refine ⟨fun hnil => ?_, v, hv⟩
    have hpre : PreStaking v := by
      rw [foldlM_sessionKeyBuild_writes hv]
      exact ⟨rfl, rfl, rfl, rfl, rfl, rfl⟩
    rw [sessionStart_fallback elect _ hpre, hnil] at hu
    simp at hu
  · rintro ⟨hne, v, hv⟩
    have hpre : PreStaking v := by
      rw [foldlM_sessionKeyBuild_writes hv]
      exact ⟨rfl, rfl, rfl, rfl, rfl, rfl⟩
    have hmap : auths.map Authority.stash ≠ [] := by simpa using hne
    exact ⟨_, by rw [hv, Option.bind_eq_bind, Option.bind_some, sessionStart_fallback elect _ hpre, if_pos hmap]⟩

/-- and it leaves accounts and bonds alone -/
theorem sessionBuild_untouched {elect : Election A B G} {auths : List (Authority A B G)} {root : A} {accounts : List A}
    {u : Storage A B G}
    (hu : sessionBuild (genesisParams elect).sessionManager (auths.map keyEntry) (beforeSession root accounts) =
      some u) : u.account = endowed accounts ∧ Unbonded u := by
  unfold sessionBuild at hu
  rw [Option.bind_eq_bind, Option.bind_eq_some_iff] at hu
  obtain ⟨v, hv, hu⟩ := hu
  have hwrites := foldlM_sessionKeyBuild_writes hv
  have hpre : PreStaking v := by
    rw [hwrites]
    exact ⟨rfl, rfl, rfl, rfl, rfl, rfl⟩
  rw [sessionStart_fallback elect _ hpre, Option.ite_none_right_eq_some] at hu
  obtain ⟨-, hu⟩ := hu
  cases hu
  rw [hwrites]
  exact ⟨rfl, rfl, rfl, rfl⟩

/-- **When the build goes through**, for any lists -/
theorem documentedStorage_iff (profile : Profile) (treasury : A) (elect : Election A B G) (wasm : List UInt8)
    (auths : List (Authority A B G)) (root : A) {accounts : List A} (hlen : accounts.length < 2 ^ 64) (vc : ℕ) :
    (∃ t, documentedStorage profile treasury elect constructRuntime (testnetSections wasm auths root accounts vc) =
        some t) ↔
      auths ≠ [] ∧ accounts.Nodup ∧ (∀ x ∈ auths, x.stash ∈ accounts) ∧ ClashFree auths := by
  have hsession := sessionBuild_iff elect auths root accounts
  rw [documentedStorage_stages profile treasury elect wasm auths root hlen]
  constructor
  · rintro ⟨t, ht⟩
    obtain ⟨hnd, ht⟩ := Option.ite_none_right_eq_some.1 ht
    obtain ⟨u, hu, -⟩ := Option.bind_eq_some_iff.1 ht
    obtain ⟨hne, hall, hfree⟩ := hsession.1 ⟨u, hu⟩
    exact ⟨hne, hnd, hall, hfree⟩
  · rintro ⟨hne, hnd, hall, hfree⟩
    obtain ⟨u, hu⟩ := hsession.2 ⟨hne, hall, hfree⟩
    obtain ⟨hacc, hunb⟩ := sessionBuild_untouched hu
    have hstake : ∀ x ∈ auths, initialStaking ≤ (u.account x.stash).free := by
      intro x hx
      rw [hacc]
      exact initialStaking_le_endowed (hall x hx)
    have hprov : ∀ a, 0 < (u.account a).free → 0 < (u.account a).providers := by
      rw [hacc]
      exact endowed_provided
    have hbonds := stakingBuild_bondable wasm auths root accounts vc hunb hprov
    rw [if_pos hstake] at hbonds
    exact ⟨_, by rw [if_pos hnd, hu, Option.bind_some, hbonds, Option.map_some]⟩

/-- **What Staking has to elect from**, for any lists -/
theorem documentedStorage_entries {profile : Profile} {treasury : A} {elect : Election A B G} {wasm : List UInt8}
    {auths : List (Authority A B G)} {root : A} {accounts : List A} (hlen : accounts.length < 2 ^ 64) {vc : ℕ}
    {t : Storage A B G}
    (ht : documentedStorage profile treasury elect constructRuntime (testnetSections wasm auths root accounts vc) =
      some t) : t.entries = bondableEntries vc (asU32 auths.length) t.totalIssuance auths := by
  rw [documentedStorage_stages profile treasury elect wasm auths root hlen] at ht
  obtain ⟨-, ht⟩ := Option.ite_none_right_eq_some.1 ht
  obtain ⟨u, hu, ht⟩ := Option.bind_eq_some_iff.1 ht
  obtain ⟨v, hv, rfl⟩ := Option.map_eq_some_iff.1 ht
  obtain ⟨hacc, hunb⟩ := sessionBuild_untouched hu
  have hprov : ∀ a, 0 < (u.account a).free → 0 < (u.account a).providers := by
    rw [hacc]
    exact endowed_provided
  have hentries := stakingBuild_entries wasm auths root accounts vc hunb hprov hv
  rw [treasuryBuild_writes]
  exact congrArg (fun e => { e with totalIssuance := (treasuryBuild existentialDeposit treasury v).totalIssuance }) hentries

/-! ## Results -/

theorem genesisStore_starts (F : Framework A B G) (wasm : List UInt8) (auths : List (Authority A B G))
    (hauths : auths.length < 2 ^ 31) (root : A) (accounts : List A) (hlen : accounts.length < 2 ^ 64) :
    (∃ st, genesisStore F wasm auths root accounts = some st) ↔
      auths ≠ [] ∧ accounts.Nodup ∧ (∀ x ∈ auths, x.stash ∈ accounts) ∧ ClashFree auths := by
  have hview := view_buildStorage F constructRuntime _
    (testnetSections_plain wasm auths root accounts (auths.length * 2))
  rw [genesisStore, testnetGenesis_eq F.profile wasm hauths, Option.bind_eq_bind, Option.bind_some,
    ← documentedStorage_iff F.profile F.treasury F.elect wasm auths root hlen (auths.length * 2), ← hview]
  simp only [Option.map_eq_some_iff]
  constructor
  · rintro ⟨st, hst⟩
    exact ⟨_, st, hst, rfl⟩
  · rintro ⟨_, st, hst, -⟩
    exact ⟨st, hst⟩

/-- **When a chain starts.** For any lists: there is an authority, no account is endowed twice, every stash is endowed,
and no entry brings a session key that another stash has registered by then; with distinct stashes, the Babe keys and the
Grandpa keys are distinct. Controllers do not matter. -/
theorem genesis_starts_iff (F : Framework A B G) (wasm : List UInt8) (auths : List (Authority A B G))
    (hauths : auths.length < 2 ^ 31) (root : A) (accounts : List A) (hlen : accounts.length < 2 ^ 64) :
    ((∃ st, genesisStore F wasm auths root accounts = some st) ↔
      auths ≠ [] ∧ accounts.Nodup ∧ (∀ x ∈ auths, x.stash ∈ accounts) ∧ ClashFree auths) ∧
    ((auths.map Authority.stash).Nodup →
      (ClashFree auths ↔ (auths.map Authority.babe).Nodup ∧ (auths.map Authority.grandpa).Nodup)) :=
  ⟨genesisStore_starts F wasm auths hauths root accounts hlen, clashFree_iff_nodup⟩

/-- two authorities with one controller -/
def twins : List (Authority ℕ ℕ ℕ) := [⟨0, 1, 2, 3⟩, ⟨4, 1, 5, 6⟩]

/-- they start, for their stashes and keys are distinct -/
theorem twins_start : ∃ st, genesisStore smallFramework [] twins 1 [0, 4] = some st := by
  obtain ⟨hstart, hkeys⟩ := genesis_starts_iff smallFramework [] twins (by decide) 1 [0, 4] (by decide)
  exact hstart.2 ⟨by decide, by decide, by decide, (hkeys (by decide)).2 (by decide)⟩

theorem twins_built : ∃ st, genesisStore smallFramework [] twins 1 [0, 4] = some st :=
  (genesisStore_starts smallFramework [] twins (by decide) 1 [0, 4] (by decide)).2
    ⟨by decide, by decide, by decide, (clashFree_iff_nodup (by decide)).2 (by decide)⟩

/-- what a chain that starts has to elect from -/
theorem genesisStore_entries {F : Framework A B G} {wasm : List UInt8} {auths : List (Authority A B G)}
    (hauths : auths.length < 2 ^ 31) {root : A} {accounts : List A} (hlen : accounts.length < 2 ^ 64) {st : F.Store}
    (hst : genesisStore F wasm auths root accounts = some st) :
    (F.view st).entries = bondableEntries (auths.length * 2) auths.length (F.view st).totalIssuance auths := by
  have hcount : asU32 auths.length = auths.length := asU32_of_lt (by omega)
  have hview := view_buildStorage F constructRuntime _
    (testnetSections_plain wasm auths root accounts (auths.length * 2))
  rw [genesisStore, testnetGenesis_eq F.profile wasm hauths, Option.bind_eq_bind, Option.bind_some] at hst
  rw [hst, Option.map_some] at hview
  have hentries := documentedStorage_entries hlen hview.symm
  rwa [hcount] at hentries

/-- **Who is left out.** Every authority is a validator of session 0; those bonded, with the initial stake, and standing
for election are the `bondable` ones; and the chain has candidates enough for an election exactly if no two authorities
share a stash or a controller. -/
theorem genesis_left_out {F : Framework A B G} {wasm : List UInt8} {auths : List (Authority A B G)}
    (hauths : auths.length < 2 ^ 31) {root : A} {accounts : List A} (hlen : accounts.length < 2 ^ 64) {st : F.Store}
    (hst : genesisStore F wasm auths root accounts = some st) :
    (F.view st).sessionValidators = auths.map Authority.stash ∧
    (∀ a, a ∈ (F.view st).candidates ↔ ∃ x ∈ bondable auths, x.stash = a) ∧
    (∀ a c, (F.view st).bonded a = some c ↔ ∃ x ∈ bondable auths, x.stash = a ∧ x.controller = c) ∧
    (∀ c l, (F.view st).ledger c = some l ↔
      ∃ x ∈ bondable auths, x.controller = c ∧ (⟨x.stash, initialStaking, initialStaking⟩ : StakingLedger A) = l) ∧
    (max (F.view st).minimumValidatorCount 1 ≤ (F.view st).candidates.card ↔
      (auths.map Authority.stash).Nodup ∧ (auths.map Authority.controller).Nodup) := by
  have hentries := genesisStore_entries hauths hlen hst
  have hcand : (F.view st).candidates = ((bondable auths).map Authority.stash).toFinset :=
    congrArg StakingEntries.candidates hentries
  have hbonded : (F.view st).bonded = ofList ((bondable auths).map fun x => (x.stash, x.controller)) :=
    congrArg StakingEntries.bonded hentries
  have hledger : (F.view st).ledger =
      ofList ((bondable auths).map fun x => (x.controller, ⟨x.stash, initialStaking, initialStaking⟩)) :=
    congrArg StakingEntries.ledger hentries
  have hmin : (F.view st).minimumValidatorCount = auths.length :=
    congrArg StakingEntries.minimumValidatorCount hentries
  have hcard : (F.view st).candidates.card = (bondable auths).length := by
    rw [hcand]
    exact bondable_candidates_card auths 0 0 0
  have hpos : 0 < auths.length := List.length_pos_of_ne_nil (genesisStore_unexposed hst).1
  refine ⟨(genesisStore_started hst).validators, fun a => ?_, fun a c => ?_, fun c l => ?_, ?_⟩
  · rw [hcand]
    exact mem_stashes
  · rw [hbonded]
    exact ofList_column (bondable_nodup auths).1
  · rw [hledger]
    exact ofList_column (bondable_nodup auths).2
  · rw [hmin, hcard, ← bondable_length_iff]
    omega

/-- the second twin is a validator and does not stand -/
theorem twins_left_out : ∃ st, genesisStore smallFramework [] twins 1 [0, 4] = some st ∧
    (smallFramework.view st).sessionValidators = [0, 4] ∧ 4 ∉ (smallFramework.view st).candidates ∧
    ¬ max (smallFramework.view st).minimumValidatorCount 1 ≤ (smallFramework.view st).candidates.card := by
  obtain ⟨st, hst⟩ := twins_built
  obtain ⟨hval, hcand, -, -, henough⟩ := genesis_left_out (by decide) (by decide) hst
  refine ⟨st, hst, hval, fun h4 => ?_, fun h => ?_⟩
  · obtain ⟨x, hx, he⟩ := (hcand 4).1 h4
    revert x
    decide
  · exact absurd (henough.1 h) (by decide)

/-- **Sharing starves.** Where two authorities share a stash or a controller, the chain never holds an election, as long as
nobody else stands, nobody lowers the minimum and nobody submits a solution. -/
theorem genesis_shared_starves {F : Framework A B G} (C : Chain F) {wasm : List UInt8}
    {auths : List (Authority A B G)} (hauths : auths.length < 2 ^ 31) {root : A} {accounts : List A}
    (hlen : accounts.length < 2 ^ 64) {st : F.Store} (hst : genesisStore F wasm auths root accounts = some st)
    (hshared : ¬ ((auths.map Authority.stash).Nodup ∧ (auths.map Authority.controller).Nodup)) {n : ℕ}
    {st' : F.Store} {H : ℕ → Prop}
    (h : C.Run H (fun queued _ e => queued = none ∧ (F.view st).minimumValidatorCount ≤ e.minimumValidatorCount ∧
      e.candidates ⊆ (F.view st).candidates) st n st') :
    (F.view st').sessionValidators = auths.map Authority.stash ∧
    ∀ v, (F.view st').erasStakers (eraOf n) v = none := by
  have hentries := genesisStore_entries hauths hlen hst
  have hmin : (F.view st).minimumValidatorCount = auths.length :=
    congrArg StakingEntries.minimumValidatorCount hentries
  have hcard : (F.view st).candidates.card = (bondable auths).length := by
    rw [← bondable_candidates_card auths (auths.length * 2) auths.length (F.view st).totalIssuance, ← hentries]
    rfl
  have hlt : (bondable auths).length < auths.length := by
    rw [← not_le, bondable_length_iff]
    exact hshared
  refine genesis_unelected hst ?_ h
  rintro queued nominators e ⟨hq, hle, hsub⟩
  have hsmall : e.candidates.card ≤ (F.view st).candidates.card := Finset.card_le_card hsub
  exact ⟨hq, by omega⟩

/-- the twins after ten rotations -/
theorem twins_starve : ∃ st st', genesisStore smallFramework [] twins 1 [0, 4] = some st ∧
    smallChain.Run (fun _ => True) (fun queued _ e => queued = none ∧
      (smallFramework.view st).minimumValidatorCount ≤ e.minimumValidatorCount ∧
      e.candidates ⊆ (smallFramework.view st).candidates) st 10 st' ∧
    (smallFramework.view st').sessionValidators = [0, 4] ∧ ∀ v, (smallFramework.view st').erasStakers 3 v = none := by
  obtain ⟨st, hst⟩ := twins_built
  obtain ⟨st', hrun⟩ := referenceChain_run .release 99 soloElection (H := fun _ => True) trivial
    (P := fun queued _ e => queued = none ∧ (smallFramework.view st).minimumValidatorCount ≤ e.minimumValidatorCount ∧
      e.candidates ⊆ (smallFramework.view st).candidates) (s := st) .start ⟨rfl, le_refl _, Finset.Subset.refl _⟩ 10
  rw [Nat.zero_add] at hrun
  obtain ⟨hval, hbare⟩ := genesis_shared_starves smallChain (by decide) (by decide) hst (by decide) hrun
  exact ⟨st, st', hst, hrun, hval, hbare⟩

end Build

end NodeTemplate.ChainSpec
