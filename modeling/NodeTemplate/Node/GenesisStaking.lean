/-
Session against Staking at genesis: the validators of session 0 and the stake recorded for them.

`construct_runtime!` declares Session before Staking. Session's builder asks its session manager, which is Staking, for
the validators of session 0; Staking's candidates do not exist yet, so there is no election, and Session silently falls
back to its own list of keys. Era 0 is opened all the same, with no exposure recorded in it.

Results:
- `documentedStorage_sessionFirst`: for EVERY declaration list that has Session's builder before Staking's, the session
  starts from Session's own list and no exposure is recorded;
- `session_staking_disagree`: so it is for every chain of `testnet_genesis`. The validators are the right accounts and
  not one of them has stake in era 0;
- `builtin_chains_disagree`: the chains the node ships start, and start so;
- `stakingFirst_agree`: with the two exchanged in the declaration, every chain that can start has them agree, for any
  election in which self-staked candidates win when there is a seat for each, as long as the endowments do not make the
  initial stake worth less than a vote (fewer than 2^53 of them).
Witness: `lone_validator_unexposed`, the smallest chain of the runtime as declared.
-/
import Mathlib.Tactic
import NodeTemplate.Node.GenesisSound

namespace NodeTemplate.ChainSpec

open NodeTemplate.Core NodeTemplate.Runtime NodeTemplate.Substrate

/-! ## What the builders leave alone -/

section Frame

variable {A B G : Type} [DecidableEq A] [DecidableEq B] [DecidableEq G] [Inhabited B] [Inhabited G]
variable {profile : Profile} {treasury : A} {cfg : GenesisConfig A B G} {s t : Storage A B G}

/-- before Session and Staking have had their turn, nothing they read is written -/
theorem documentedBuild_preStaking {params : GenesisParams A B G} {p : Pallet} (hsession : p ≠ .session)
    (hstaking : p ≠ .staking) (hbabe : cfg.babeAuthorities = []) (hgrandpa : cfg.grandpaAuthorities = [])
    (h : documentedBuild profile treasury params cfg s p = some t) (hs : PreStaking s) : PreStaking t := by
  cases p with
  | session => exact absurd rfl hsession
  | staking => exact absurd rfl hstaking
  | balances =>
    rw [balancesBuild_writes h]
    exact ⟨hs.currentEra, hs.erasStakers, hs.candidates, hs.forceEra, hs.babeAuthorities, hs.grandpaAuthorities⟩
  | babe =>
    simp only [documentedBuild, hbabe, babeBuild, initializeAuthorities, if_true, Option.map_some,
      Option.some.injEq] at h
    exact h ▸ hs
  | grandpa =>
    simp only [documentedBuild, hgrandpa, grandpaBuild, initializeAuthorities, if_true, Option.map_some,
      Option.some.injEq] at h
    exact h ▸ hs
  | treasury =>
    simp only [documentedBuild, Option.some.injEq] at h
    rw [← h, treasuryBuild_writes]
    exact ⟨hs.currentEra, hs.erasStakers, hs.candidates, hs.forceEra, hs.babeAuthorities, hs.grandpaAuthorities⟩
  | _ =>
    cases h
    exact ⟨hs.currentEra, hs.erasStakers, hs.candidates, hs.forceEra, hs.babeAuthorities, hs.grandpaAuthorities⟩

/-- only Session's builder writes the validators of session 0, and only an election writes exposures -/
theorem documentedBuild_frame {params : GenesisParams A B G} {p : Pallet} (hsession : p ≠ .session)
    (h : documentedBuild profile treasury params cfg s p = some t) :
    t.sessionValidators = s.sessionValidators ∧ t.erasStakers = s.erasStakers := by
  cases p with
  | session => exact absurd rfl hsession
  | staking => rw [stakingBuild_writes h]; exact ⟨rfl, rfl⟩
  | balances => rw [balancesBuild_writes h]; exact ⟨rfl, rfl⟩
  | babe =>
    obtain ⟨l, -, rfl⟩ := Option.map_eq_some_iff.1 h
    exact ⟨rfl, rfl⟩
  | grandpa =>
    obtain ⟨l, -, rfl⟩ := Option.map_eq_some_iff.1 h
    exact ⟨rfl, rfl⟩
  | treasury =>
    simp only [documentedBuild, Option.some.injEq] at h
    rw [← h, treasuryBuild_writes]
    exact ⟨rfl, rfl⟩
  | _ => cases h; exact ⟨rfl, rfl⟩

/-! ## Session before Staking -/

/-- Session's builder before Staking's: its own keys, and no exposures -/
theorem sessionBuild_fallback {elect : Election A B G} {keys : List (A × A × SessionKeys B G)} (hs : PreStaking s)
    (h : sessionBuild (genesisParams elect).sessionManager keys s = some t) :
    keys ≠ [] ∧ t.sessionValidators = keys.map (fun x => x.2.1) ∧ t.erasStakers = fun _ _ => none := by
  unfold sessionBuild at h
  rw [Option.bind_eq_bind, Option.bind_eq_some_iff] at h
  obtain ⟨u, hu, h⟩ := h
  have hpre : PreStaking u := by
    rw [foldlM_sessionKeyBuild_writes hu]
    exact ⟨hs.currentEra, hs.erasStakers, hs.candidates, hs.forceEra, hs.babeAuthorities, hs.grandpaAuthorities⟩
  rw [sessionStart_fallback elect _ hpre] at h
  split_ifs at h with hne
  cases h
  refine ⟨fun hnil => hne ?_, rfl, hpre.erasStakers⟩
  rw [hnil, List.map_nil]

/-- **The order of declaration decides.** Where Session's builder runs before Staking's, session 0 starts from Session's
own list, and no exposure is ever recorded. -/
theorem documentedStorage_sessionFirst {elect : Election A B G} {decls : List (Pallet × List Part)}
    {before after : List Pallet} (horder : genesisOrder decls = before ++ .session :: after)
    (hbefore : ∀ p ∈ before, p ≠ .session ∧ p ≠ .staking) (hafter : ∀ p ∈ after, p ≠ .session)
    (hbabe : cfg.babeAuthorities = []) (hgrandpa : cfg.grandpaAuthorities = [])
    (h : documentedStorage profile treasury elect decls cfg = some t) :
    cfg.sessionKeys ≠ [] ∧ t.sessionValidators = cfg.sessionKeys.map (fun x => x.2.1) ∧
      t.erasStakers = fun _ _ => none := by
  unfold documentedStorage at h
  simp only [horder, List.foldlM_append, List.foldlM_cons, Option.bind_eq_bind, Option.bind_eq_some_iff] at h
  obtain ⟨u, hu, v, hv, ht⟩ := h
  have hpre : PreStaking u := by
    refine foldlM_inv (P := PreStaking) ?_ hu ⟨rfl, rfl, rfl, rfl, rfl, rfl⟩
    intro s t p hp hst hs
    exact documentedBuild_preStaking (hbefore p hp).1 (hbefore p hp).2 hbabe hgrandpa hst hs
  obtain ⟨hne, hval, hexp⟩ := sessionBuild_fallback hpre hv
  have hframe : t.sessionValidators = v.sessionValidators ∧ t.erasStakers = v.erasStakers := by
    refine foldlM_inv (P := fun w : Storage A B G =>
      w.sessionValidators = v.sessionValidators ∧ w.erasStakers = v.erasStakers) ?_ ht ⟨rfl, rfl⟩
    intro s t p hp hst hs
    obtain ⟨h1, h2⟩ := documentedBuild_frame (hafter p hp) hst
    exact ⟨h1.trans hs.1, h2.trans hs.2⟩
  exact ⟨hne, hframe.1.trans hval, hframe.2.trans hexp⟩

end Frame

/-! ## The chain specification -/

section Agreement

variable {A B G : Type}

/-- Session and Staking agree: the validators of session 0 are the authorities' stashes, and each has own stake in
era 0 -/
structure SessionStakingAgree (auths : List (Authority A B G)) (s : Storage A B G) : Prop where
  validators : ∀ a, a ∈ s.sessionValidators ↔ ∃ x ∈ auths, x.stash = a
  exposed : ∀ v ∈ s.sessionValidators, ∃ e, s.erasStakers 0 v = some e ∧ 0 < e.own

/-- with no exposures there is no agreement, as long as there is a validator -/
theorem not_agree_of_unexposed {auths : List (Authority A B G)} {s : Storage A B G} (hne : auths ≠ [])
    (hval : s.sessionValidators = auths.map Authority.stash) (hexp : s.erasStakers = fun _ _ => none) :
    ¬ SessionStakingAgree auths s := by
  intro hagree
  obtain ⟨x, hx⟩ := List.exists_mem_of_ne_nil auths hne
  have hin : x.stash ∈ s.sessionValidators := hval ▸ List.mem_map_of_mem hx
  obtain ⟨e, he, -⟩ := hagree.exposed x.stash hin
  rw [hexp] at he
  cases he

variable [DecidableEq A] [DecidableEq B] [DecidableEq G] [Inhabited B] [Inhabited G]

/-- where the build succeeds: the authorities' stashes in session, and not one exposure -/
theorem genesisStore_unexposed {F : Framework A B G} {wasm : List UInt8} {auths : List (Authority A B G)} {root : A}
    {accounts : List A} {st : F.Store} (hst : genesisStore F wasm auths root accounts = some st) :
    auths ≠ [] ∧ (F.view st).sessionValidators = auths.map Authority.stash ∧
      (F.view st).erasStakers = fun _ _ => none := by
  unfold genesisStore testnetGenesis at hst
  simp only [Option.bind_eq_bind, Option.bind_eq_some_iff, Option.map_eq_some_iff] at hst
  obtain ⟨cfg, ⟨vc, -, rfl⟩, hst⟩ := hst
  have hview := view_buildStorage F constructRuntime _ (testnetSections_plain wasm auths root accounts vc)
  rw [hst, Option.map_some] at hview
  have horder : genesisOrder constructRuntime =
      ([.sudo, .system, .balances, .indices, .babe, .grandpa] : List Pallet) ++
        Pallet.session :: [.staking, .council, .technicalCommittee, .technicalMembership, .electionsPhragmen,
          .treasury] := by
    decide
  obtain ⟨hne, hval, hexp⟩ :=
    documentedStorage_sessionFirst horder (by decide) (by decide) rfl rfl hview.symm
  refine ⟨fun hnil => hne ?_, hval.trans ?_, hexp⟩
  · simp [testnetSections, hnil]
  · simp [testnetSections, keyEntry]

/-- **Session and Staking never agree at genesis.** Whatever the lists: the build, where it succeeds, leaves the right
validators in session, none of them with an exposure. -/
theorem session_staking_disagree (F : Framework A B G) (wasm : List UInt8) (auths : List (Authority A B G)) (root : A)
    (accounts : List A) :
    (∀ st, genesisStore F wasm auths root accounts = some st →
      (F.view st).sessionValidators = auths.map Authority.stash ∧ ∀ era v, (F.view st).erasStakers era v = none) ∧
    ¬ ∃ st, genesisStore F wasm auths root accounts = some st ∧ SessionStakingAgree auths (F.view st) := by
  constructor
  · intro st hst
    obtain ⟨-, hval, hexp⟩ := genesisStore_unexposed hst
    exact ⟨hval, fun era v => by rw [hexp]⟩
  · rintro ⟨st, hst, hagree⟩
    obtain ⟨hne, hval, hexp⟩ := genesisStore_unexposed hst
    exact not_agree_of_unexposed hne hval hexp hagree

/-- one authority with its endowed stash: the chain starts, its validator is in session and has no stake recorded -/
theorem lone_validator_unexposed :
    Distinct [lone] ∧ [lone.stash].Nodup ∧ (∀ x ∈ [lone], x.stash ∈ [lone.stash]) ∧
    ∃ st, genesisStore smallFramework [] [lone] 1 [lone.stash] = some st ∧
      ¬ SessionStakingAgree [lone] (smallFramework.view st) := by
  have hstart : ∃ st, genesisStore smallFramework [] [lone] 1 [lone.stash] = some st :=
    (genesisStore_isSome smallFramework [] lone_distinct (by decide) 1 (by decide)).2 (by decide)
  obtain ⟨st, hst⟩ := hstart
  obtain ⟨hne, hval, hexp⟩ := genesisStore_unexposed hst
  exact ⟨lone_distinct, by decide, by decide, st, hst, not_agree_of_unexposed hne hval hexp⟩

/-- **Every built-in chain starts in disagreement.** -/
theorem builtin_chains_disagree (F : Framework A B G) {d : KeyDerivation A B G}
    (h : d.Separates builtinAuthoritySeeds builtinAccountSeeds) {wasm : Option (List UInt8)}
    {fromJsonFile : String → Except String (ChainConfig A B G)} {id : String} (hid : id ∈ builtinIds)
    {c : ChainConfig A B G} (hc : d.loadSpec wasm fromJsonFile id = .ok c) :
    ∃ st, c.store F = some st ∧ ¬ SessionStakingAgree c.initialAuthorities (F.view st) := by
  obtain ⟨st, hst, -⟩ := builtin_chains_start F h hid hc
  obtain ⟨hne, hval, hexp⟩ := genesisStore_unexposed hst
  exact ⟨st, hst, not_agree_of_unexposed hne hval hexp⟩

end Agreement

/-! ## Staking before Session -/

section StakingFirst

variable {A B G : Type}

/-- the declaration with the two exchanged -/
def stakingFirst : List (Pallet × List Part) :=
  let staking : Pallet × List Part := (.staking, [.module, .call, .config, .storage, .event])
  let session : Pallet × List Part := (.session, [.module, .call, .storage, .event, .config])
  constructRuntime.take 10 ++ staking :: session :: constructRuntime.drop 12

/-- the initial stake is worth a vote: the total issuance has not outgrown it -/
def WorthAVote (issuance : ℕ) : Prop := 0 < currencyToVote issuance initialStaking

/-- premise on an election where nobody nominates: with a seat for every candidate and the initial stake behind each, worth
a vote, exactly the candidates are elected, each with stake of its own -/
def ElectsAll (elect : Election A B G) : Prop :=
  ∀ s : Storage A B G, s.candidates.card ≤ s.validatorCount → (∀ v ∈ s.candidates, ownStake s v = initialStaking) →
    WorthAVote s.totalIssuance → ∃ winners, elect s = some winners ∧ (winners.map Prod.fst).Nodup ∧
      (∀ a, a ∈ winners.map Prod.fst ↔ a ∈ s.candidates) ∧ ∀ x ∈ winners, 0 < x.2.own

variable [DecidableEq A] [DecidableEq B] [DecidableEq G]

/-- Staking's work done, and the keys registered: what the session manager is asked on -/
def bondedStorage (auths : List (Authority A B G)) (s : Storage A B G) : Storage A B G :=
  openEra (withKeys auths (withStaking (auths.length * 2) auths.length auths s))

theorem bondedStorage_ownStake {auths : List (Authority A B G)} (hd : Distinct auths) (s : Storage A B G)
    {x : Authority A B G} (hx : x ∈ auths) : ownStake (bondedStorage auths s) x.stash = initialStaking := by
  have hbonded : (bondedStorage auths s).bonded x.stash = some x.controller :=
    (ofList_column hd.stash).2 ⟨x, hx, rfl, rfl⟩
  have hledger : (bondedStorage auths s).ledger x.controller =
      some ⟨x.stash, initialStaking, initialStaking⟩ := (ofList_column hd.controller).2 ⟨x, hx, rfl, rfl⟩
  rw [ownStake, hbonded, Option.bind_some, hledger, Option.elim_some]

/-- enough candidates for an election, and it elects them all -/
theorem doPhragmen_bondedStorage {elect : Election A B G} (hel : ElectsAll elect) {auths : List (Authority A B G)}
    (hd : Distinct auths) (hne : auths ≠ []) {s : Storage A B G} (hvote : WorthAVote s.totalIssuance) :
    ∃ winners, doPhragmen elect (bondedStorage auths s) = some winners ∧ (winners.map Prod.fst).Nodup ∧
      (∀ a, a ∈ winners.map Prod.fst ↔ ∃ x ∈ auths, x.stash = a) ∧ ∀ x ∈ winners, 0 < x.2.own := by
  have hcard : (bondedStorage auths s).candidates.card = auths.length := hd.card_stashes
  have hpos : 0 < auths.length := List.length_pos_of_ne_nil hne
  have hcount : (bondedStorage auths s).validatorCount = auths.length * 2 := rfl
  have hmin : (bondedStorage auths s).minimumValidatorCount = auths.length := rfl
  have hstake : ∀ v ∈ (bondedStorage auths s).candidates, ownStake (bondedStorage auths s) v = initialStaking := by
    intro v hv
    obtain ⟨x, hx, rfl⟩ := mem_stashes.1 hv
    exact bondedStorage_ownStake hd s hx
  obtain ⟨winners, hwin, hnd, hmem, hown⟩ := hel (bondedStorage auths s) (by omega) hstake hvote
  refine ⟨winners, ?_, hnd, fun a => (hmem a).trans mem_stashes, hown⟩
  rw [doPhragmen, if_neg (by omega), hwin]

variable [Inhabited B] [Inhabited G]

/-- Session's builder after Staking's -/
theorem sessionBuild_elected {elect : Election A B G} (hel : ElectsAll elect) {auths : List (Authority A B G)}
    (hd : Distinct auths) (hne : auths ≠ []) {s : Storage A B G} (hera : s.currentEra = none)
    (hexp : s.erasStakers = fun _ _ => none) (hbabe : s.babeAuthorities = []) (hgrandpa : s.grandpaAuthorities = [])
    (hn : s.nextKeys = fun _ => none) (hb : s.babeOwner = fun _ => none) (hg : s.grandpaOwner = fun _ => none)
    (hacc : ∀ x ∈ auths, 0 < (s.account x.stash).providers) (hvote : WorthAVote s.totalIssuance) :
    ∃ t, sessionBuild (genesisParams elect).sessionManager (auths.map keyEntry)
        (withStaking (auths.length * 2) auths.length auths s) = some t ∧ SessionStakingAgree auths t := by
  obtain ⟨winners, hwin, hnd, hmem, hown⟩ := doPhragmen_bondedStorage hel hd hne hvote
  have hwne : winners ≠ [] := by
    rintro rfl
    obtain ⟨x, hx⟩ := List.exists_mem_of_ne_nil auths hne
    exact absurd ((hmem x.stash).2 ⟨x, hx, rfl⟩) List.not_mem_nil
  obtain ⟨t, ht, hval, hstakers⟩ := sessionStart_elected elect ((auths.map keyEntry).map fun x => x.2.1)
    (s := withKeys auths (withStaking (auths.length * 2) auths.length auths s)) hera hexp rfl hbabe hgrandpa hwin hwne
  have hkeys : (auths.map keyEntry).foldlM sessionKeyBuild (withStaking (auths.length * 2) auths.length auths s) =
      some (withKeys auths (withStaking (auths.length * 2) auths.length auths s)) :=
    (foldlM_sessionKeyBuild (s := withStaking (auths.length * 2) auths.length auths s) hd hn hb hg).trans (if_pos hacc)
  refine ⟨t, ?_, ⟨fun a => ?_, fun v hv => ?_⟩⟩
  · rw [sessionBuild, hkeys, Option.bind_eq_bind, Option.bind_some, ht]
  · rw [hval]
    exact hmem a
  · rw [hval] at hv
    obtain ⟨⟨v, e⟩, hx, rfl⟩ := List.mem_map.1 hv
    refine ⟨e, ?_, hown _ hx⟩
    rw [hstakers]
    exact (ofList_eq_some hnd).2 hx

/-- fewer than 2^53 endowments leave the initial stake worth a vote -/
theorem worthAVote_endowed {n : ℕ} (h : n < 2 ^ 53) : WorthAVote (n * endowment) := by
  have hfactor : max (n * endowment / (2 ^ 64 - 1)) 1 ≤ initialStaking := by
    apply max_le _ (by decide)
    apply Nat.div_le_of_le_mul
    unfold endowment initialStaking dollars bdts
    omega
  have hvalue : 0 < initialStaking / max (n * endowment / (2 ^ 64 - 1)) 1 :=
    Nat.div_pos hfactor (lt_of_lt_of_le Nat.one_pos (le_max_right _ _))
  exact lt_min hvalue (by decide)

theorem documentedStorage_stakingFirst (profile : Profile) (treasury : A) {elect : Election A B G} (hel : ElectsAll elect)
    (wasm : List UInt8) {auths : List (Authority A B G)} (hd : Distinct auths) (hauths : auths.length < 2 ^ 31)
    (hne : auths ≠ []) (root : A) {accounts : List A} (hlen : accounts.length < 2 ^ 53) (hnd : accounts.Nodup)
    (hstash : ∀ x ∈ auths, x.stash ∈ accounts) :
    ∃ t, documentedStorage profile treasury elect stakingFirst
        (testnetSections wasm auths root accounts (auths.length * 2)) = some t ∧ SessionStakingAgree auths t := by
  have horder : genesisOrder stakingFirst = [.sudo, .system, .balances, .indices, .babe, .grandpa, .staking,
      .session, .council, .technicalCommittee, .technicalMembership, .electionsPhragmen, .treasury] := by decide
  have hcount : asU32 auths.length = auths.length := asU32_of_lt (by omega)
  have hed : (genesisParams elect).existentialDeposit = existentialDeposit := rfl
  have hstake : ∀ x ∈ auths, initialStaking ≤ (endowed accounts x.stash).free := by
    intro x hx
    exact initialStaking_le_endowed (hstash x hx)
  have hprov : ∀ x ∈ auths, 0 < (endowed accounts x.stash).providers := by
    intro x hx
    exact endowed_providers.2 (hstash x hx)
  obtain ⟨t, ht, hagree⟩ := sessionBuild_elected (s := { (Storage.empty : Storage A B G) with
    sudoKey := some root, totalIssuance := accounts.length * endowment, account := endowed accounts })
    hel hd hne rfl rfl rfl rfl rfl rfl rfl hprov (worthAVote_endowed hlen)
  refine ⟨treasuryBuild existentialDeposit treasury t, ?_, ?_⟩
  · rw [documentedStorage, horder]
    simp only [List.foldlM_cons, List.foldlM_nil, documentedBuild, Option.bind_eq_bind, Option.bind_some,
      Option.pure_def, testnetSections, hed, hcount, babeBuild, grandpaBuild, initializeAuthorities, if_true,
      Option.map_some]
    rw [balancesBuild_endowed profile accounts (by omega) _ rfl, if_pos hnd, Option.bind_some,
      (stakingBuild_authorities _ _ hd endowed_provided rfl rfl rfl).trans (if_pos hstake), Option.bind_some, ht,
      Option.bind_some]
  · rw [treasuryBuild_writes]
    exact ⟨hagree.validators, hagree.exposed⟩

/-- **With Staking declared first, Session and Staking agree**, on every chain of `testnet_genesis` that can start -/
theorem stakingFirst_agree (F : Framework A B G) (hel : ElectsAll F.elect) (wasm : List UInt8)
    {auths : List (Authority A B G)} (hd : Distinct auths) (hauths : auths.length < 2 ^ 31) (hne : auths ≠ [])
    (root : A) {accounts : List A} (hlen : accounts.length < 2 ^ 53) (hnd : accounts.Nodup)
    (hstash : ∀ x ∈ auths, x.stash ∈ accounts) :
    ∃ cfg st, testnetGenesis F.profile wasm auths root accounts = some cfg ∧
      F.buildStorage stakingFirst cfg = some st ∧ SessionStakingAgree auths (F.view st) := by
  obtain ⟨t, ht, hagree⟩ :=
    documentedStorage_stakingFirst F.profile F.treasury hel wasm hd hauths hne root hlen hnd hstash
  rw [← view_buildStorage F _ _ (testnetSections_plain wasm auths root accounts _), Option.map_eq_some_iff] at ht
  obtain ⟨st, hst, rfl⟩ := ht
  exact ⟨_, st, testnetGenesis_eq F.profile wasm hauths root accounts, hst, hagree⟩

end StakingFirst

end NodeTemplate.ChainSpec
