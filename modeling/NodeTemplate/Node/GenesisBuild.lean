/-
What building the storage of `testnet_genesis` computes.

ABSTRACT MODEL. `genesisStorage` is the storage the chain specification is for, written down directly: every endowed
account with its balance, every authority bonded, standing for election, invulnerable and owner of its keys, and
nothing else. Each map is `Core.ofList` of one column of the list of authorities, so it says at once which entries
there are and that there are no others.

REFINEMENT. `documentedStorage_testnetGenesis`: the builders, run in declaration order over the sections of
`testnet_genesis`, compute exactly `genesisStorage`, and fail exactly when there is no authority, an account is endowed
twice, or a stash is not endowed. One lemma per stateful builder: `balancesBuild_endowed`, `sessionBuild_authorities`,
`stakingBuild_authorities`. Each loop is turned into its plain form by `Core.foldlM_checked`, with the freshness of the
entries still to come as its invariant.
-/
import Mathlib.Tactic
import NodeTemplate.Node.ChainSpec

namespace NodeTemplate.ChainSpec

open NodeTemplate.Core NodeTemplate.Runtime NodeTemplate.Substrate

section Authorities

variable {A B G : Type}

/-- pairwise distinct stashes, controllers, Babe keys and Grandpa keys -/
structure Distinct (auths : List (Authority A B G)) : Prop where
  stash : (auths.map Authority.stash).Nodup
  controller : (auths.map Authority.controller).Nodup
  babe : (auths.map Authority.babe).Nodup
  grandpa : (auths.map Authority.grandpa).Nodup

theorem Distinct.of_cons {x : Authority A B G} {auths : List (Authority A B G)} (h : Distinct (x :: auths)) :
    Distinct auths :=
  ⟨(List.nodup_cons.1 h.stash).2, (List.nodup_cons.1 h.controller).2, (List.nodup_cons.1 h.babe).2,
    (List.nodup_cons.1 h.grandpa).2⟩

theorem Distinct.ne {x y : Authority A B G} {auths : List (Authority A B G)} (h : Distinct (x :: auths))
    (hy : y ∈ auths) :
    y.stash ≠ x.stash ∧ y.controller ≠ x.controller ∧ y.babe ≠ x.babe ∧ y.grandpa ≠ x.grandpa := by
  refine ⟨fun e => ?_, fun e => ?_, fun e => ?_, fun e => ?_⟩
  · exact (List.nodup_cons.1 h.stash).1 (e ▸ List.mem_map_of_mem hy)
  · exact (List.nodup_cons.1 h.controller).1 (e ▸ List.mem_map_of_mem hy)
  · exact (List.nodup_cons.1 h.babe).1 (e ▸ List.mem_map_of_mem hy)
  · exact (List.nodup_cons.1 h.grandpa).1 (e ▸ List.mem_map_of_mem hy)

variable [DecidableEq A]

theorem mem_stashes {auths : List (Authority A B G)} {a : A} :
    a ∈ (auths.map Authority.stash).toFinset ↔ ∃ x ∈ auths, x.stash = a := by
  rw [List.mem_toFinset, List.mem_map]

theorem Distinct.card_stashes {auths : List (Authority A B G)} (h : Distinct auths) :
    (auths.map Authority.stash).toFinset.card = auths.length := by
  rw [List.toFinset_card_of_nodup h.stash, List.length_map]

end Authorities

section BalancesBuild

variable {A B G : Type} [DecidableEq A]

/-! ## Balances -/

/-- the endowment of the chain specification: `1 << 60` -/
def endowment : ℕ := 2 ^ 60

/-- accounts after Balances: the endowed ones exist, and no others -/
def endowed (accounts : List A) : A → AccountInfo := fun x => if x ∈ accounts then ⟨1, endowment⟩ else ⟨0, 0⟩

theorem foldl_setFree {accounts : List A} (hnd : accounts.Nodup) (m : A → AccountInfo)
    (hm : ∀ x ∈ accounts, m x = ⟨0, 0⟩) :
    (accounts.map fun k => (k, 1 <<< 60)).foldl (fun m e => setFree e.1 e.2 m) m =
      fun x => if x ∈ accounts then ⟨1, endowment⟩ else m x := by
  induction accounts generalizing m with
  | nil => simp
  | cons a accounts ih =>
    rw [List.nodup_cons] at hnd
    have ha : m a = ⟨0, 0⟩ := hm a List.mem_cons_self
    have hset : setFree a (1 <<< 60) m = Function.update m a ⟨1, endowment⟩ := by
      simp [setFree, ha, endowment]
    rw [List.map_cons, List.foldl_cons, hset, ih hnd.2]
    · funext x
      by_cases hx : x = a
      · subst hx; simp [hnd.1]
      · simp [hx]
    · intro x hx
      have hxa : x ≠ a := fun h => hnd.1 (h ▸ hx)
      rw [Function.update_of_ne hxa]
      exact hm x (List.mem_cons_of_mem a hx)

theorem balancesBuild_endowed (p : Profile) (accounts : List A) (hlen : accounts.length < 2 ^ 64) (s : Storage A B G)
    (hs : s.account = fun _ => ⟨0, 0⟩) :
    balancesBuild p existentialDeposit (accounts.map fun k => (k, 1 <<< 60)) s =
      if accounts.Nodup then
        some { s with totalIssuance := accounts.length * endowment, account := endowed accounts }
      else none := by
  have hkeys : (accounts.map fun k => (k, 1 <<< 60)).map Prod.fst = accounts := by simp [Function.comp_def]
  have hvals : (accounts.map fun k => (k, 1 <<< 60)).map Prod.snd = List.replicate accounts.length (1 <<< 60) := by
    simp [Function.comp_def]
  have hsum : (List.replicate accounts.length (1 <<< 60)).sum = accounts.length * endowment := by
    simp [endowment]
  have hfit : accounts.length * endowment < 2 ^ 128 := by
    calc accounts.length * endowment < 2 ^ 64 * 2 ^ 60 := by
          exact Nat.mul_lt_mul_of_pos_right hlen (by decide)
      _ ≤ 2 ^ 128 := by decide
  have hed : ∀ e ∈ accounts.map fun k => (k, 1 <<< 60), existentialDeposit ≤ e.2 := by
    intro e he
    obtain ⟨k, -, rfl⟩ := List.mem_map.1 he
    show existentialDeposit ≤ 1 <<< 60
    decide
  have hissued : p.sum 128 (List.replicate accounts.length (1 <<< 60)) = some (accounts.length * endowment) := by
    rw [← hsum] at hfit ⊢
    exact p.sum_of_lt hfit
  rw [balancesBuild, hkeys, hvals, hissued, hs]
  by_cases hnd : accounts.Nodup
  · rw [if_pos ⟨hed, hnd⟩, if_pos hnd, Option.map_some, foldl_setFree hnd _ (fun _ _ => rfl)]
    rfl
  · rw [if_neg (fun h => hnd h.2), if_neg hnd]

theorem endowed_providers {accounts : List A} {x : A} : 0 < (endowed accounts x).providers ↔ x ∈ accounts := by
  by_cases hx : x ∈ accounts <;> simp [endowed, hx]

theorem endowed_provided {accounts : List A} (x : A) (h : 0 < (endowed accounts x).free) :
    0 < (endowed accounts x).providers := by
  by_cases hx : x ∈ accounts
  · simp [endowed, hx]
  · simp [endowed, hx] at h

/-- an endowed account can pay the initial stake -/
theorem initialStaking_le_endowed {accounts : List A} {x : A} (h : x ∈ accounts) :
    initialStaking ≤ (endowed accounts x).free := by
  simp only [endowed, h, if_true]
  decide

end BalancesBuild

/-! ## Session -/

section SessionBuild

variable {A B G : Type} [DecidableEq A] [DecidableEq B] [DecidableEq G]

/-- what registering one authority's keys writes -/
def registerKeys (s : Storage A B G) (x : Authority A B G) : Storage A B G :=
  { s with
    nextKeys := Function.update s.nextKeys x.stash (some ⟨x.babe, x.grandpa⟩)
    babeOwner := Function.update s.babeOwner x.babe (some x.stash)
    grandpaOwner := Function.update s.grandpaOwner x.grandpa (some x.stash) }

/-- nobody holds the keys of the authorities still to come -/
structure KeysFresh (s : Storage A B G) (auths : List (Authority A B G)) : Prop where
  nextKeys : ∀ x ∈ auths, s.nextKeys x.stash = none
  babe : ∀ x ∈ auths, s.babeOwner x.babe = none
  grandpa : ∀ x ∈ auths, s.grandpaOwner x.grandpa = none

theorem sessionKeyBuild_fresh {s : Storage A B G} {x : Authority A B G} {auths : List (Authority A B G)}
    (h : KeysFresh s (x :: auths)) :
    sessionKeyBuild s (keyEntry x) =
      if 0 < (s.account x.stash).providers then some (registerKeys s x) else none := by
  have h1 := h.nextKeys x List.mem_cons_self
  have h2 := h.babe x List.mem_cons_self
  have h3 := h.grandpa x List.mem_cons_self
  simp only [sessionKeyBuild, keyEntry, sessionKeys, innerSetKeys, setKeyOwner, h1, h2, h3, Option.all_none, if_true,
    Option.map_none, reduceCtorEq, if_false, Option.bind_eq_bind, Option.bind_some, Option.pure_def, incConsumers]
  rfl

theorem registerKeys_fresh {s : Storage A B G} {x : Authority A B G} {auths : List (Authority A B G)}
    (hd : Distinct (x :: auths)) (h : KeysFresh s (x :: auths)) : KeysFresh (registerKeys s x) auths := by
  refine ⟨fun y hy => ?_, fun y hy => ?_, fun y hy => ?_⟩
  · exact (Function.update_of_ne (hd.ne hy).1 _ _).trans (h.nextKeys y (List.mem_cons_of_mem x hy))
  · exact (Function.update_of_ne (hd.ne hy).2.2.1 _ _).trans (h.babe y (List.mem_cons_of_mem x hy))
  · exact (Function.update_of_ne (hd.ne hy).2.2.2 _ _).trans (h.grandpa y (List.mem_cons_of_mem x hy))

theorem foldl_registerKeys (s : Storage A B G) (auths : List (Authority A B G)) :
    auths.foldl registerKeys s =
      { s with
        nextKeys := insertAll s.nextKeys (auths.map fun x => (x.stash, ⟨x.babe, x.grandpa⟩))
        babeOwner := insertAll s.babeOwner (auths.map fun x => (x.babe, x.stash))
        grandpaOwner := insertAll s.grandpaOwner (auths.map fun x => (x.grandpa, x.stash)) } := by
  induction auths generalizing s with
  | nil => rfl
  | cons x auths ih => rw [List.foldl_cons, ih]; rfl

/-- the keys of all authorities registered, and no others -/
def withKeys (auths : List (Authority A B G)) (s : Storage A B G) : Storage A B G :=
  { s with
    nextKeys := ofList (auths.map fun x => (x.stash, ⟨x.babe, x.grandpa⟩))
    babeOwner := ofList (auths.map fun x => (x.babe, x.stash))
    grandpaOwner := ofList (auths.map fun x => (x.grandpa, x.stash)) }

/-- the loop of Session's builder: every stash exists, and then every authority's keys are registered -/
theorem foldlM_sessionKeyBuild {auths : List (Authority A B G)} (hd : Distinct auths) {s : Storage A B G}
    (hn : s.nextKeys = fun _ => none) (hb : s.babeOwner = fun _ => none) (hg : s.grandpaOwner = fun _ => none) :
    (auths.map keyEntry).foldlM sessionKeyBuild s =
      if ∀ x ∈ auths, 0 < (s.account x.stash).providers then some (withKeys auths s) else none := by
  have hfresh : KeysFresh s auths := ⟨fun x _ => by rw [hn], fun x _ => by rw [hb], fun x _ => by rw [hg]⟩
  have hloop : auths.foldl registerKeys s = withKeys auths s := by rw [foldl_registerKeys, hn, hb, hg]; rfl
  rw [List.foldlM_map, ← hloop]
  -- invariant: accounts untouched; the entries still to come are distinct and fresh
  refine foldlM_checked (P := fun t l => t.account = s.account ∧ Distinct l ∧ KeysFresh t l) ?_ ?_ s auths
    ⟨rfl, hd, hfresh⟩
  · rintro t x l ⟨hacc, -, hf⟩
    rw [sessionKeyBuild_fresh hf, hacc]
  · rintro t x l ⟨hacc, hdl, hf⟩ -
    exact ⟨hacc, hdl.of_cons, registerKeys_fresh hdl hf⟩

variable [Inhabited B] [Inhabited G]

/-- what Session's builder writes for the authorities -/
def withSession (auths : List (Authority A B G)) (s : Storage A B G) : Storage A B G :=
  { openEra (withKeys auths s) with
    sessionValidators := auths.map Authority.stash
    queuedKeys := auths.map fun x => (x.stash, ⟨x.babe, x.grandpa⟩)
    babeAuthorities := auths.map Authority.babe
    grandpaAuthorities := auths.map Authority.grandpa }

/-- the keys registered in the loop are the ones queued for session 1 -/
theorem startFallback_withKeys {auths : List (Authority A B G)} (hd : Distinct auths) (s : Storage A B G) :
    startFallback (auths.map Authority.stash) (withKeys auths s) = withSession auths s := by
  have hkeys : ∀ x ∈ auths, (withKeys auths s).nextKeys x.stash = some ⟨x.babe, x.grandpa⟩ := by
    intro x hx
    exact (ofList_column hd.stash).2 ⟨x, hx, rfl, rfl⟩
  simp only [startFallback, withSession, List.map_map]
  congr 1
  · exact List.map_congr_left fun x hx => by simp [hkeys x hx]
  · exact List.map_congr_left fun x hx => by simp [hkeys x hx]
  · exact List.map_congr_left fun x hx => by simp [hkeys x hx]

/-- **Session's builder.** It succeeds exactly when there is an authority and every stash exists. -/
theorem sessionBuild_authorities (elect : Election A B G) {auths : List (Authority A B G)} (hd : Distinct auths)
    {s : Storage A B G} (hpre : PreStaking s) (hn : s.nextKeys = fun _ => none) (hb : s.babeOwner = fun _ => none)
    (hg : s.grandpaOwner = fun _ => none) :
    sessionBuild (genesisParams elect).sessionManager (auths.map keyEntry) s =
      if auths ≠ [] ∧ ∀ x ∈ auths, 0 < (s.account x.stash).providers then some (withSession auths s) else none := by
  have hpre' : PreStaking (withKeys auths s) :=
    ⟨hpre.currentEra, hpre.erasStakers, hpre.candidates, hpre.forceEra, hpre.babeAuthorities, hpre.grandpaAuthorities⟩
  have hval : (auths.map keyEntry).map (fun x => x.2.1) = auths.map Authority.stash := by
    simp [Function.comp_def, keyEntry]
  rw [sessionBuild, foldlM_sessionKeyBuild hd hn hb hg, hval]
  by_cases hall : ∀ x ∈ auths, 0 < (s.account x.stash).providers
  · rw [if_pos hall, Option.bind_eq_bind, Option.bind_some, sessionStart_fallback elect _ hpre',
      startFallback_withKeys hd]
    have hiff : auths.map Authority.stash ≠ [] ↔
        auths ≠ [] ∧ ∀ x ∈ auths, 0 < (s.account x.stash).providers := by
      rw [ne_eq, List.map_eq_nil_iff]
      exact ⟨fun h => ⟨h, hall⟩, fun h => h.1⟩
    exact if_congr hiff rfl rfl
  · rw [if_neg hall, if_neg (fun h => hall h.2)]
    rfl

end SessionBuild

/-! ## Staking -/

section StakingBuild

variable {A B G : Type} [DecidableEq A]

/-- what bonding and nominating one authority writes -/
def bondValidator (s : Storage A B G) (x : Authority A B G) : Storage A B G :=
  { s with
    bonded := Function.update s.bonded x.stash (some x.controller)
    ledger := Function.update s.ledger x.controller (some ⟨x.stash, initialStaking, initialStaking⟩)
    candidates := insert x.stash s.candidates }

/-- the authorities still to come are neither bonded nor controllers -/
structure BondFresh (s : Storage A B G) (auths : List (Authority A B G)) : Prop where
  bonded : ∀ x ∈ auths, s.bonded x.stash = none
  ledger : ∀ x ∈ auths, s.ledger x.controller = none

theorem stakerBuild_fresh {s : Storage A B G} {x : Authority A B G} {auths : List (Authority A B G)}
    (hprov : ∀ a, 0 < (s.account a).free → 0 < (s.account a).providers) (h : BondFresh s (x :: auths)) :
    stakerBuild existentialDeposit s (stakerEntry x) =
      if initialStaking ≤ (s.account x.stash).free then some (bondValidator s x) else none := by
  have h1 := h.bonded x List.mem_cons_self
  have h2 := h.ledger x List.mem_cons_self
  have h3 : ¬ initialStaking < existentialDeposit := by decide
  by_cases hfree : initialStaking ≤ (s.account x.stash).free
  · have hp : 0 < (s.account x.stash).providers := hprov _ (lt_of_lt_of_le (by decide) hfree)
    have hbond : bond existentialDeposit x.stash x.controller initialStaking s = .ok
        { s with
          bonded := Function.update s.bonded x.stash (some x.controller)
          ledger := Function.update s.ledger x.controller (some ⟨x.stash, initialStaking, initialStaking⟩) } := by
      simp [bond, h1, h2, h3, incConsumers, hp, min_eq_left hfree]
    simp [stakerBuild, stakerEntry, hfree, hbond, dropError, validate, bondValidator]
  · simp [stakerBuild, stakerEntry, hfree]

theorem bondValidator_fresh {s : Storage A B G} {x : Authority A B G} {auths : List (Authority A B G)}
    (hd : Distinct (x :: auths)) (h : BondFresh s (x :: auths)) : BondFresh (bondValidator s x) auths := by
  refine ⟨fun y hy => ?_, fun y hy => ?_⟩
  · exact (Function.update_of_ne (hd.ne hy).1 _ _).trans (h.bonded y (List.mem_cons_of_mem x hy))
  · exact (Function.update_of_ne (hd.ne hy).2.1 _ _).trans (h.ledger y (List.mem_cons_of_mem x hy))

theorem foldl_bondValidator (s : Storage A B G) (auths : List (Authority A B G)) :
    auths.foldl bondValidator s =
      { s with
        bonded := insertAll s.bonded (auths.map fun x => (x.stash, x.controller))
        ledger := insertAll s.ledger (auths.map fun x => (x.controller, ⟨x.stash, initialStaking, initialStaking⟩))
        candidates := s.candidates ∪ (auths.map Authority.stash).toFinset } := by
  induction auths generalizing s with
  | nil => simp [insertAll]
  | cons x auths ih =>
    have hc : s.candidates ∪ ((x :: auths).map Authority.stash).toFinset =
        insert x.stash s.candidates ∪ (auths.map Authority.stash).toFinset := by
      simp [Finset.insert_union]
    rw [List.foldl_cons, ih, hc]
    rfl

/-- what Staking's builder writes for the authorities -/
def withStaking (validatorCount minimumValidatorCount : ℕ) (auths : List (Authority A B G)) (s : Storage A B G) :
    Storage A B G :=
  { s with
    validatorCount := validatorCount
    minimumValidatorCount := minimumValidatorCount
    invulnerables := auths.map Authority.stash
    forceEra := .notForcing
    bonded := ofList (auths.map fun x => (x.stash, x.controller))
    ledger := ofList (auths.map fun x => (x.controller, ⟨x.stash, initialStaking, initialStaking⟩))
    candidates := (auths.map Authority.stash).toFinset }

/-- **Staking's builder.** No call it makes fails here, so that dropping errors drops nothing: it succeeds exactly when
every stash can pay its bond. -/
theorem stakingBuild_authorities (vc mvc : ℕ) {auths : List (Authority A B G)} (hd : Distinct auths)
    {s : Storage A B G} (hprov : ∀ a, 0 < (s.account a).free → 0 < (s.account a).providers)
    (hb : s.bonded = fun _ => none) (hl : s.ledger = fun _ => none) (hc : s.candidates = ∅) :
    stakingBuild existentialDeposit ⟨vc, mvc, auths.map stakerEntry, auths.map Authority.stash, .notForcing⟩ s =
      if ∀ x ∈ auths, initialStaking ≤ (s.account x.stash).free then some (withStaking vc mvc auths s) else none := by
  set s0 : Storage A B G := { s with
    validatorCount := vc, minimumValidatorCount := mvc, invulnerables := auths.map Authority.stash,
    forceEra := .notForcing } with hs0
  have hfresh : BondFresh s0 auths := ⟨fun x _ => by simp [hs0, hb], fun x _ => by simp [hs0, hl]⟩
  have hloop : auths.foldl bondValidator s0 = withStaking vc mvc auths s := by
    rw [foldl_bondValidator]
    simp [hs0, hb, hl, hc, withStaking, ofList]
  rw [stakingBuild, List.foldlM_map, ← hloop]
  -- invariant: accounts untouched; the entries still to come are distinct, not bonded and not controllers
  refine foldlM_checked (P := fun t l => t.account = s.account ∧ Distinct l ∧ BondFresh t l) ?_ ?_ s0 auths
    ⟨rfl, hd, hfresh⟩
  · rintro t x l ⟨hacc, -, hf⟩
    rw [stakerBuild_fresh (by rw [hacc]; exact hprov) hf, hacc]
  · rintro t x l ⟨hacc, hdl, hf⟩ -
    exact ⟨hacc, hdl.of_cons, bondValidator_fresh hdl hf⟩

end StakingBuild

/-! ## The whole build -/

section Build

variable {A B G : Type} [DecidableEq A]

/-- accounts at the end: the endowed ones, and the treasury's own with the existential deposit -/
def genesisAccounts (treasury : A) (accounts : List A) : A → AccountInfo := fun x =>
  if x ∈ accounts then ⟨1, endowment⟩ else if x = treasury then ⟨1, existentialDeposit⟩ else ⟨0, 0⟩

/-- what is issued: the endowments, and the existential deposit of the treasury's account unless that is endowed -/
def genesisIssuance (treasury : A) (accounts : List A) : ℕ :=
  accounts.length * endowment + if treasury ∈ accounts then 0 else existentialDeposit

theorem genesisIssuance_lt (treasury : A) {accounts : List A} (hlen : accounts.length < 2 ^ 64) :
    genesisIssuance treasury accounts < 2 ^ 128 := by
  have h : accounts.length * endowment ≤ 2 ^ 64 * 2 ^ 60 := Nat.mul_le_mul_right _ hlen.le
  have h500 : (if treasury ∈ accounts then 0 else existentialDeposit) ≤ 500 := by
    split_ifs
    · exact Nat.zero_le _
    · exact le_refl _
  calc genesisIssuance treasury accounts ≤ 2 ^ 64 * 2 ^ 60 + 500 := Nat.add_le_add h h500
    _ < 2 ^ 128 := by decide

/-- **Treasury's builder.** It issues the existential deposit for the treasury's account, unless that is endowed. -/
theorem treasuryBuild_endowed (treasury : A) {accounts : List A} (hlen : accounts.length < 2 ^ 64)
    {s : Storage A B G} (hacc : s.account = endowed accounts)
    (hiss : s.totalIssuance = accounts.length * endowment) :
    treasuryBuild existentialDeposit treasury s =
      { s with
        account := genesisAccounts treasury accounts
        totalIssuance := genesisIssuance treasury accounts } := by
  by_cases ht : treasury ∈ accounts
  · have hfree : ¬ (s.account treasury).free < existentialDeposit := by
      simp [hacc, endowed, ht, endowment, existentialDeposit]
    have haccs : genesisAccounts treasury accounts = s.account := by
      rw [hacc]
      funext x
      by_cases hx : x ∈ accounts
      · simp [genesisAccounts, endowed, hx]
      · have hne : x ≠ treasury := fun h => hx (h ▸ ht)
        simp [genesisAccounts, endowed, hx, hne]
    have hissued : genesisIssuance treasury accounts = s.totalIssuance := by simp [genesisIssuance, ht, hiss]
    rw [treasuryBuild, if_neg hfree, haccs, hissued]
  · have hzero : s.account treasury = ⟨0, 0⟩ := by simp [hacc, endowed, ht]
    have haccs : setFree treasury existentialDeposit s.account = genesisAccounts treasury accounts := by
      funext x
      by_cases hx : x = treasury
      · subst hx
        simp [setFree, hzero, genesisAccounts, ht, existentialDeposit]
      · simp [setFree, genesisAccounts, hx, hacc, endowed]
    have hissued : min (s.totalIssuance + existentialDeposit) (2 ^ 128 - 1) = genesisIssuance treasury accounts := by
      have hlt := genesisIssuance_lt treasury hlen
      rw [genesisIssuance, if_neg ht, ← hiss] at hlt ⊢
      omega
    have hlt : (s.account treasury).free < existentialDeposit := by rw [hzero]; decide
    rw [treasuryBuild, if_pos hlt, haccs, hzero, Nat.sub_zero, hissued]

variable [DecidableEq B] [DecidableEq G]

/-- the storage the chain specification is for -/
def genesisStorage (treasury : A) (auths : List (Authority A B G)) (root : A) (accounts : List A) :
    Storage A B G where
  sudoKey := some root
  account := genesisAccounts treasury accounts
  totalIssuance := genesisIssuance treasury accounts
  babeAuthorities := auths.map Authority.babe
  grandpaAuthorities := auths.map Authority.grandpa
  nextKeys := ofList (auths.map fun x => (x.stash, ⟨x.babe, x.grandpa⟩))
  babeOwner := ofList (auths.map fun x => (x.babe, x.stash))
  grandpaOwner := ofList (auths.map fun x => (x.grandpa, x.stash))
  sessionValidators := auths.map Authority.stash
  queuedKeys := auths.map fun x => (x.stash, ⟨x.babe, x.grandpa⟩)
  validatorCount := auths.length * 2
  minimumValidatorCount := auths.length
  invulnerables := auths.map Authority.stash
  forceEra := .notForcing
  bonded := ofList (auths.map fun x => (x.stash, x.controller))
  ledger := ofList (auths.map fun x => (x.controller, ⟨x.stash, initialStaking, initialStaking⟩))
  candidates := (auths.map Authority.stash).toFinset
  currentEra := some 0
  erasStartSessionIndex := Function.update (fun _ => none) 0 (some 0)
  erasStakers := fun _ _ => none

variable [Inhabited B] [Inhabited G]

/-- **The build computes the intended storage**, and fails exactly when there is no authority, an account is endowed
twice, or a stash is not endowed. -/
theorem documentedStorage_testnetGenesis (profile : Profile) (treasury : A) (elect : Election A B G)
    (wasm : List UInt8) {auths : List (Authority A B G)} (hd : Distinct auths) (hauths : auths.length < 2 ^ 31)
    (root : A) {accounts : List A} (hlen : accounts.length < 2 ^ 64) :
    documentedStorage profile treasury elect constructRuntime
        (testnetSections wasm auths root accounts (auths.length * 2)) =
      if auths ≠ [] ∧ accounts.Nodup ∧ ∀ x ∈ auths, x.stash ∈ accounts then
        some (genesisStorage treasury auths root accounts)
      else none := by
  have horder : genesisOrder constructRuntime = [.sudo, .system, .balances, .indices, .babe, .grandpa, .session,
      .staking, .council, .technicalCommittee, .technicalMembership, .electionsPhragmen, .treasury] := by decide
  have hcount : asU32 auths.length = auths.length := asU32_of_lt (by omega)
  have hed : (genesisParams elect).existentialDeposit = existentialDeposit := rfl
  rw [documentedStorage, horder]
  simp only [List.foldlM_cons, List.foldlM_nil, documentedBuild, Option.bind_eq_bind, Option.bind_some,
    Option.pure_def, testnetSections, hed, hcount, babeBuild, grandpaBuild, initializeAuthorities, if_true,
    Option.map_some]
  rw [balancesBuild_endowed profile accounts hlen _ rfl]
  by_cases hnd : accounts.Nodup
  · rw [if_pos hnd, Option.bind_some, sessionBuild_authorities elect hd ⟨rfl, rfl, rfl, rfl, rfl, rfl⟩ rfl rfl rfl]
    simp only [endowed_providers]
    by_cases hs : auths ≠ [] ∧ ∀ x ∈ auths, x.stash ∈ accounts
    · have hstake : ∀ x ∈ auths, initialStaking ≤ (endowed accounts x.stash).free := by
        intro x hx
        exact initialStaking_le_endowed (hs.2 x hx)
      rw [if_pos hs, if_pos ⟨hs.1, hnd, hs.2⟩, Option.bind_some,
        (stakingBuild_authorities _ _ hd endowed_provided rfl rfl rfl).trans (if_pos hstake), Option.bind_some,
        treasuryBuild_endowed treasury hlen rfl rfl]
      rfl
    · rw [if_neg hs, if_neg (fun h => hs ⟨h.1, h.2.2⟩)]
      rfl
  · rw [if_neg hnd, if_neg (fun h => hnd h.2.1)]
    rfl

end Build

end NodeTemplate.ChainSpec
