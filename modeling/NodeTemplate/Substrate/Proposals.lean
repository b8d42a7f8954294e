/-
Treasury of Substrate 3.0: the calls that put proposals forward and decide on them.

Documented behaviour, on the items of `Substrate.Treasury` and the counter that numbers the proposals.
- `propose_spend`: the signer puts a bond on reserve, a share of the value and the configured minimum at least; the
  proposal is filed under the next number (a `u32`, which wraps).
- `approve_proposal`: a proposal that is there is appended to the queue of the spend step. It can be approved again.
- `reject_proposal`: the proposal is removed and its bond slashed, as far as it is still reserved. What is slashed goes
  where `OnSlash` says. The queue is not looked at: an entry of a rejected proposal stays until the next spend step.

Two details of Balances matter again. An account left with less than the existential deposit is removed, and what it
still had is lost. Where something else holds on to the account (`held`), it is not removed: then only so much is slashed
as leaves the existential deposit.

`treasuryCall_cases` says once what a call that goes through can do. The rest are the lemmas about it, and about the
spend step in the runtime's configuration, that runs need: which proposals change, and what happens to the reserves.
-/
import Mathlib.Tactic
import NodeTemplate.Substrate.Treasury

namespace NodeTemplate.Substrate

open NodeTemplate.Core

/-! ## Data -/

inductive TreasuryCall (A : Type) where
  | proposeSpend (value : ℕ) (beneficiary : A)
  | rejectProposal (proposalId : ℕ)
  | approveProposal (proposalId : ℕ)
deriving DecidableEq, Repr

inductive TreasuryError where
  | badOrigin
  | insufficientProposersBalance
  | invalidIndex
deriving DecidableEq, Repr

/-- where a runtime sends what Treasury slashes (`OnSlash`) -/
inductive OnSlash where
  | unit
  | treasury
deriving DecidableEq, Repr

/-- what the `Config` impl sets for the calls; `O` are the origins of the runtime -/
structure ProposalConfig (O A : Type) where
  existentialDeposit : ℕ
  signer : O → Option A
  approveOrigin : O → Bool
  rejectOrigin : O → Bool
  /-- parts per million -/
  proposalBond : ℕ
  proposalBondMinimum : ℕ
  onSlash : OnSlash

/-- Treasury's items and `ProposalCount` -/
structure TreasuryState (A : Type) where
  items : TreasuryStore A
  proposalCount : ℕ

/-- proposals are numbered by a `u32` -/
def indexBound : ℕ := 2 ^ 32

section Calls

variable {O A : Type}

def ProposalConfig.calculateBond (cfg : ProposalConfig O A) (value : ℕ) : ℕ :=
  max cfg.proposalBondMinimum (permillMul cfg.proposalBond value)

variable [DecidableEq A]

/-! ## Balances -/

/-- put part of the free balance on reserve -/
def reserve (who : A) (value : ℕ) (m : A → Balance) : A → Balance :=
  Function.update m who ⟨(m who).free - value, (m who).reserved + value⟩

/-- an account below the existential deposit is removed -/
def reap (ed : ℕ) (b : Balance) : Balance := if b.total < ed then ⟨0, 0⟩ else b

/-- what a slash of `value` takes from a reserve -/
def slashable (ed : ℕ) (held : Bool) (b : Balance) (value : ℕ) : ℕ :=
  if held ∧ b.total - min b.reserved value < ed then min b.reserved (min value (b.total - ed)) else min b.reserved value

def slashReserved (ed : ℕ) (held : Bool) (who : A) (value : ℕ) (m : A → Balance) : A → Balance :=
  Function.update m who (reap ed ⟨(m who).free, (m who).reserved - slashable ed held (m who) value⟩)

def OnSlash.onUnbalanced (dest : OnSlash) (ed : ℕ) (treasury : A) (amount : ℕ) (m : A → Balance) : A → Balance :=
  match dest with
  | .unit => m
  | .treasury => depositCreating ed treasury amount m

/-! ## The calls -/

/-- a proposal is filed under the next number, its bond on reserve -/
def TreasuryState.file (p : Proposal A) (s : TreasuryState A) : TreasuryState A where
  items := { s.items with
    account := reserve p.proposer p.bond s.items.account
    proposals := Function.update s.items.proposals s.proposalCount (some p) }
  proposalCount := (s.proposalCount + 1) % indexBound

/-- a proposal is removed and its bond slashed -/
def TreasuryState.strike (cfg : ProposalConfig O A) (accounts : TreasuryAccounts A) (held : A → Bool) (i : ℕ)
    (p : Proposal A) (s : TreasuryState A) : TreasuryState A :=
  let ed := cfg.existentialDeposit
  { s with items := { s.items with
      account := cfg.onSlash.onUnbalanced ed accounts.treasury
        (slashable ed (held p.proposer) (s.items.account p.proposer) p.bond)
        (slashReserved ed (held p.proposer) p.proposer p.bond s.items.account)
      proposals := Function.update s.items.proposals i none } }

/-- a proposal is queued for the spend step -/
def TreasuryState.enqueue (i : ℕ) (s : TreasuryState A) : TreasuryState A :=
  { s with items := { s.items with approvals := s.items.approvals ++ [i] } }

def proposeSpend (cfg : ProposalConfig O A) (origin : O) (value : ℕ) (beneficiary : A) (s : TreasuryState A) :
    Except TreasuryError (TreasuryState A) :=
  match cfg.signer origin with
  | none => .error .badOrigin
  | some proposer =>
    let bond := cfg.calculateBond value
    if bond ≤ (s.items.account proposer).free then .ok (s.file ⟨proposer, value, beneficiary, bond⟩)
    else .error .insufficientProposersBalance

def rejectProposal (cfg : ProposalConfig O A) (accounts : TreasuryAccounts A) (held : A → Bool) (origin : O)
    (proposalId : ℕ) (s : TreasuryState A) : Except TreasuryError (TreasuryState A) :=
  if cfg.rejectOrigin origin then
    match s.items.proposals proposalId with
    | none => .error .invalidIndex
    | some p => .ok (s.strike cfg accounts held proposalId p)
  else .error .badOrigin

def approveProposal (cfg : ProposalConfig O A) (origin : O) (proposalId : ℕ) (s : TreasuryState A) :
    Except TreasuryError (TreasuryState A) :=
  if cfg.approveOrigin origin then
    if (s.items.proposals proposalId).isSome then .ok (s.enqueue proposalId)
    else .error .invalidIndex
  else .error .badOrigin

def treasuryCall (cfg : ProposalConfig O A) (accounts : TreasuryAccounts A) (held : A → Bool) (origin : O)
    (call : TreasuryCall A) (s : TreasuryState A) : Except TreasuryError (TreasuryState A) :=
  match call with
  | .proposeSpend value beneficiary => proposeSpend cfg origin value beneficiary s
  | .rejectProposal proposalId => rejectProposal cfg accounts held origin proposalId s
  | .approveProposal proposalId => approveProposal cfg origin proposalId s

/-- **What a call that goes through can do.** -/
theorem treasuryCall_cases {cfg : ProposalConfig O A} {accounts : TreasuryAccounts A} {held : A → Bool} {origin : O}
    {call : TreasuryCall A} {s t : TreasuryState A} (h : treasuryCall cfg accounts held origin call s = .ok t) :
    (∃ p, call = .proposeSpend p.value p.beneficiary ∧ cfg.signer origin = some p.proposer ∧
      p.bond = cfg.calculateBond p.value ∧ p.bond ≤ (s.items.account p.proposer).free ∧ t = s.file p) ∨
    (∃ i p, call = .rejectProposal i ∧ cfg.rejectOrigin origin = true ∧ s.items.proposals i = some p ∧
      t = s.strike cfg accounts held i p) ∨
    ∃ i p, call = .approveProposal i ∧ cfg.approveOrigin origin = true ∧ s.items.proposals i = some p ∧
      t = s.enqueue i := by
  cases call with
  | proposeSpend value beneficiary =>
    left
    simp only [treasuryCall, proposeSpend] at h
    cases hsigner : cfg.signer origin with
    | none => simp [hsigner] at h
    | some proposer =>
      simp only [hsigner] at h
      split_ifs at h with hbond
      cases h
      exact ⟨⟨proposer, value, beneficiary, cfg.calculateBond value⟩, rfl, rfl, rfl, hbond, rfl⟩
  | rejectProposal i =>
    right; left
    simp only [treasuryCall, rejectProposal] at h
    split_ifs at h with horigin
    cases hp : s.items.proposals i with
    | none => simp [hp] at h
    | some p =>
      simp only [hp, Except.ok.injEq] at h
      exact ⟨i, p, rfl, horigin, hp, h.symm⟩
  | approveProposal i =>
    right; right
    simp only [treasuryCall, approveProposal] at h
    split_ifs at h with horigin hsome
    obtain ⟨p, hp⟩ := Option.isSome_iff_exists.1 hsome
    cases h
    exact ⟨i, p, rfl, horigin, hp, rfl⟩

end Calls

/-! ## Bonds -/

section Bonds

variable {O A : Type}

theorem finite_update {s t : TreasuryStore A} (hs : {i | s.proposals i ≠ none}.Finite) {i : ℕ}
    {x : Option (Proposal A)} (h : t.proposals = Function.update s.proposals i x) :
    {i | t.proposals i ≠ none}.Finite := by
  apply (hs.insert i).subset
  intro j hj
  by_cases hji : j = i
  · exact Or.inl hji
  · right
    rwa [Set.mem_ofPred_eq, h, Function.update_of_ne hji] at hj

variable [DecidableEq A]

/-- the bonds of an account's proposals -/
noncomputable def bonded (a : A) (s : TreasuryStore A) : ℕ := ∑ᶠ i, (s.proposals i).elim 0 (Proposal.bondOf a)

/-- every bond is on reserve, and worth an account -/
structure Backed (ed : ℕ) (s : TreasuryStore A) : Prop where
  finite : {i | s.proposals i ≠ none}.Finite
  bond : ∀ i p, s.proposals i = some p → ed ≤ p.bond
  reserved : ∀ a, bonded a s ≤ (s.account a).reserved

/-- the sum over any set that holds all proposals -/
theorem bonded_eq_sum (a : A) {s : TreasuryStore A} {I : Finset ℕ} (h : ∀ i, s.proposals i ≠ none → i ∈ I) :
    bonded a s = ∑ i ∈ I, (s.proposals i).elim 0 (Proposal.bondOf a) := by
  apply finsum_eq_sum_of_support_subset
  intro i hi
  apply h
  intro hnone
  rw [Function.mem_support, hnone] at hi
  exact hi rfl

/-- one proposal changes, and with it the sum -/
theorem bonded_update (a : A) {s t : TreasuryStore A} (hs : {i | s.proposals i ≠ none}.Finite) {i : ℕ}
    {x : Option (Proposal A)} (h : t.proposals = Function.update s.proposals i x) :
    bonded a t + (s.proposals i).elim 0 (Proposal.bondOf a) = bonded a s + x.elim 0 (Proposal.bondOf a) := by
  have hmem : i ∈ insert i hs.toFinset := Finset.mem_insert_self i _
  have hrest : ∀ j ∈ (insert i hs.toFinset).erase i,
      (t.proposals j).elim 0 (Proposal.bondOf a) = (s.proposals j).elim 0 (Proposal.bondOf a) := by
    intro j hj
    rw [h, Function.update_of_ne (Finset.ne_of_mem_erase hj)]
  have hall : ∀ j, s.proposals j ≠ none → j ∈ insert i hs.toFinset := by
    intro j hj
    exact Finset.mem_insert_of_mem (hs.mem_toFinset.2 hj)
  have hall' : ∀ j, t.proposals j ≠ none → j ∈ insert i hs.toFinset := by
    intro j hj
    by_cases hji : j = i
    · rw [hji]
      exact hmem
    · rw [h, Function.update_of_ne hji] at hj
      exact hall j hj
  rw [bonded_eq_sum a hall, bonded_eq_sum a hall', ← Finset.add_sum_erase _ _ hmem,
    ← Finset.add_sum_erase (insert i hs.toFinset) _ hmem, Finset.sum_congr rfl hrest, h, Function.update_self]
  omega

theorem bondOf_le_bonded (a : A) {s : TreasuryStore A} (hs : {i | s.proposals i ≠ none}.Finite) {i : ℕ}
    {p : Proposal A} (h : s.proposals i = some p) : p.bondOf a ≤ bonded a s := by
  have hi : i ∈ hs.toFinset := by
    rw [hs.mem_toFinset, Set.mem_ofPred_eq, h]
    exact Option.some_ne_none p
  have hle := Finset.single_le_sum (f := fun j => (s.proposals j).elim 0 (Proposal.bondOf a))
    (fun _ _ => Nat.zero_le _) hi
  simp only [h, Option.elim_some] at hle
  rw [bonded_eq_sum a fun j hj => hs.mem_toFinset.2 hj]
  exact hle

theorem bonded_congr (a : A) {s t : TreasuryStore A} (h : t.proposals = s.proposals) : bonded a t = bonded a s := by
  unfold bonded
  rw [h]

/-- bonds below the existential deposit are no bonds -/
theorem bonded_eq_zero {ed : ℕ} {s : TreasuryStore A} (hfin : {i | s.proposals i ≠ none}.Finite)
    (hs : ∀ i p, s.proposals i = some p → ed ≤ p.bond) {a : A} (h : bonded a s < ed) : bonded a s = 0 := by
  apply finsum_eq_zero_of_forall_eq_zero
  intro i
  cases hp : s.proposals i with
  | none => rfl
  | some p =>
    have hle := bondOf_le_bonded a hfin hp
    have hbond := hs i p hp
    simp only [Option.elim_some, Proposal.bondOf] at hle ⊢
    split_ifs at hle ⊢
    · omega
    · rfl

theorem reserve_reserved (who : A) (value : ℕ) (m : A → Balance) (a : A) :
    (reserve who value m a).reserved = (m a).reserved + if a = who then value else 0 := by
  by_cases ha : a = who
  · subst ha; simp [reserve]
  · simp [reserve, ha]

theorem slashable_le (ed : ℕ) (held : Bool) (b : Balance) (value : ℕ) :
    slashable ed held b value ≤ min b.reserved value := by
  unfold slashable
  split_ifs <;> omega

theorem reserve_total {who : A} {value : ℕ} {m : A → Balance} (h : value ≤ (m who).free) (a : A) :
    (reserve who value m a).total = (m a).total := by
  by_cases ha : a = who
  · subst ha
    simp only [reserve, Function.update_self, Balance.total]
    omega
  · simp [reserve, ha]

/-- a slash takes at least what it hands over -/
theorem slashReserved_total (ed : ℕ) (held : Bool) (who : A) (value : ℕ) (m : A → Balance) (a : A) :
    (slashReserved ed held who value m a).total + (if a = who then slashable ed held (m who) value else 0) ≤
      (m a).total := by
  by_cases ha : a = who
  · subst ha
    have hle := slashable_le ed held (m a) value
    simp only [slashReserved, Function.update_self, if_true, reap]
    split_ifs <;> simp only [Balance.total] at * <;> omega
  · simp [slashReserved, ha]

theorem onUnbalanced_total_le (dest : OnSlash) (ed : ℕ) (treasury : A) (amount : ℕ) (m : A → Balance) (a : A) :
    (dest.onUnbalanced ed treasury amount m a).total ≤ (m a).total + if a = treasury then amount else 0 := by
  cases dest with
  | unit => exact Nat.le_add_right _ _
  | treasury =>
    have hle := creditable_le ed (m treasury) amount
    simp only [OnSlash.onUnbalanced, depositCreating_total]
    split_ifs <;> omega

theorem onUnbalanced_reserved (dest : OnSlash) (ed : ℕ) (treasury : A) (amount : ℕ) (m : A → Balance) (a : A) :
    (dest.onUnbalanced ed treasury amount m a).reserved = (m a).reserved := by
  cases dest with
  | unit => rfl
  | treasury => exact depositCreating_reserved ed treasury amount m a

/-- a slash takes the whole bond off the reserve, unless that leaves less than the existential deposit -/
theorem slashReserved_reserved (ed : ℕ) (held : Bool) (who : A) (value : ℕ) (m : A → Balance) (a : A) :
    (slashReserved ed held who value m a).reserved = (m a).reserved - (if a = who then value else 0) ∨
      a = who ∧ (m a).total - min (m a).reserved value < ed ∧
        ((slashReserved ed held who value m a).reserved = 0 ∨
          (m a).reserved - value ≤ (slashReserved ed held who value m a).reserved) := by
  by_cases ha : a = who
  · subst ha
    have hle := slashable_le ed held (m a) value
    simp only [slashReserved, Function.update_self, if_true, true_and]
    by_cases hlow : (m a).total - min (m a).reserved value < ed
    · right
      refine ⟨hlow, ?_⟩
      unfold reap
      split_ifs
      · exact Or.inl rfl
      · right
        change (m a).reserved - value ≤ (m a).reserved - _
        omega
    · left
      have htaken : slashable ed held (m a) value = min (m a).reserved value := if_neg fun h => hlow h.2
      have hkept : ¬ (Balance.mk (m a).free ((m a).reserved - min (m a).reserved value)).total < ed := by
        unfold Balance.total at hlow ⊢
        simp only
        omega
      rw [htaken, reap, if_neg hkept]
      simp only
      omega
  · left
    simp [slashReserved, ha]

/-- from `s` to `t` the bonds of `a` move between its free balance and its reserve, and nothing else does; besides, the
free balance gets `income` -/
structure BondsMove (a : A) (income : ℕ) (s t : TreasuryStore A) : Prop where
  reserved : (t.account a).reserved + bonded a s = (s.account a).reserved + bonded a t
  free : (t.account a).free + bonded a t = (s.account a).free + bonded a s + income

theorem BondsMove.refl (a : A) (s : TreasuryStore A) : BondsMove a 0 s s := ⟨rfl, rfl⟩

theorem Backed.file {ed : ℕ} {s : TreasuryState A} (hs : Backed ed s.items) {p : Proposal A} (hp : ed ≤ p.bond) :
    Backed ed (s.file p).items := by
  have hproposals : (s.file p).items.proposals = Function.update s.items.proposals s.proposalCount (some p) := rfl
  refine ⟨finite_update hs.finite hproposals, fun i q hq => ?_, fun a => ?_⟩
  · by_cases hi : i = s.proposalCount
    · rw [hproposals, hi, Function.update_self, Option.some.injEq] at hq
      rw [← hq]
      exact hp
    · rw [hproposals, Function.update_of_ne hi] at hq
      exact hs.bond i q hq
  · have hsum := bonded_update a hs.finite hproposals
    have hreserved : ((s.file p).items.account a).reserved = (s.items.account a).reserved + p.bondOf a :=
      reserve_reserved p.proposer p.bond s.items.account a
    have hle := hs.reserved a
    rw [Option.elim_some] at hsum
    omega

section Strike

variable {ed : ℕ} {cfg : ProposalConfig O A} (hed : cfg.existentialDeposit = ed) (accounts : TreasuryAccounts A)
  (held : A → Bool) {s : TreasuryState A} (hs : Backed ed s.items) {i : ℕ} {p : Proposal A}
  (hp : s.items.proposals i = some p)

include hs hp

theorem bonded_strike (cfg : ProposalConfig O A) (a : A) :
    bonded a (s.strike cfg accounts held i p).items + p.bondOf a = bonded a s.items := by
  have hsum := bonded_update (t := (s.strike cfg accounts held i p).items) a hs.finite rfl
  rw [hp, Option.elim_some, Option.elim_none] at hsum
  exact hsum

include hed

theorem strike_reserved (a : A) :
    ((s.strike cfg accounts held i p).items.account a).reserved + p.bondOf a = (s.items.account a).reserved ∨
      a = p.proposer ∧ (s.items.account a).total - p.bond < ed ∧
        (((s.strike cfg accounts held i p).items.account a).reserved = 0 ∨
          (s.items.account a).reserved ≤ ((s.strike cfg accounts held i p).items.account a).reserved + p.bond) := by
  have hbond := le_trans (bondOf_le_bonded a hs.finite hp) (hs.reserved a)
  have hslash := slashReserved_reserved ed (held p.proposer) p.proposer p.bond s.items.account a
  simp only [TreasuryState.strike, onUnbalanced_reserved, hed]
  unfold Proposal.bondOf at hbond ⊢
  rcases hslash with h | ⟨rfl, hlow, h⟩
  · left
    omega
  · right
    rw [if_pos rfl] at hbond
    rw [min_eq_right hbond] at hlow
    refine ⟨rfl, hlow, ?_⟩
    rcases h with h | h
    · exact Or.inl h
    · exact Or.inr (by omega)

theorem Backed.strike : Backed ed (s.strike cfg accounts held i p).items := by
  have hold : ∀ j q, (s.strike cfg accounts held i p).items.proposals j = some q → s.items.proposals j = some q := by
    intro j q hq
    by_cases hj : j = i
    · simp [TreasuryState.strike, hj] at hq
    · simpa only [TreasuryState.strike, Function.update_of_ne hj] using hq
  have hfinite := finite_update (t := (s.strike cfg accounts held i p).items) hs.finite rfl
  refine ⟨hfinite, fun j q hq => hs.bond j q (hold j q hq), fun a => ?_⟩
  have hsum := bonded_strike accounts held hs hp cfg a
  have hreserved := hs.reserved a
  rcases strike_reserved hed accounts held hs hp a with h | ⟨rfl, hlow, h⟩
  · omega
  · -- the account ends or is spared: it has no other bond on reserve, for that would keep it alive
    have hself : p.bondOf p.proposer = p.bond := if_pos rfl
    have hnone : bonded p.proposer (s.strike cfg accounts held i p).items = 0 := by
      apply bonded_eq_zero hfinite fun j q hq => hs.bond j q (hold j q hq)
      unfold Balance.total at hlow
      omega
    omega

end Strike

/-- a rejection creates nothing -/
theorem strike_total_le (cfg : ProposalConfig O A) (accounts : TreasuryAccounts A) (held : A → Bool) (i : ℕ)
    (p : Proposal A) (s : TreasuryState A) {R : Finset A} (hp : p.proposer ∈ R) (ht : accounts.treasury ∈ R) :
    ∑ a ∈ R, ((s.strike cfg accounts held i p).items.account a).total ≤ ∑ a ∈ R, (s.items.account a).total := by
  set slashed := slashable cfg.existentialDeposit (held p.proposer) (s.items.account p.proposer) p.bond with hslashed
  have hpoint : ∀ a ∈ R, ((s.strike cfg accounts held i p).items.account a).total +
      (if a = p.proposer then slashed else 0) ≤
        (s.items.account a).total + (if a = accounts.treasury then slashed else 0) := by
    intro a _
    have h1 := slashReserved_total cfg.existentialDeposit (held p.proposer) p.proposer p.bond s.items.account a
    have h2 := onUnbalanced_total_le cfg.onSlash cfg.existentialDeposit accounts.treasury slashed
      (slashReserved cfg.existentialDeposit (held p.proposer) p.proposer p.bond s.items.account) a
    rw [← hslashed] at h1
    simp only [TreasuryState.strike, ← hslashed]
    omega
  have hsum := Finset.sum_le_sum hpoint
  rw [Finset.sum_add_distrib, Finset.sum_add_distrib, Finset.sum_ite_eq', Finset.sum_ite_eq', if_pos hp, if_pos ht] at hsum
  omega

/-- only proposals and reserves matter -/
theorem Backed.congr {ed : ℕ} {s t : TreasuryStore A} (hs : Backed ed s) (hp : t.proposals = s.proposals)
    (ha : ∀ a, (t.account a).reserved = (s.account a).reserved) : Backed ed t := by
  refine ⟨hp ▸ hs.finite, fun i p hi => hs.bond i p (hp ▸ hi), fun a => ?_⟩
  rw [ha a, bonded_congr a hp]
  exact hs.reserved a

end Bonds

end NodeTemplate.Substrate
