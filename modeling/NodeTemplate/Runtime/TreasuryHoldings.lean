/-
What all accounts hold together, over whole runs of the treasury.

Result, `treasury_conserves`: for the treasury and any set of accounts that propose and are paid (`Within`), if elsewhere
money only moves between them and nothing draws on the treasury (`Balanced`), then no run makes more of what they hold
together; without a rejection it is exactly as much; and the treasury's own account stays above the existential deposit.

The premises are needed. A proposal of the treasury's own account (by a call in its name) puts part of its free balance
on reserve, and tips, bounties or a slash elsewhere that draw on the treasury can take it below the existential deposit.
-/
import Mathlib.Tactic
import NodeTemplate.Runtime.TreasuryRuns

namespace NodeTemplate.Runtime

open NodeTemplate.Core NodeTemplate.Substrate

section Conservation

variable {A : Type} [DecidableEq A]

/-- a proposal between accounts of `R`, not made by the treasury itself -/
structure Within (R : Finset A) (treasury : A) (p : Proposal A) : Prop where
  proposer : p.proposer ∈ R
  beneficiary : p.beneficiary ∈ R
  other : p.proposer ≠ treasury

/-- what the accounts of `R` hold together -/
def holdings (R : Finset A) (s : TreasuryStore A) : ℕ := ∑ a ∈ R, (s.account a).total

/-- elsewhere money only moves between the accounts of `R`, and the treasury is not drawn on -/
structure Balanced (R : Finset A) (treasury : A) (s t : TreasuryState A) : Prop extends Leaves s t where
  holdings : holdings R t.items = holdings R s.items
  treasury : (s.items.account treasury).free ≤ (t.items.account treasury).free

/-- the treasury pays out what it is debited for, and keeps itself alive -/
theorem spendFunds_holdings {accounts : TreasuryAccounts A} {R : Finset A} (ht : accounts.treasury ∈ R)
    {s : TreasuryStore A} (hR : ∀ i p, s.proposals i = some p → p.beneficiary ∈ R) :
    holdings R (spendFunds treasuryConfig accounts s) = holdings R s ∧
      (existentialDeposit ≤ (s.account accounts.treasury).free →
        existentialDeposit ≤ ((spendFunds treasuryConfig accounts s).account accounts.treasury).free) := by
  have hwalk : Walked s (pot existentialDeposit accounts.treasury s) R (runtimeWalk accounts s).state
      (runtimeWalk accounts s).budget := walked_spendProposals _ (fun i _ p hp => hR i p hp) _
  have hdebit := spendFunds_debit accounts s
  constructor
  · have hcredited := hwalk.credited
    have hrest : ∀ a ∈ R.erase accounts.treasury, ((spendFunds treasuryConfig accounts s).account a).total =
        ((runtimeWalk accounts s).state.store.account a).total := by
      intro a ha
      rw [spendFunds_account, Function.update_of_ne (Finset.ne_of_mem_erase ha)]
    have hreserved : ((spendFunds treasuryConfig accounts s).account accounts.treasury).reserved =
        ((runtimeWalk accounts s).state.store.account accounts.treasury).reserved := settle_reserved _ _ _ _ _
    rw [← Finset.add_sum_erase _ _ ht] at hcredited
    unfold holdings
    rw [← Finset.add_sum_erase _ _ ht, Finset.sum_congr rfl hrest]
    unfold Balance.total at hcredited ⊢
    omega
  · intro hfree
    have htotal := hwalk.total accounts.treasury
    have hreserved := hwalk.reserved accounts.treasury
    have hcharged := hwalk.charged
    unfold Balance.total at htotal
    unfold pot at hcharged
    omega

/-- what a step does to the holdings of `R`, to the proposals and to the treasury's own account -/
theorem TreasuryStep.holdings {accounts : TreasuryAccounts A} {R : Finset A} (ht : accounts.treasury ∈ R)
    {s t : TreasuryState A} {es : List (TreasuryEvent A)}
    (h : TreasuryStep accounts (Balanced R accounts.treasury) s es t)
    (hs : ∀ i p, s.items.proposals i = some p → Within R accounts.treasury p)
    (hes : ∀ i p, .proposed i p ∈ es → Within R accounts.treasury p) :
    (∀ i p, t.items.proposals i = some p → Within R accounts.treasury p) ∧
    holdings R t.items ≤ holdings R s.items ∧
    ((∀ i origin, .rejected i origin ∉ es) → holdings R t.items = holdings R s.items) ∧
    (existentialDeposit ≤ (s.items.account accounts.treasury).free →
      existentialDeposit ≤ (t.items.account accounts.treasury).free) := by
  cases h with
  | @file p hbond hfree =>
    have hp := hes s.proposalCount p (List.mem_singleton_self _)
    have hsame : Runtime.holdings R (s.file p).items = Runtime.holdings R s.items :=
      Finset.sum_congr rfl fun a _ => reserve_total hfree a
    refine ⟨fun i q hq => ?_, le_of_eq hsame, fun _ => hsame, fun h => ?_⟩
    · by_cases hi : i = s.proposalCount
      · simp only [TreasuryState.file, hi, Function.update_self, Option.some.injEq] at hq
        rw [← hq]
        exact hp
      · simp only [TreasuryState.file, Function.update_of_ne hi] at hq
        exact hs i q hq
    · rw [show (s.file p).items.account accounts.treasury = s.items.account accounts.treasury from
        Function.update_of_ne (Ne.symm hp.other) _ _]
      exact h
  | @strike held origin i p _ hpi =>
    have hp := hs i p hpi
    refine ⟨fun j q hq => ?_, strike_total_le _ accounts held i p s hp.proposer ht, fun h => ?_, fun h => ?_⟩
    · by_cases hj : j = i
      · simp [TreasuryState.strike, hj] at hq
      · simp only [TreasuryState.strike, Function.update_of_ne hj] at hq
        exact hs j q hq
    · exact absurd (List.mem_singleton_self _) (h i origin)
    · simp only [TreasuryState.strike, OnSlash.onUnbalanced, proposalConfig, depositCreating, Function.update_self,
        slashReserved, Function.update_of_ne (Ne.symm hp.other)]
      omega
  | enqueue _ _ => exact ⟨hs, le_refl _, fun _ => rfl, id⟩
  | spend =>
    obtain ⟨hsame, halive⟩ := spendFunds_holdings ht fun i p hp => (hs i p hp).beneficiary
    exact ⟨fun i p hp => hs i p (proposals_of_spendFunds hp), le_of_eq hsame, fun _ => hsame, halive⟩
  | none => exact ⟨hs, le_refl _, fun _ => rfl, id⟩
  | elsewhere he =>
    refine ⟨fun i p hp => hs i p (he.proposals ▸ hp), le_of_eq he.holdings, fun _ => he.holdings, fun h => ?_⟩
    exact le_trans h he.treasury

/-- **Nothing is created.** Treasury and those who propose and are paid hold no more together after any run than before
it, and exactly as much if nothing was rejected: a bond that is slashed can take the rest of a small account with it.
The treasury's own account stays above the existential deposit. -/
theorem treasury_conserves {F : TreasuryFramework A} (C : TreasuryCalls F) {R : Finset A}
    (ht : F.accounts.treasury ∈ R) {st st' : F.Store} {log : List (TreasuryEvent A)}
    (hst : ∀ i p, (F.view st).proposals i = some p → Within R F.accounts.treasury p)
    (hrun : C.Run (Balanced R F.accounts.treasury) st log st')
    (hlog : ∀ i p, .proposed i p ∈ log → Within R F.accounts.treasury p) :
    holdings R (F.view st') ≤ holdings R (F.view st) ∧
    ((∀ i origin, .rejected i origin ∉ log) → holdings R (F.view st') = holdings R (F.view st)) ∧
    (existentialDeposit ≤ ((F.view st).account F.accounts.treasury).free →
      existentialDeposit ≤ ((F.view st').account F.accounts.treasury).free) := by
  have hinv := Logged.inv (I := fun log s => (∀ i p, .proposed i p ∈ log → Within R F.accounts.treasury p) →
    (∀ i p, s.items.proposals i = some p → Within R F.accounts.treasury p) ∧
    holdings R s.items ≤ holdings R (F.view st) ∧
    ((∀ i origin, .rejected i origin ∉ log) → holdings R s.items = holdings R (F.view st)) ∧
    (existentialDeposit ≤ ((F.view st).account F.accounts.treasury).free →
      existentialDeposit ≤ (s.items.account F.accounts.treasury).free)) ?_ ?_ hrun.view hlog
  · exact hinv.2
  · exact fun _ => ⟨hst, le_refl _, fun _ => rfl, id⟩
  · intro log s es t hs hstep hmem
    obtain ⟨hwithin, hle, heq, halive⟩ := hs fun i p hp => hmem i p (List.mem_append_left es hp)
    obtain ⟨hwithin', hle', heq', halive'⟩ :=
      hstep.holdings ht hwithin fun i p hp => hmem i p (List.mem_append_right log hp)
    refine ⟨hwithin', le_trans hle' hle, fun h => ?_, fun h => halive' (halive h)⟩
    calc holdings R t.items = holdings R s.items := heq' fun i o hi => h i o (List.mem_append_right log hi)
      _ = holdings R (F.view st) := heq fun i o hi => h i o (List.mem_append_left es hi)

end Conservation

/-- accounts 0, 1 and 2 are all that the run touches -/
theorem small_conserves : holdings {0, 1, 2} smallPaid.items = 20000100000 ∧
    holdings {0, 1, 2} smallPaid.items ≤ holdings {0, 1, 2} smallStart.items := by
  refine ⟨by decide, (treasury_conserves smallCalls (by decide) ?_ (small_run _) ?_).1⟩
  · intro i p hp
    cases hp
  · intro i p hp
    simp only [smallLog, List.mem_cons, TreasuryEvent.proposed.injEq, reduceCtorEq, List.not_mem_nil, or_false,
      or_self] at hp
    obtain ⟨_, rfl⟩ := hp
    exact ⟨by decide, by decide, by decide⟩

end NodeTemplate.Runtime
