/-
The treasury and the bounties of this runtime (runtime/src/lib.rs, `pallet_treasury::Config`, `pallet_bounties::Config`).

Bounties are configured and declared, and so can be proposed and approved, but Treasury's hook that would pay them is
the unit type: `type SpendFunds = (); // Bounties;`. An approved bounty waits in a queue nobody walks.

Results, for every state of the two pallets, whatever is queued:
- `spendStep_iff`: with a pot that covers both queues, a spend step funds every approved bounty of the queue, and takes
  out of the pot what it pays, iff there is NO approved bounty in the queue (and no bond goes back to the treasury's own
  account, which would fill the pot up again);
- `approved_bounty_stranded`: an approved bounty is as it was, and still queued, after any number of blocks;
- `hookedStep_funds`: with the hook that stands in the comment, the same step strands none.
Witnesses: `proposal_paid`, the step at work on a proposal; `lone_bounty_stranded`, a bounty and a pot that covers it.

PREMISE. The pallets are third-party code (Substrate 3.0), a parameter here: `TreasuryFramework`. Its law is the
documented behaviour of `Substrate.Treasury`, on the items visible there, and its states are those in which nothing locks
the balance of the treasury's account.
-/
import Mathlib.Tactic
import NodeTemplate.Core.Machine
import NodeTemplate.Runtime.Constants
import NodeTemplate.Substrate.Treasury

namespace NodeTemplate.Runtime

open NodeTemplate.Core NodeTemplate.Substrate

def treasuryConfig : TreasuryConfig where
  existentialDeposit := existentialDeposit
  spendPeriod := spendPeriod
  burn := burn
  spendFunds := .unit

/-- the third-party side of a spend step -/
structure TreasuryFramework (A : Type) [DecidableEq A] where
  /-- the whole storage, with no lock on the treasury's account, and its items that are visible here -/
  Store : Type
  view : Store → TreasuryStore A
  accounts : TreasuryAccounts A
  /-- Treasury's `on_initialize`, in block `n` -/
  onInitialize : TreasuryConfig → ℕ → Store → Store
  onInitialize_law : ∀ cfg n st, view (onInitialize cfg n st) = treasuryOnInitialize cfg accounts n (view st)

/-- the documented behaviour and nothing else -/
def referenceTreasury {A : Type} [DecidableEq A] (accounts : TreasuryAccounts A) : TreasuryFramework A where
  Store := TreasuryStore A
  view := id
  accounts := accounts
  onInitialize cfg n s := treasuryOnInitialize cfg accounts n s
  onInitialize_law _ _ _ := rfl

section Property

variable {A : Type}

/-! ## What the step is for -/

/-- an approved bounty `b` of index `i`, before and after: funded, out of the queue, paid, its bond given back -/
structure BountyFunded (accounts : TreasuryAccounts A) (s s' : TreasuryStore A) (i : ℕ) (b : Bounty A) : Prop where
  funded : ∃ b', s'.bounties i = some b' ∧ b'.status = .funded
  dequeued : i ∉ s'.bountyApprovals
  paid : (s'.account (accounts.bounty i)).free = (s.account (accounts.bounty i)).free + b.value
  bond : (s'.account b.proposer).reserved ≤ (s.account b.proposer).reserved - b.bond

def NoneStranded (accounts : TreasuryAccounts A) (s s' : TreasuryStore A) : Prop :=
  ∀ i ∈ s.bountyApprovals, ∀ b, s.bounties i = some b → b.status = .approved → BountyFunded accounts s s' i b

variable [DecidableEq A]

/-- the accounts the queued proposals and bounties pay -/
def recipients (accounts : TreasuryAccounts A) (s : TreasuryStore A) : Finset A :=
  ((s.approvals.filterMap s.proposals).map Proposal.beneficiary).toFinset ∪
    (s.bountyApprovals.map accounts.bounty).toFinset

/-- what these accounts received; nothing is paid out where the treasury pays itself -/
def received (accounts : TreasuryAccounts A) (s s' : TreasuryStore A) : ℕ :=
  ∑ a ∈ (recipients accounts s).erase accounts.treasury, ((s'.account a).total - (s.account a).total)

/-- the pot drops by exactly what was paid out -/
def PotPays (ed : ℕ) (accounts : TreasuryAccounts A) (s s' : TreasuryStore A) : Prop :=
  pot ed accounts.treasury s = pot ed accounts.treasury s' + received accounts s s'

/-- the values of all queued proposals and bounties -/
def queuedValue (s : TreasuryStore A) : ℕ :=
  queued s.proposals Proposal.value s.approvals + queued s.bounties Bounty.value s.bountyApprovals

/-- the bonds of queued proposals that go back to an account, as far as they are reserved -/
def bondsBack (a : A) (s : TreasuryStore A) : ℕ :=
  min (s.account a).reserved (queued s.proposals (Proposal.bondOf a) s.approvals)

/-! ## The step of this runtime -/

theorem beneficiary_mem {accounts : TreasuryAccounts A} {s : TreasuryStore A} {i : ℕ} (hi : i ∈ s.approvals)
    {p : Proposal A} (hp : s.proposals i = some p) :
    p.beneficiary ∈ insert accounts.treasury (recipients accounts s) := by
  apply Finset.mem_insert_of_mem
  apply Finset.mem_union_left
  rw [List.mem_toFinset]
  exact List.mem_map_of_mem (List.mem_filterMap.2 ⟨i, hi, hp⟩)

/-- Treasury's walk over its proposals, with the pot for a budget -/
def runtimeWalk (accounts : TreasuryAccounts A) (s : TreasuryStore A) : Walk (Spending A) ℕ :=
  spendProposals existentialDeposit s (pot existentialDeposit accounts.treasury s)

theorem walked_runtimeWalk (accounts : TreasuryAccounts A) (s : TreasuryStore A) :
    Walked s (pot existentialDeposit accounts.treasury s) (insert accounts.treasury (recipients accounts s))
      (runtimeWalk accounts s).state (runtimeWalk accounts s).budget :=
  walked_spendProposals _ (fun _ hi _ hp => beneficiary_mem hi hp) _

/-- with the unit hook and nothing to burn, the step is the walk over the proposals and one debit. The debit is made: the
walk spends the pot at most and takes nothing from the treasury's account. -/
theorem spendFunds_account (accounts : TreasuryAccounts A) (s : TreasuryStore A) :
    (spendFunds treasuryConfig accounts s).account =
      Function.update (runtimeWalk accounts s).state.store.account accounts.treasury
        ⟨((runtimeWalk accounts s).state.store.account accounts.treasury).free -
            (runtimeWalk accounts s).state.imbalance,
          ((runtimeWalk accounts s).state.store.account accounts.treasury).reserved⟩ := by
  have hwalk := walked_runtimeWalk accounts s
  have htotal := hwalk.total accounts.treasury
  have hreserved := hwalk.reserved accounts.treasury
  have hcharged := hwalk.charged
  unfold Balance.total at htotal
  unfold pot at hcharged
  have hburn : ∀ x, min (permillMul burn x) x = 0 := by
    intro x
    simp [permillMul, burn]
  rw [← settle_of_le existentialDeposit (by omega)]
  simp only [spendFunds, treasuryConfig, SpendFunds.spend, hburn, ite_self, Nat.add_zero, runtimeWalk]

/-- **The unit hook.** No spend step touches a bounty or the queue of bounties. -/
theorem treasuryOnInitialize_bounties (accounts : TreasuryAccounts A) (n : ℕ) (s : TreasuryStore A) :
    (treasuryOnInitialize treasuryConfig accounts n s).bounties = s.bounties ∧
      (treasuryOnInitialize treasuryConfig accounts n s).bountyApprovals = s.bountyApprovals := by
  have hwalk := walked_runtimeWalk accounts s
  unfold treasuryOnInitialize
  split_ifs
  · exact ⟨hwalk.bounties, hwalk.bountyApprovals⟩
  · exact ⟨rfl, rfl⟩

/-- what the other accounts received and what the treasury credited itself make up all that was credited -/
theorem received_add_treasury (accounts : TreasuryAccounts A) (s : TreasuryStore A) :
    received accounts s (spendFunds treasuryConfig accounts s) +
        ((runtimeWalk accounts s).state.store.account accounts.treasury).total =
      (s.account accounts.treasury).total + (runtimeWalk accounts s).state.imbalance := by
  have hwalk := walked_runtimeWalk accounts s
  have hother : ∀ a ∈ (recipients accounts s).erase accounts.treasury,
      ((spendFunds treasuryConfig accounts s).account a).total - (s.account a).total =
        ((runtimeWalk accounts s).state.store.account a).total - (s.account a).total := by
    intro a ha
    rw [spendFunds_account, Function.update_of_ne (Finset.ne_of_mem_erase ha)]
  have hsum := hwalk.credited
  rw [← Finset.add_sum_erase _ _ (Finset.mem_insert_self _ _), ← Finset.add_sum_erase _ _ (Finset.mem_insert_self _ _),
    Finset.erase_insert_eq_erase] at hsum
  have hle : ∑ a ∈ (recipients accounts s).erase accounts.treasury, (s.account a).total ≤
      ∑ a ∈ (recipients accounts s).erase accounts.treasury,
        ((runtimeWalk accounts s).state.store.account a).total := by
    apply Finset.sum_le_sum
    intro a _
    exact hwalk.total a
  unfold received
  rw [Finset.sum_congr rfl hother, Finset.sum_tsub_distrib _ fun a _ => hwalk.total a]
  omega

/-- **The pot.** With a pot that covers the queued proposals, it drops by what they received, unless a bond goes back to
the treasury's own account and lifts it above the existential deposit. -/
theorem potPays_spendFunds_iff {accounts : TreasuryAccounts A} {s : TreasuryStore A}
    (h : queued s.proposals Proposal.value s.approvals ≤ pot existentialDeposit accounts.treasury s) :
    PotPays existentialDeposit accounts s (spendFunds treasuryConfig accounts s) ↔
      bondsBack accounts.treasury s ≤ existentialDeposit - (s.account accounts.treasury).free := by
  have hwalk := walked_runtimeWalk accounts s
  have htotal := hwalk.total accounts.treasury
  have hcharged := hwalk.charged
  have hreceived := received_add_treasury accounts s
  have hreserved := (spendProposals_affordable existentialDeposit h).2.2 accounts.treasury
  have hfree : ((spendFunds treasuryConfig accounts s).account accounts.treasury).free =
      ((runtimeWalk accounts s).state.store.account accounts.treasury).free -
        (runtimeWalk accounts s).state.imbalance := by
    rw [spendFunds_account, Function.update_self]
  change ((runtimeWalk accounts s).state.store.account accounts.treasury).reserved = _ at hreserved
  unfold Balance.total at htotal hreceived
  unfold pot at hcharged
  unfold PotPays pot bondsBack
  rw [hfree]
  omega

/-! ## No approved bounty is funded -/

/-- **When a spend step does what it is for.** The pot covers both queues; then no bounty is stranded, and the pot drops
by what is paid out, iff no queued bounty is approved and no bond goes back to the treasury's own account (or not enough
of it to lift an account below the existential deposit above it). -/
theorem spendStep_iff (F : TreasuryFramework A) (n : ℕ) (hn : spendPeriod ∣ n) (st : F.Store)
    (hpot : queuedValue (F.view st) ≤ pot existentialDeposit F.accounts.treasury (F.view st)) :
    (NoneStranded F.accounts (F.view st) (F.view (F.onInitialize treasuryConfig n st)) ∧
      PotPays existentialDeposit F.accounts (F.view st) (F.view (F.onInitialize treasuryConfig n st))) ↔
    ((∀ i ∈ (F.view st).bountyApprovals, ∀ b, (F.view st).bounties i = some b → b.status ≠ .approved) ∧
      bondsBack F.accounts.treasury (F.view st) ≤
        existentialDeposit - ((F.view st).account F.accounts.treasury).free) := by
  have hstep : treasuryOnInitialize treasuryConfig F.accounts n (F.view st) =
      spendFunds treasuryConfig F.accounts (F.view st) := if_pos (Nat.mod_eq_zero_of_dvd hn)
  have hbounties := treasuryOnInitialize_bounties F.accounts n (F.view st)
  have hproposals : queued (F.view st).proposals Proposal.value (F.view st).approvals ≤
      pot existentialDeposit F.accounts.treasury (F.view st) := le_trans (Nat.le_add_right _ _) hpot
  have hpays := potPays_spendFunds_iff hproposals
  rw [F.onInitialize_law]
  rw [hstep] at hbounties ⊢
  constructor
  · rintro ⟨hnone, hp⟩
    refine ⟨fun i hi b hb happroved => ?_, hpays.1 hp⟩
    -- a queued bounty would have to leave a queue that is not touched
    apply (hnone i hi b hb happroved).dequeued
    rw [hbounties.2]
    exact hi
  · rintro ⟨hnone, hb⟩
    refine ⟨fun i hi b hbi happroved => ?_, hpays.2 hb⟩
    exact absurd happroved (hnone i hi b hbi)

/-- the chain as far as the treasury goes: a step is the start of a block, by its number -/
def blocks (F : TreasuryFramework A) : Machine ℕ F.Store Unit where
  step st n := ((), F.onInitialize treasuryConfig n st)

theorem run_blocks_bounties (F : TreasuryFramework A) (ns : List ℕ) (st : F.Store) :
    (F.view ((blocks F).run st ns)).bounties = (F.view st).bounties ∧
      (F.view ((blocks F).run st ns)).bountyApprovals = (F.view st).bountyApprovals := by
  refine (blocks F).run_inv (I := fun t => (F.view t).bounties = (F.view st).bounties ∧
    (F.view t).bountyApprovals = (F.view st).bountyApprovals) ?_ st ns ⟨rfl, rfl⟩
  rintro t n ⟨hb, hq⟩
  obtain ⟨hb', hq'⟩ := treasuryOnInitialize_bounties F.accounts n (F.view t)
  rw [← F.onInitialize_law] at hb' hq'
  exact ⟨hb'.trans hb, hq'.trans hq⟩

/-- **Stranded for good.** However many blocks pass and whatever the pot, an approved bounty stays approved and
queued. -/
theorem approved_bounty_stranded (F : TreasuryFramework A) (ns : List ℕ) (st : F.Store) (i : ℕ) (b : Bounty A)
    (hi : i ∈ (F.view st).bountyApprovals) (hb : (F.view st).bounties i = some b) (happroved : b.status = .approved) :
    i ∈ (F.view ((blocks F).run st ns)).bountyApprovals ∧
      ∃ b', (F.view ((blocks F).run st ns)).bounties i = some b' ∧ b'.status = .approved := by
  obtain ⟨h1, h2⟩ := run_blocks_bounties F ns st
  refine ⟨?_, b, ?_, happroved⟩
  · rw [h2]
    exact hi
  · rw [h1]
    exact hb

/-! ## The hook beside it -/

/-- the configuration with the hook that stands in the comment -/
def hookedConfig : TreasuryConfig := { treasuryConfig with spendFunds := .bounties }

/-- the accounts of the queued bounties are distinct and used for nothing else, and no queued bounty is worth less than the
existential deposit (the minimum is 5 dollars) -/
structure BountyAccountsApart (accounts : TreasuryAccounts A) (s : TreasuryStore A) : Prop where
  injective : ∀ i ∈ s.bountyApprovals, ∀ j ∈ s.bountyApprovals, accounts.bounty i = accounts.bounty j → i = j
  treasury : ∀ i ∈ s.bountyApprovals, accounts.bounty i ≠ accounts.treasury
  proposals : ∀ i ∈ s.bountyApprovals, ∀ j p, s.proposals j = some p →
    accounts.bounty i ≠ p.proposer ∧ accounts.bounty i ≠ p.beneficiary
  bounties : ∀ i ∈ s.bountyApprovals, ∀ j ∈ s.bountyApprovals, ∀ b, s.bounties j = some b →
    accounts.bounty i ≠ b.proposer ∧ existentialDeposit ≤ b.value

/-- the walk of the hook, after Treasury's own -/
def hookedWalk (accounts : TreasuryAccounts A) (s : TreasuryStore A) : Walk (Spending A) ℕ :=
  (bountyServer existentialDeposit accounts.bounty).walk (runtimeWalk accounts s).state.store.bountyApprovals
    (runtimeWalk accounts s).state (runtimeWalk accounts s).budget

theorem spendFunds_hooked (accounts : TreasuryAccounts A) (s : TreasuryStore A) :
    (spendFunds hookedConfig accounts s).bounties = (hookedWalk accounts s).state.store.bounties ∧
    (spendFunds hookedConfig accounts s).bountyApprovals = (hookedWalk accounts s).kept ∧
    ∃ value, (spendFunds hookedConfig accounts s).account =
      settle existentialDeposit accounts.treasury value (hookedWalk accounts s).state.store.account :=
  ⟨rfl, rfl, _, rfl⟩

/-- what the proposals leave of the pot still covers the bounties, which their walk has not touched -/
theorem runtimeWalk_covers {accounts : TreasuryAccounts A} {s : TreasuryStore A}
    (hpot : queuedValue s ≤ pot existentialDeposit accounts.treasury s) :
    queued (runtimeWalk accounts s).state.store.bounties Bounty.value
      (runtimeWalk accounts s).state.store.bountyApprovals ≤ (runtimeWalk accounts s).budget := by
  have hwalk := walked_runtimeWalk accounts s
  have hproposals : queued s.proposals Proposal.value s.approvals ≤ pot existentialDeposit accounts.treasury s :=
    le_trans (Nat.le_add_right _ _) hpot
  have hleft : (runtimeWalk accounts s).budget + queued s.proposals Proposal.value s.approvals =
      pot existentialDeposit accounts.treasury s := (spendProposals_affordable existentialDeposit hproposals).2.1
  rw [hwalk.bounties, hwalk.bountyApprovals]
  unfold queuedValue at hpot
  omega

/-- **With Bounties for a hook, none is stranded.** The same step, the same states: every approved bounty of the queue is
funded, dequeued and paid, and its bond given back. -/
theorem hookedStep_funds {accounts : TreasuryAccounts A} {s : TreasuryStore A} (hapart : BountyAccountsApart accounts s)
    (hq : s.bountyApprovals.Nodup) (hpot : queuedValue s ≤ pot existentialDeposit accounts.treasury s) :
    NoneStranded accounts s (spendFunds hookedConfig accounts s) := by
  have hwalk := walked_runtimeWalk accounts s
  have hcovers := runtimeWalk_covers hpot
  rw [← hwalk.bountyApprovals] at hq
  obtain ⟨hkept, hfunded, hbonds⟩ := bountyWalk_affordable existentialDeposit accounts.bounty hq hcovers
  obtain ⟨hb, hqueue, value, hacc⟩ := spendFunds_hooked accounts s
  intro i hi b hbi happroved
  rw [← hwalk.bountyApprovals] at hi
  rw [← hwalk.bounties] at hbi
  refine ⟨⟨{ b with status := .funded }, ?_, rfl⟩, ?_, ?_, ?_⟩
  · rw [hb]
    exact hfunded i hi b hbi
  · rw [hqueue]
    exact hkept ▸ List.not_mem_nil
  · -- the proposals leave the account alone, the hook pays it once, and the last debit is not its
    have hqueued : ∀ j ∈ (runtimeWalk accounts s).state.store.bountyApprovals, j ∈ s.bountyApprovals :=
      fun j hj => hwalk.bountyApprovals ▸ hj
    have his := hqueued i hi
    have hpaid := bountyWalk_paid existentialDeposit accounts.bounty hq hcovers hi
      (fun j hj => hapart.injective i his j (hqueued j hj))
      (fun j hj c hc => hapart.bounties i his j (hqueued j hj) c (hwalk.bounties ▸ hc)) hbi
    have hbefore : (runtimeWalk accounts s).state.store.account (accounts.bounty i) = s.account (accounts.bounty i) :=
      spendProposals_of_ne existentialDeposit (hapart.proposals i his) _
    rw [hacc, settle_of_ne (hapart.treasury i his), hookedWalk, hpaid, hbefore]
  · have hbond : b.bond ≤ queued (runtimeWalk accounts s).state.store.bounties (Bounty.bondOf b.proposer)
        (runtimeWalk accounts s).state.store.bountyApprovals := by
      have hle := le_queued (Bounty.bondOf b.proposer) hi hbi
      rwa [Bounty.bondOf, if_pos rfl] at hle
    have hreserved := hwalk.reserved b.proposer
    rw [hacc, settle_reserved, hookedWalk, hbonds]
    omega

end Property

/-! ## Two small states -/

/-- account 0 is the treasury's, 100 + i the one of bounty i -/
def smallTreasury : TreasuryFramework ℕ := referenceTreasury ⟨0, fun i => 100 + i⟩

/-- one approved proposal of account 1, to pay account 2 -/
def proposalState : TreasuryStore ℕ where
  account := fun a => if a = 0 then ⟨100000, 0⟩ else if a = 1 then ⟨700, 50⟩ else ⟨0, 0⟩
  proposals := fun i => if i = 0 then some ⟨1, 1000, 2, 50⟩ else none
  approvals := [0]
  bounties := fun _ => none
  bountyApprovals := []

/-- a day's last block pays the proposal out of the pot, and strands nothing -/
theorem proposal_paid :
    NoneStranded smallTreasury.accounts proposalState (smallTreasury.onInitialize treasuryConfig 14400 proposalState) ∧
      PotPays existentialDeposit smallTreasury.accounts proposalState
        (smallTreasury.onInitialize treasuryConfig 14400 proposalState) :=
  (spendStep_iff smallTreasury 14400 (by decide) proposalState (by decide)).2 (by decide)

/-- one approved bounty of account 1, worth the minimum of 5 dollars -/
def bountyState : TreasuryStore ℕ where
  account := fun a => if a = 0 then ⟨100000000000, 0⟩ else if a = 1 then ⟨700, 10000000000⟩ else ⟨0, 0⟩
  proposals := fun _ => none
  approvals := []
  bounties := fun i => if i = 0 then some ⟨1, 50000000000, 0, 0, 10000000000, .approved⟩ else none
  bountyApprovals := [0]

/-- the pot covers the bounty, and the spend step leaves it approved -/
theorem lone_bounty_stranded :
    spendPeriod ∣ 14400 ∧ queuedValue bountyState ≤ pot existentialDeposit smallTreasury.accounts.treasury bountyState ∧
    ¬ NoneStranded smallTreasury.accounts bountyState (smallTreasury.onInitialize treasuryConfig 14400 bountyState) := by
  refine ⟨by decide, by decide, fun h => ?_⟩
  have hfunded := h 0 (by decide) ⟨1, 50000000000, 0, 0, 10000000000, .approved⟩ rfl rfl
  apply hfunded.dequeued
  decide

/-- with the other hook the same bounty is funded in the same block -/
theorem lone_bounty_hooked :
    NoneStranded smallTreasury.accounts bountyState (spendFunds hookedConfig smallTreasury.accounts bountyState) := by
  refine hookedStep_funds ⟨by decide, by decide, fun i _ j p h => ?_, fun i hi j hj b h => ?_⟩ (by decide) (by decide)
  · cases h
  · change (if j = 0 then some _ else none) = some b at h
    split_ifs at h
    cases h
    revert i
    decide

end NodeTemplate.Runtime
