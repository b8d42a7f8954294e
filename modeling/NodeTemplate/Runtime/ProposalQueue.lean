/-
The turn of a proposal in the queue.

A spend step need not pay the first of the queue: it passes over what the pot does not cover. But if each spend step finds
a pot that covers the first (`CanPayFirst`), the first goes, and every other comes forward by one place at least.

Result, `proposal_paid_in_turn`: with k others before it, a proposal is paid by the (k + 1)-th spend step at the latest,
in every run, or else it is rejected before that or its number given to another. Paid means `Awarded`: the spend step
credits the beneficiary with the value and the proposer with the bond.
-/
import Mathlib.Tactic
import NodeTemplate.Runtime.TreasuryRuns

namespace NodeTemplate.Runtime

open NodeTemplate.Core NodeTemplate.Substrate

section Queue

variable {A : Type}

/-- how many spend steps a log has -/
def spends (log : List (TreasuryEvent A)) : ℕ :=
  log.countP fun e => match e with | .spent _ _ => true | _ => false

theorem spends_append (log es : List (TreasuryEvent A)) : spends (log ++ es) = spends log + spends es :=
  List.countP_append

/-- what can become of proposal `i`, `p`: a spend step pays it, or it is rejected or its number given away -/
def Settled (accounts : TreasuryAccounts A) (i : ℕ) (p : Proposal A) (log : List (TreasuryEvent A)) : Prop :=
  (∃ s t, .spent s t ∈ log ∧ Awarded accounts s t i p) ∨ (∃ origin, .rejected i origin ∈ log) ∨
    ∃ q, .proposed i q ∈ log

theorem Settled.mono {accounts : TreasuryAccounts A} {i : ℕ} {p : Proposal A} {log log' : List (TreasuryEvent A)}
    (h : Settled accounts i p log) (hsub : log ⊆ log') : Settled accounts i p log' := by
  rcases h with ⟨s, t, hmem, hawarded⟩ | ⟨origin, hmem⟩ | ⟨q, hmem⟩
  · exact Or.inl ⟨s, t, hsub hmem, hawarded⟩
  · exact Or.inr (Or.inl ⟨origin, hsub hmem⟩)
  · exact Or.inr (Or.inr ⟨q, hsub hmem⟩)

variable [DecidableEq A]

/-- the pot covers the first proposal of the queue -/
def CanPayFirst (accounts : TreasuryAccounts A) (s : TreasuryStore A) : Prop :=
  ∀ i p, s.approvals.head? = some i → s.proposals i = some p →
    p.value ≤ pot existentialDeposit accounts.treasury s

/-- proposal `i` waits for its turn, with `k` spend steps to go at most -/
structure Waits (i : ℕ) (p : Proposal A) (k : ℕ) (s : TreasuryStore A) : Prop where
  proposal : s.proposals i = some p
  turn : ∃ before after, s.approvals = before ++ i :: after ∧ before.length ≤ k

theorem spendFunds_first {accounts : TreasuryAccounts A} {s : TreasuryStore A} (h : CanPayFirst accounts s) {i : ℕ}
    {q : List ℕ} (hq : s.approvals = i :: q) : (spendFunds treasuryConfig accounts s).proposals i = none := by
  have hhead := Server.walk_head (proposalServer_removes existentialDeposit) (i := i) (q := q) (s := ⟨s, 0⟩)
    fun p hp => h i p (by rw [hq]; rfl) hp
  change ((proposalServer existentialDeposit).walk s.approvals ⟨s, 0⟩
    (pot existentialDeposit accounts.treasury s)).state.store.proposals i = none
  rw [hq]
  exact hhead

/-- a spend step that pays the first of the queue pays `i`, or brings it forward -/
theorem Waits.spend {accounts : TreasuryAccounts A} {s : TreasuryStore A} {i k : ℕ} {p : Proposal A}
    (h : Waits i p k s) (hfirst : CanPayFirst accounts s) :
    (spendFunds treasuryConfig accounts s).proposals i = none ∨
      ∃ k', k = k' + 1 ∧ Waits i p k' (spendFunds treasuryConfig accounts s) := by
  obtain ⟨hitem, hqueue⟩ := spendFunds_proposals accounts s
  obtain ⟨before, after, hbefore, hk⟩ := h.turn
  rcases hitem i with hsame | hserved
  · right
    rw [h.proposal] at hsame
    cases before with
    | nil =>
      rw [spendFunds_first hfirst hbefore] at hsame
      cases hsame
    | cons j before =>
      have hj := spendFunds_first hfirst hbefore
      rw [hbefore, List.filter_append, List.filter_cons_of_neg (by rw [hj]; simp),
        List.filter_cons_of_pos (by rw [hsame]; rfl)] at hqueue
      rw [List.length_cons] at hk
      refine ⟨k - 1, by omega, hsame, _, _, hqueue, ?_⟩
      exact le_trans (List.length_filter_le _ _) (by omega)
  · exact Or.inl hserved.2

/-- what one step does to a proposal that waits -/
theorem Waits.step {accounts : TreasuryAccounts A} {s t : TreasuryState A} {es : List (TreasuryEvent A)} {i k : ℕ}
    {p : Proposal A} (h : Waits i p k s.items) (hstep : TreasuryStep accounts Leaves s es t)
    (hfirst : 0 < spends es → CanPayFirst accounts s.items) :
    Settled accounts i p es ∨ ∃ k', k = k' + spends es ∧ Waits i p k' t.items := by
  obtain ⟨before, after, hqueue, hk⟩ := h.turn
  cases hstep with
  | @file q _ _ =>
    by_cases hi : s.proposalCount = i
    · subst hi
      exact Or.inl (Or.inr (Or.inr ⟨q, List.mem_singleton_self _⟩))
    · right
      refine ⟨k, rfl, ?_, before, after, hqueue, hk⟩
      exact (Function.update_of_ne (Ne.symm hi) _ _).trans h.proposal
  | @strike held origin j q _ _ =>
    by_cases hj : j = i
    · subst hj
      exact Or.inl (Or.inr (Or.inl ⟨origin, List.mem_singleton_self _⟩))
    · right
      refine ⟨k, rfl, ?_, before, after, hqueue, hk⟩
      exact (Function.update_of_ne (Ne.symm hj) _ _).trans h.proposal
  | @enqueue origin j q _ _ =>
    right
    refine ⟨k, rfl, h.proposal, before, after ++ [j], ?_, hk⟩
    simp [TreasuryState.enqueue, hqueue]
  | spend =>
    rcases h.spend (hfirst Nat.one_pos) with hgone | ⟨k', rfl, hwaits⟩
    · left; left
      exact ⟨_, _, List.mem_singleton_self _, spendFunds_awarded (paid_eq_some.2 ⟨h.proposal, hgone⟩)⟩
    · exact Or.inr ⟨k', rfl, hwaits⟩
  | none => exact Or.inr ⟨k, rfl, h⟩
  | elsewhere ht =>
    right
    refine ⟨k, rfl, ?_, before, after, ?_, hk⟩
    · rw [ht.proposals]
      exact h.proposal
    · rw [ht.approvals]
      exact hqueue

/-- **Paid in turn.** A proposal is queued behind `before`. Between the spend steps anything may be called and anything
may happen that leaves the proposals to Treasury; more may be queued behind it. If each spend step finds a pot that
covers the first proposal of the queue, no matter what the others ask for, then after more steps than there were
proposals ahead it has been paid, or else rejected (or its number was given to another). -/
theorem proposal_paid_in_turn {F : TreasuryFramework A} (C : TreasuryCalls F) {st st' : F.Store}
    {log : List (TreasuryEvent A)} {before after : List ℕ} {i : ℕ} {p : Proposal A}
    (hqueue : (F.view st).approvals = before ++ i :: after) (hp : (F.view st).proposals i = some p)
    (hrun : Logged (fun s es t => C.Step Leaves s es t ∧ (0 < spends es → CanPayFirst F.accounts (F.view s))) st log st')
    (hspends : before.length < spends log) :
    Settled F.accounts i p log := by
  have hview : Logged (fun s es t => TreasuryStep F.accounts Leaves s es t ∧
      (0 < spends es → CanPayFirst F.accounts s.items)) (C.state st) log (C.state st') :=
    Logged.map (fun _ _ _ hstep => ⟨hstep.1.view, hstep.2⟩) hrun
  have hwaits : Settled F.accounts i p log ∨ ∃ k, before.length = k + spends log ∧ Waits i p k (C.state st').items := by
    refine Logged.inv (I := fun log s => Settled F.accounts i p log ∨
        ∃ k, before.length = k + spends log ∧ Waits i p k s.items)
      (Or.inr ⟨before.length, rfl, hp, before, after, hqueue, le_refl _⟩) ?_ hview
    intro log s es t hs hstep
    rcases hs with hs | ⟨k, hk, hs⟩
    · exact Or.inl (hs.mono (List.subset_append_left log es))
    · rcases hs.step hstep.1 hstep.2 with hes | ⟨k', rfl, hs'⟩
      · exact Or.inl (hes.mono (List.subset_append_right log es))
      · refine Or.inr ⟨k', ?_, hs'⟩
        rw [spends_append]
        omega
  rcases hwaits with h | ⟨k, hk, _⟩
  · exact h
  · omega

end Queue

/-! ## A small queue -/

/-- 60000 and 50000 are queued, and the pot holds 99500 -/
def bothQueued : TreasuryState ℕ := ⟨{ crowdedState with approvals := [0, 1] }, 3⟩

/-- the first is paid -/
def firstPaid : TreasuryState ℕ := spendStep smallTreasury.accounts bothQueued

/-- and the treasury is given something -/
def refilled : TreasuryState ℕ :=
  { firstPaid with items := { firstPaid.items with account := Function.update firstPaid.items.account 0 ⟨60000, 0⟩ } }

def bothPaid : TreasuryState ℕ := spendStep smallTreasury.accounts refilled

theorem second_paid_in_turn :
    firstPaid.items.approvals = [1] ∧ Settled smallTreasury.accounts 1 ⟨1, 50000, 3, 50⟩
      [.spent bothQueued.items firstPaid.items, .spent refilled.items bothPaid.items] := by
  have hqueue : ((referenceStates smallTreasury.accounts).view bothQueued).approvals = [0] ++ 1 :: [] := rfl
  have hfirst : smallCalls.Step Leaves bothQueued [.spent bothQueued.items firstPaid.items] firstPaid :=
    .spend 14400 (by decide)
  have hrefill : smallCalls.Step Leaves firstPaid [] refilled := .elsewhere ⟨rfl, rfl, rfl⟩
  have hsecond : smallCalls.Step Leaves refilled [.spent refilled.items bothPaid.items] bothPaid :=
    .spend 14400 (by decide)
  have hcovered : CanPayFirst smallTreasury.accounts bothQueued.items := by
    intro i p hi hp
    cases hi
    cases hp
    decide
  have hcovered' : CanPayFirst smallTreasury.accounts refilled.items := by
    intro i p hi hp
    cases hi
    cases hp
    decide
  have hrun : Logged (fun s es t => smallCalls.Step Leaves s es t ∧
      (0 < spends es → CanPayFirst smallTreasury.accounts (TreasuryState.items s))) bothQueued
      ([] ++ [.spent bothQueued.items firstPaid.items] ++ [] ++ [.spent refilled.items bothPaid.items]) bothPaid :=
    .step (.step (.step .start ⟨hfirst, fun _ => hcovered⟩) ⟨hrefill, fun h => absurd h (by decide)⟩)
      ⟨hsecond, fun _ => hcovered'⟩
  exact ⟨by decide, proposal_paid_in_turn smallCalls hqueue rfl hrun (by decide)⟩

end NodeTemplate.Runtime
