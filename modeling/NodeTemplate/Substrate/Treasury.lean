/-
Treasury and Bounties of Substrate 3.0: the spend step.

Documented behaviour, as executable definitions on the storage items the step reads and writes (see
`Substrate.Storage`). The step takes the pot as its budget and walks the approved proposals in order (`Core.Server`):
an index without a proposal is dropped, a proposal that fits the budget is paid, any other stays in the queue. It hands
the rest of the budget to the configured `SpendFunds` hook. The hook of the unit type does nothing; the hook of Bounties
walks the approved bounties in the same way. If neither walk left anything behind, a share of the surplus is burnt.
At the end the treasury's account is debited by all that was credited and burnt.

Two details of Balances matter. Returning a bond moves what is still reserved, not more. A deposit that would create an
account with less than the existential deposit is not made, and is not charged.

PREMISE. Nothing locks the balance of the treasury's account. Balances would refuse the last debit of an account whose free
balance it takes below a lock; the pallet's own comment is that this debit must never be an error.

`walked_spendProposals` is what Treasury's walk does in every case, `spendProposals_affordable` what it does when the pot
covers the queue; `bountyWalk_affordable` and `bountyWalk_paid` say the same of the walk of Bounties' hook.
-/
import Mathlib.Tactic
import NodeTemplate.Core.Queue

namespace NodeTemplate.Substrate

open NodeTemplate.Core

/-! ## Data -/

/-- the balance of an account; one without a balance does not exist -/
structure Balance where
  free : ℕ
  reserved : ℕ
deriving DecidableEq, Repr

def Balance.total (b : Balance) : ℕ := b.free + b.reserved

structure Proposal (A : Type) where
  proposer : A
  value : ℕ
  beneficiary : A
  bond : ℕ
deriving DecidableEq, Repr

inductive BountyStatus (A : Type) where
  | proposed
  | approved
  | funded
  | curatorProposed (curator : A)
  | active (curator : A) (updateDue : ℕ)
  | pendingPayout (curator beneficiary : A) (unlockAt : ℕ)
deriving DecidableEq, Repr

structure Bounty (A : Type) where
  proposer : A
  value : ℕ
  fee : ℕ
  curatorDeposit : ℕ
  bond : ℕ
  status : BountyStatus A
deriving DecidableEq, Repr

structure TreasuryStore (A : Type) where
  account : A → Balance
  proposals : ℕ → Option (Proposal A)
  approvals : List ℕ
  bounties : ℕ → Option (Bounty A)
  bountyApprovals : List ℕ

/-- the hook a runtime configures as `SpendFunds` -/
inductive SpendFunds where
  | unit
  | bounties
deriving DecidableEq, Repr

/-- what the `Config` impls set for the spend step -/
structure TreasuryConfig where
  existentialDeposit : ℕ
  spendPeriod : ℕ
  /-- parts per million -/
  burn : ℕ
  spendFunds : SpendFunds
deriving DecidableEq, Repr

/-- the accounts the two pallets derive from the treasury's module id -/
structure TreasuryAccounts (A : Type) where
  treasury : A
  bounty : ℕ → A

section Currency

variable {A : Type} [DecidableEq A]

/-! ## Balances -/

/-- give back a reserve, as far as it is there -/
def unreserve (who : A) (value : ℕ) (m : A → Balance) : A → Balance :=
  let actual := min (m who).reserved value
  Function.update m who ⟨(m who).free + actual, (m who).reserved - actual⟩

/-- what a deposit of `value` credits: nothing, where it would create an account below the existential deposit -/
def creditable (ed : ℕ) (b : Balance) (value : ℕ) : ℕ := if b.total = 0 ∧ value < ed then 0 else value

def depositCreating (ed : ℕ) (who : A) (value : ℕ) (m : A → Balance) : A → Balance :=
  Function.update m who ⟨(m who).free + creditable ed (m who) value, (m who).reserved⟩

/-- debit an account on which there is no lock, unless that would end it -/
def settle (ed : ℕ) (who : A) (value : ℕ) (m : A → Balance) : A → Balance :=
  let b := m who
  if value ≤ b.free ∧ ¬ (b.total - value < ed ∧ ed ≤ b.total) then
    Function.update m who ⟨b.free - value, b.reserved⟩
  else m

theorem unreserve_total (who : A) (value : ℕ) (m : A → Balance) (a : A) :
    (unreserve who value m a).total = (m a).total := by
  by_cases ha : a = who
  · subst ha
    simp only [unreserve, Function.update_self, Balance.total]
    omega
  · simp [unreserve, ha]

theorem unreserve_reserved (who : A) (value : ℕ) (m : A → Balance) (a : A) :
    (unreserve who value m a).reserved = (m a).reserved - if a = who then value else 0 := by
  by_cases ha : a = who
  · subst ha
    simp only [unreserve, Function.update_self, if_true]
    omega
  · simp [unreserve, ha]

theorem creditable_le (ed : ℕ) (b : Balance) (value : ℕ) : creditable ed b value ≤ value := by
  unfold creditable
  split_ifs
  · exact Nat.zero_le _
  · exact le_refl _

theorem depositCreating_total (ed : ℕ) (who : A) (value : ℕ) (m : A → Balance) (a : A) :
    (depositCreating ed who value m a).total = (m a).total + if a = who then creditable ed (m who) value else 0 := by
  by_cases ha : a = who
  · subst ha
    simp only [depositCreating, Function.update_self, Balance.total, if_true]
    omega
  · simp [depositCreating, ha]

theorem depositCreating_reserved (ed : ℕ) (who : A) (value : ℕ) (m : A → Balance) (a : A) :
    (depositCreating ed who value m a).reserved = (m a).reserved := by
  by_cases ha : a = who
  · subst ha; simp [depositCreating]
  · simp [depositCreating, ha]

/-- a debit the account can bear above the existential deposit is made -/
theorem settle_of_le (ed : ℕ) {who : A} {value : ℕ} {m : A → Balance} (h : value ≤ (m who).free - ed) :
    settle ed who value m = Function.update m who ⟨(m who).free - value, (m who).reserved⟩ := by
  have hcond : value ≤ (m who).free ∧ ¬ ((m who).total - value < ed ∧ ed ≤ (m who).total) := by
    unfold Balance.total
    omega
  unfold settle
  exact if_pos hcond

theorem settle_of_ne {ed : ℕ} {who : A} {value : ℕ} {m : A → Balance} {a : A} (ha : a ≠ who) :
    settle ed who value m a = m a := by
  unfold settle
  split_ifs
  · exact Function.update_of_ne ha _ _
  · rfl

theorem settle_reserved (ed : ℕ) (who : A) (value : ℕ) (m : A → Balance) (a : A) :
    (settle ed who value m a).reserved = (m a).reserved := by
  by_cases ha : a = who
  · subst ha
    unfold settle
    split_ifs
    · rw [Function.update_self]
    · rfl
  · rw [settle_of_ne ha]

end Currency

section Spend

variable {A : Type} [DecidableEq A]

/-! ## The spend step -/

/-- the store during the step, with what was credited so far -/
structure Spending (A : Type) where
  store : TreasuryStore A
  imbalance : ℕ

/-- give back a bond and pay a beneficiary -/
def payOut (ed : ℕ) (proposer : A) (bond : ℕ) (beneficiary : A) (value : ℕ) (acc : Spending A) : Spending A :=
  let m := unreserve proposer bond acc.store.account
  { store := { acc.store with account := depositCreating ed beneficiary value m }
    imbalance := acc.imbalance + creditable ed (m beneficiary) value }

/-- Treasury's own walk: a paid proposal is removed -/
def proposalServer (ed : ℕ) : Server (Spending A) ℕ (Proposal A) where
  item acc i := acc.store.proposals i
  cost p := p.value
  serve acc i p :=
    let acc := payOut ed p.proposer p.bond p.beneficiary p.value acc
    { acc with store := { acc.store with proposals := Function.update acc.store.proposals i none } }

/-- the walk of Bounties' hook: a paid bounty is `Funded` -/
def bountyServer (ed : ℕ) (bountyAccount : ℕ → A) : Server (Spending A) ℕ (Bounty A) where
  item acc i := acc.store.bounties i
  cost b := b.value
  serve acc i b :=
    let acc := payOut ed b.proposer b.bond (bountyAccount i) b.value acc
    { acc with store := { acc.store with
      bounties := Function.update acc.store.bounties i (some { b with status := .funded }) } }

/-- a walk of Treasury over its approved proposals; the queue keeps what it could not pay -/
def spendProposals (ed : ℕ) (s : TreasuryStore A) (budget : ℕ) : Walk (Spending A) ℕ :=
  let w := (proposalServer ed).walk s.approvals ⟨s, 0⟩ budget
  { w with state := { w.state with store := { w.state.store with approvals := w.kept } } }

/-- `T::SpendFunds::spend_funds`; what is kept is added to what the caller kept -/
def SpendFunds.spend (hook : SpendFunds) (ed : ℕ) (bountyAccount : ℕ → A) (w : Walk (Spending A) ℕ) :
    Walk (Spending A) ℕ :=
  match hook with
  | .unit => w
  | .bounties =>
    let v := (bountyServer ed bountyAccount).walk w.state.store.bountyApprovals w.state w.budget
    { state := { v.state with store := { v.state.store with bountyApprovals := v.kept } }
      budget := v.budget
      kept := w.kept ++ v.kept }

/-- `Permill * balance`: to the nearest integer, ties down -/
def permillMul (parts x : ℕ) : ℕ := (x * parts + 499999) / 1000000

/-- what is free above the existential deposit -/
def pot (ed : ℕ) (treasury : A) (s : TreasuryStore A) : ℕ := (s.account treasury).free - ed

def spendFunds (cfg : TreasuryConfig) (accounts : TreasuryAccounts A) (s : TreasuryStore A) : TreasuryStore A :=
  let ed := cfg.existentialDeposit
  let w := cfg.spendFunds.spend ed accounts.bounty (spendProposals ed s (pot ed accounts.treasury s))
  let burnt := if w.kept = [] then min (permillMul cfg.burn w.budget) w.budget else 0
  { w.state.store with
    account := settle ed accounts.treasury (w.state.imbalance + burnt) w.state.store.account }

/-- Treasury's `on_initialize` in block `n` -/
def treasuryOnInitialize (cfg : TreasuryConfig) (accounts : TreasuryAccounts A) (n : ℕ) (s : TreasuryStore A) :
    TreasuryStore A :=
  if n % cfg.spendPeriod = 0 then spendFunds cfg accounts s else s

end Spend

/-! ## The walk over the proposals -/

section Invariant

variable {A : Type}

/-- invariant of the walk over the proposals, from a store and a budget; `R` holds all accounts the proposals pay -/
structure Walked (s : TreasuryStore A) (budget : ℕ) (R : Finset A) (acc : Spending A) (left : ℕ) : Prop where
  bounties : acc.store.bounties = s.bounties
  bountyApprovals : acc.store.bountyApprovals = s.bountyApprovals
  proposals : ∀ i p, acc.store.proposals i = some p → s.proposals i = some p
  total : ∀ a, (s.account a).total ≤ (acc.store.account a).total
  reserved : ∀ a, (acc.store.account a).reserved ≤ (s.account a).reserved
  credited : ∑ a ∈ R, (acc.store.account a).total = ∑ a ∈ R, (s.account a).total + acc.imbalance
  charged : acc.imbalance + left ≤ budget

theorem walked_start (s : TreasuryStore A) (budget : ℕ) (R : Finset A) : Walked s budget R ⟨s, 0⟩ budget :=
  ⟨rfl, rfl, fun _ _ h => h, fun _ => le_refl _, fun _ => le_refl _, rfl, by simp⟩

end Invariant

section Proposals

variable {A : Type} [DecidableEq A] (ed : ℕ)

theorem payOut_total (proposer : A) (bond : ℕ) (beneficiary : A) (value : ℕ) (acc : Spending A) (a : A) :
    ((payOut ed proposer bond beneficiary value acc).store.account a).total + acc.imbalance =
      (acc.store.account a).total +
        if a = beneficiary then (payOut ed proposer bond beneficiary value acc).imbalance else acc.imbalance := by
  have h := depositCreating_total ed beneficiary value (unreserve proposer bond acc.store.account) a
  rw [unreserve_total] at h
  simp only [payOut, h]
  split_ifs <;> omega

theorem payOut_reserved (proposer : A) (bond : ℕ) (beneficiary : A) (value : ℕ) (acc : Spending A) (a : A) :
    ((payOut ed proposer bond beneficiary value acc).store.account a).reserved =
      (acc.store.account a).reserved - if a = proposer then bond else 0 := by
  simp only [payOut, depositCreating_reserved, unreserve_reserved]

theorem payOut_imbalance (proposer : A) (bond : ℕ) (beneficiary : A) (value : ℕ) (acc : Spending A) :
    acc.imbalance ≤ (payOut ed proposer bond beneficiary value acc).imbalance ∧
      (payOut ed proposer bond beneficiary value acc).imbalance ≤ acc.imbalance + value :=
  ⟨Nat.le_add_right _ _, Nat.add_le_add_left (creditable_le _ _ _) _⟩

theorem proposalServer_serves : (proposalServer (A := A) ed).Serves fun _ => True := by
  refine ⟨fun _ _ _ => trivial, ?_⟩
  intro acc i p q _ _ j _
  exact Function.update_apply _ _ _ _

/-- the bond a proposal of `a` gives back to `a` -/
def Proposal.bondOf (a : A) (p : Proposal A) : ℕ := if a = p.proposer then p.bond else 0

/-- paying a proposal removes it, and no other -/
theorem proposalServer_removes : (proposalServer (A := A) ed).Removes :=
  fun _ _ _ _ _ => Function.update_apply _ _ _ _

/-- what is there after a payment was there before -/
theorem proposals_of_serve {acc : Spending A} {i j : ℕ} {p x : Proposal A}
    (h : ((proposalServer ed).serve acc i p).store.proposals j = some x) : acc.store.proposals j = some x := by
  by_cases hji : j = i
  · subst hji
    simp [proposalServer] at h
  · simp only [proposalServer, ne_eq, hji, not_false_eq_true, Function.update_of_ne] at h
    exact h

/-- one payment lowers no account -/
theorem serve_total_le (acc : Spending A) (i : ℕ) (p : Proposal A) (a : A) :
    (acc.store.account a).total ≤ (((proposalServer ed).serve acc i p).store.account a).total := by
  have htotal := payOut_total ed p.proposer p.bond p.beneficiary p.value acc a
  have hmore := (payOut_imbalance ed p.proposer p.bond p.beneficiary p.value acc).1
  simp only [proposalServer]
  split_ifs at htotal <;> omega

/-- paying one proposal -/
theorem walked_serve {s : TreasuryStore A} {budget left : ℕ} {R : Finset A} {acc : Spending A} {i : ℕ}
    {p : Proposal A} (h : Walked s budget R acc left) (hp : p.beneficiary ∈ R) (hleft : p.value ≤ left) :
    Walked s budget R ((proposalServer ed).serve acc i p) (left - p.value) := by
  have hacc : ((proposalServer ed).serve acc i p).store.account =
      (payOut ed p.proposer p.bond p.beneficiary p.value acc).store.account := rfl
  have himb : ((proposalServer ed).serve acc i p).imbalance =
      (payOut ed p.proposer p.bond p.beneficiary p.value acc).imbalance := rfl
  have htotal := payOut_total ed p.proposer p.bond p.beneficiary p.value acc
  obtain ⟨hmore, hless⟩ := payOut_imbalance ed p.proposer p.bond p.beneficiary p.value acc
  refine ⟨h.bounties, h.bountyApprovals, fun j x hj => ?_, fun a => ?_, fun a => ?_, ?_, ?_⟩
  · exact h.proposals j x (proposals_of_serve ed hj)
  · exact le_trans (h.total a) (serve_total_le ed acc i p a)
  · rw [hacc, payOut_reserved]
    exact le_trans (Nat.sub_le _ _) (h.reserved a)
  · -- only the beneficiary's total moves, by what is added to the imbalance
    have hstep : ∀ a, ((payOut ed p.proposer p.bond p.beneficiary p.value acc).store.account a).total =
        (acc.store.account a).total + if a = p.beneficiary then
          (payOut ed p.proposer p.bond p.beneficiary p.value acc).imbalance - acc.imbalance else 0 := by
      intro a
      have h2 := htotal a
      split_ifs at h2 ⊢ <;> omega
    rw [hacc, himb, Finset.sum_congr rfl fun a _ => hstep a, Finset.sum_add_distrib, Finset.sum_ite_eq', if_pos hp,
      h.credited]
    omega
  · have h3 := h.charged
    rw [himb]
    omega

/-- **Treasury's walk, in every case.** -/
theorem walked_spendProposals {s : TreasuryStore A} {R : Finset A}
    (hR : ∀ i ∈ s.approvals, ∀ p, s.proposals i = some p → p.beneficiary ∈ R) (budget : ℕ) :
    Walked s budget R (spendProposals ed s budget).state (spendProposals ed s budget).budget := by
  have hwalk := (proposalServer ed).walk_inv (P := Walked s budget R) (q := s.approvals)
    (fun acc left p i hi h hp hle => walked_serve ed h (hR i hi p (h.proposals i p hp)) hle) (walked_start s budget R)
  exact ⟨hwalk.bounties, hwalk.bountyApprovals, hwalk.proposals, hwalk.total, hwalk.reserved, hwalk.credited,
    hwalk.charged⟩

/-- **Treasury's walk, when the budget covers the queue.** Every proposal is paid, and every bond given back. -/
theorem spendProposals_affordable {s : TreasuryStore A} {budget : ℕ}
    (h : queued s.proposals Proposal.value s.approvals ≤ budget) :
    (spendProposals ed s budget).kept = [] ∧
    (spendProposals ed s budget).budget + queued s.proposals Proposal.value s.approvals = budget ∧
    ∀ a, ((spendProposals ed s budget).state.store.account a).reserved =
      (s.account a).reserved - queued s.proposals (Proposal.bondOf a) s.approvals := by
  obtain ⟨hkept, hleft⟩ := Server.walk_affordable (proposalServer_serves ed) (q := s.approvals) trivial
    (s := ⟨s, 0⟩) h
  refine ⟨hkept, hleft, fun a => ?_⟩
  exact Server.walk_weight (proposalServer_serves ed) (m := fun acc => (acc.store.account a).reserved)
    (fun acc i p _ => payOut_reserved ed p.proposer p.bond p.beneficiary p.value acc a) trivial (s := ⟨s, 0⟩) h

/-! ### What the walk pays, whatever the budget covers -/

/-- what the walk pays: the proposals that are gone after it -/
def walkPaid (s : TreasuryStore A) (budget : ℕ) : ℕ → Option (Proposal A) :=
  removed s.proposals (spendProposals ed s budget).state.store.proposals

/-- what paying a proposal is sure to credit: its value, if the beneficiary has an account in `s` or gets enough for
one -/
def Proposal.credit (s : TreasuryStore A) (p : Proposal A) : ℕ :=
  if 0 < (s.account p.beneficiary).total ∨ ed ≤ p.value then p.value else 0

/-- a weight of the proposals that pay `a` -/
def Proposal.payingTo (a : A) (w : Proposal A → ℕ) (p : Proposal A) : ℕ := if a = p.beneficiary then w p else 0

/-- **Bonds.** Those of the paid proposals are taken off the reserve, as far as they are there. -/
theorem spendProposals_reserved (s : TreasuryStore A) (budget : ℕ) (a : A) :
    ((spendProposals ed s budget).state.store.account a).reserved =
      (s.account a).reserved - queued (walkPaid ed s budget) (Proposal.bondOf a) s.approvals :=
  Server.walk_lowered (proposalServer_removes ed) (m := fun acc => (acc.store.account a).reserved)
    (fun acc _ p _ => payOut_reserved ed p.proposer p.bond p.beneficiary p.value acc a) s.approvals ⟨s, 0⟩ budget

/-- one payment credits the value, or less where the beneficiary has no account -/
theorem serve_credit {s : TreasuryStore A} {acc : Spending A}
    (hacc : ∀ a, (s.account a).total ≤ (acc.store.account a).total) (i : ℕ) (p : Proposal A) :
    acc.imbalance + p.credit ed s ≤ ((proposalServer ed).serve acc i p).imbalance ∧
      ((proposalServer ed).serve acc i p).imbalance ≤ acc.imbalance + p.value := by
  have hb := hacc p.beneficiary
  have hsame := unreserve_total p.proposer p.bond acc.store.account p.beneficiary
  simp only [proposalServer, payOut, creditable, Proposal.credit, hsame]
  split_ifs <;> omega

/-- **Payments.** An account gets the values of the paid proposals that are for it, or less if it is new. -/
theorem spendProposals_total (s : TreasuryStore A) (budget : ℕ) (a : A) :
    (s.account a).total + queued (walkPaid ed s budget) (Proposal.payingTo a (Proposal.credit ed s)) s.approvals ≤
        ((spendProposals ed s budget).state.store.account a).total ∧
      ((spendProposals ed s budget).state.store.account a).total ≤
        (s.account a).total + queued (walkPaid ed s budget) (Proposal.payingTo a Proposal.value) s.approvals := by
  refine Server.walk_raised (proposalServer_removes ed)
    (I := fun acc => ∀ b, (s.account b).total ≤ (acc.store.account b).total)
    (m := fun acc => (acc.store.account a).total)
    (fun acc i p hacc _ b => le_trans (hacc b) (serve_total_le ed acc i p b)) ?_ s.approvals (s := ⟨s, 0⟩)
    (fun _ => le_refl _) budget
  intro acc i p hacc _
  have htotal := payOut_total ed p.proposer p.bond p.beneficiary p.value acc a
  have hcredit := serve_credit ed hacc i p
  simp only [proposalServer, Proposal.payingTo] at hcredit ⊢
  split_ifs at htotal ⊢ <;> omega

/-- an account that a payment does not concern -/
theorem payOut_of_ne {proposer beneficiary a : A} (bond value : ℕ) (acc : Spending A) (hp : a ≠ proposer)
    (hb : a ≠ beneficiary) :
    (payOut ed proposer bond beneficiary value acc).store.account a = acc.store.account a := by
  simp [payOut, depositCreating, unreserve, hp, hb]

/-- the account a payment of at least the existential deposit goes to -/
theorem payOut_beneficiary {proposer beneficiary : A} (bond : ℕ) {value : ℕ} (acc : Spending A)
    (hp : beneficiary ≠ proposer) (hed : ed ≤ value) :
    (payOut ed proposer bond beneficiary value acc).store.account beneficiary =
      ⟨(acc.store.account beneficiary).free + value, (acc.store.account beneficiary).reserved⟩ := by
  have hcredit : ∀ b, creditable ed b value = value := by
    intro b
    unfold creditable
    exact if_neg fun h => absurd hed (Nat.not_le.2 h.2)
  simp [payOut, depositCreating, unreserve, hp, hcredit]

/-- the walk over the proposals leaves an account that none of them names as it was -/
theorem spendProposals_of_ne {s : TreasuryStore A} {a : A}
    (h : ∀ i p, s.proposals i = some p → a ≠ p.proposer ∧ a ≠ p.beneficiary) (budget : ℕ) :
    (spendProposals ed s budget).state.store.account a = s.account a := by
  refine ((proposalServer ed).walk_inv (P := fun acc _ =>
    (∀ i p, acc.store.proposals i = some p → s.proposals i = some p) ∧ acc.store.account a = s.account a)
    ?_ ⟨fun _ _ h => h, rfl⟩).2
  rintro acc _ p i _ ⟨hprop, hacc⟩ hp -
  obtain ⟨hne, hne'⟩ := h i p (hprop i p hp)
  refine ⟨fun j x hj => ?_, (payOut_of_ne ed p.bond p.value acc hne hne').trans hacc⟩
  exact hprop j x (proposals_of_serve ed hj)

end Proposals

/-! ## The walk over the bounties -/

section Bounties

variable {A : Type} [DecidableEq A] (ed : ℕ) (bountyAccount : ℕ → A)

theorem bountyServer_serves : (bountyServer ed bountyAccount).Serves List.Nodup := by
  refine ⟨fun _ _ h => (List.nodup_cons.1 h).2, ?_⟩
  intro acc i b q hq _ j hj
  have hji : j ≠ i := fun e => (List.nodup_cons.1 hq).1 (e ▸ hj)
  rw [if_neg hji]
  exact Function.update_of_ne hji _ _

/-- the bond a bounty of `a` gives back to `a` -/
def Bounty.bondOf (a : A) (b : Bounty A) : ℕ := if a = b.proposer then b.bond else 0

/-- **Bounties' walk, when the budget covers the queue.** Every bounty of the queue is funded, and every bond given
back. -/
theorem bountyWalk_affordable {acc : Spending A} {q : List ℕ} (hq : q.Nodup) {budget : ℕ}
    (h : queued acc.store.bounties Bounty.value q ≤ budget) :
    ((bountyServer ed bountyAccount).walk q acc budget).kept = [] ∧
    (∀ i ∈ q, ∀ b, acc.store.bounties i = some b →
      ((bountyServer ed bountyAccount).walk q acc budget).state.store.bounties i = some { b with status := .funded }) ∧
    ∀ a, (((bountyServer ed bountyAccount).walk q acc budget).state.store.account a).reserved =
      (acc.store.account a).reserved - queued acc.store.bounties (Bounty.bondOf a) q := by
  have hS := bountyServer_serves ed bountyAccount
  refine ⟨(Server.walk_affordable hS hq h).1, fun i hi b hb => ?_, fun a => ?_⟩
  · refine Server.walk_observe hS (P := fun _ => True) (m := fun acc => acc.store.bounties i)
      (g := fun b _ => some { b with status := .funded }) (fun _ _ _ _ _ => trivial) ?_ ?_ hq trivial h hi hb
    · intro acc j _ y _ hji _
      exact Function.update_of_ne hji.symm _ _
    · intro acc x _ _
      exact Function.update_self _ _ _
  · exact Server.walk_weight hS (m := fun acc => (acc.store.account a).reserved)
      (fun acc i b _ => payOut_reserved ed b.proposer b.bond (bountyAccount i) b.value acc a) hq h

/-- a queued bounty's account receives its value and nothing else, if nothing else that is queued uses the account -/
theorem bountyWalk_paid {acc : Spending A} {q : List ℕ} (hq : q.Nodup) {budget : ℕ}
    (h : queued acc.store.bounties Bounty.value q ≤ budget) {i : ℕ} (hi : i ∈ q)
    (hinj : ∀ j ∈ q, bountyAccount i = bountyAccount j → i = j)
    (hapart : ∀ j ∈ q, ∀ b, acc.store.bounties j = some b → bountyAccount i ≠ b.proposer ∧ ed ≤ b.value) {b : Bounty A}
    (hb : acc.store.bounties i = some b) :
    ((bountyServer ed bountyAccount).walk q acc budget).state.store.account (bountyAccount i) =
      ⟨(acc.store.account (bountyAccount i)).free + b.value, (acc.store.account (bountyAccount i)).reserved⟩ := by
  refine Server.walk_observe (bountyServer_serves ed bountyAccount)
    (P := fun acc => ∀ j ∈ q, ∀ b, acc.store.bounties j = some b → bountyAccount i ≠ b.proposer ∧ ed ≤ b.value)
    (m := fun acc => acc.store.account (bountyAccount i)) (g := fun b m => ⟨m.free + b.value, m.reserved⟩)
    ?_ ?_ ?_ hq hapart h hi hb
  · intro acc j y hP hy k hkq b hk
    by_cases hkj : k = j
    · subst hkj
      simp only [bountyServer, Function.update_self, Option.some.injEq] at hk
      subst hk
      exact hP k hkq y hy
    · simp only [bountyServer, ne_eq, hkj, not_false_eq_true, Function.update_of_ne] at hk
      exact hP k hkq b hk
  · intro acc j hj y hP hji hy
    exact payOut_of_ne ed y.bond y.value acc (hP j hj y hy).1 (fun e => hji (hinj j hj e).symm)
  · intro acc x hP hx
    exact payOut_beneficiary ed x.bond acc (hP i hi x hx).1 (hP i hi x hx).2

end Bounties

end NodeTemplate.Substrate
