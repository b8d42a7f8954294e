/-
Runs of the treasury of this runtime.

The runtime configures who may decide on a proposal (`ApproveOrigin`: root or three fifths of the Council;
`RejectOrigin`: root or more than half of it), the bond (5 per cent of the value, a dollar at least), where slashed bonds
go (`OnSlash = Treasury`) and the spend step (every day, nothing burnt, `SpendFunds = ()`). Treasury itself is
third-party code: `TreasuryCalls` adds its calls to the parameter `TreasuryFramework`. The law is that a call which goes
through does what is documented (`Substrate.Proposals`), and that one which is refused does nothing.

A run (`TreasuryCalls.Run`) is any sequence of calls by anybody, blocks, and changes made elsewhere. It has a log: what
was proposed, approved and rejected, and what each spend step found and left. The parameter `env` says what is known of
the changes made elsewhere; `Leaves` (the proposals are left to Treasury) is the least.

`TreasuryCalls.Run.view` takes a run to the items that are visible here, where a step is one of six (`TreasuryStep`). The
results about runs are in the modules after this one: the life of a proposal, its bond, its turn in the queue, and what
all accounts hold together.
-/
import Mathlib.Tactic
import NodeTemplate.Core.Interleave
import NodeTemplate.Runtime.Origin
import NodeTemplate.Runtime.SpendStep
import NodeTemplate.Substrate.Proposals

namespace NodeTemplate.Runtime

open NodeTemplate.Core NodeTemplate.Substrate

/-! ## Calls, blocks and runs -/

/-- what the runtime sets for Treasury's calls -/
def proposalConfig (A : Type) : ProposalConfig (OriginCaller A) A where
  existentialDeposit := existentialDeposit
  signer := OriginCaller.signer
  approveOrigin := approveOrigin
  rejectOrigin := moreThanHalfCouncil
  proposalBond := proposalBond
  proposalBondMinimum := proposalBondMinimum
  onSlash := .treasury

/-- what happened to the proposals -/
inductive TreasuryEvent (A : Type) where
  | proposed (i : ℕ) (p : Proposal A)
  | approved (i : ℕ) (origin : OriginCaller A)
  | rejected (i : ℕ) (origin : OriginCaller A)
  /-- a spend step, with what it found and what it left -/
  | spent (before after : TreasuryStore A)

section Chain

variable {A : Type} [DecidableEq A]

/-- the third-party side of Treasury's calls -/
structure TreasuryCalls (F : TreasuryFramework A) where
  proposalCount : F.Store → ℕ
  /-- accounts that something else holds on to -/
  held : F.Store → A → Bool
  dispatch : ProposalConfig (OriginCaller A) A → OriginCaller A → TreasuryCall A → F.Store →
    Except TreasuryError Unit × F.Store
  dispatch_ok : ∀ cfg origin call st st', dispatch cfg origin call st = (.ok (), st') →
    treasuryCall cfg F.accounts (held st) origin call ⟨F.view st, proposalCount st⟩ =
      .ok ⟨F.view st', proposalCount st'⟩
  dispatch_error : ∀ cfg origin call st st' e, dispatch cfg origin call st = (.error e, st') →
    F.view st' = F.view st ∧ proposalCount st' = proposalCount st
  onInitialize_count : ∀ cfg n st, proposalCount (F.onInitialize cfg n st) = proposalCount st

/-- the documented behaviour and nothing else -/
def referenceStates (accounts : TreasuryAccounts A) : TreasuryFramework A where
  Store := TreasuryState A
  view s := s.items
  accounts := accounts
  onInitialize cfg n s := { s with items := treasuryOnInitialize cfg accounts n s.items }
  onInitialize_law _ _ _ := rfl

/-- no account is held -/
def referenceCalls (accounts : TreasuryAccounts A) : TreasuryCalls (referenceStates accounts) where
  proposalCount s := s.proposalCount
  held _ _ := false
  dispatch cfg origin call s :=
    match treasuryCall cfg accounts (fun _ => false) origin call s with
    | .ok t => (.ok (), t)
    | .error e => (.error e, s)
  dispatch_ok := by
    intro cfg origin call st st' h
    change treasuryCall cfg accounts (fun _ => false) origin call st = .ok st'
    cases hc : treasuryCall cfg accounts (fun _ => false) origin call st with
    | ok t =>
      rw [hc] at h
      exact congrArg Except.ok (congrArg Prod.snd h)
    | error e =>
      rw [hc] at h
      cases congrArg Prod.fst h
  dispatch_error := by
    intro cfg origin call st st' e h
    cases hc : treasuryCall cfg accounts (fun _ => false) origin call st with
    | ok t =>
      rw [hc] at h
      cases congrArg Prod.fst h
    | error e' =>
      rw [hc] at h
      cases congrArg Prod.snd h
      exact ⟨rfl, rfl⟩
  onInitialize_count _ _ _ := rfl

/-- what a call that goes through adds to the log -/
def report (origin : OriginCaller A) (call : TreasuryCall A) (s : TreasuryState A) : List (TreasuryEvent A) :=
  match call with
  | .proposeSpend value beneficiary =>
    match origin.signer with
    | some proposer =>
      [.proposed s.proposalCount ⟨proposer, value, beneficiary, (proposalConfig A).calculateBond value⟩]
    | none => []
  | .rejectProposal i => [.rejected i origin]
  | .approveProposal i => [.approved i origin]

def TreasuryCalls.state {F : TreasuryFramework A} (C : TreasuryCalls F) (st : F.Store) : TreasuryState A :=
  ⟨F.view st, C.proposalCount st⟩

/-- one step of the chain, with what it adds to the log -/
inductive TreasuryCalls.Step {F : TreasuryFramework A} (C : TreasuryCalls F)
    (env : TreasuryState A → TreasuryState A → Prop) (st : F.Store) : List (TreasuryEvent A) → F.Store → Prop
  | called (origin : OriginCaller A) (call : TreasuryCall A) {st' : F.Store} :
    C.dispatch (proposalConfig A) origin call st = (.ok (), st') → Step C env st (report origin call (C.state st)) st'
  | refused (origin : OriginCaller A) (call : TreasuryCall A) {e : TreasuryError} {st' : F.Store} :
    C.dispatch (proposalConfig A) origin call st = (.error e, st') → Step C env st [] st'
  | spend (n : ℕ) : n % spendPeriod = 0 →
    Step C env st [.spent (F.view st) (F.view (F.onInitialize treasuryConfig n st))] (F.onInitialize treasuryConfig n st)
  | block (n : ℕ) : n % spendPeriod ≠ 0 → Step C env st [] (F.onInitialize treasuryConfig n st)
  | elsewhere {st' : F.Store} : env (C.state st) (C.state st') → Step C env st [] st'

def TreasuryCalls.Run {F : TreasuryFramework A} (C : TreasuryCalls F)
    (env : TreasuryState A → TreasuryState A → Prop) : F.Store → List (TreasuryEvent A) → F.Store → Prop :=
  Logged (C.Step env)

end Chain

/-! ## What a step does to the visible items -/

section View

variable {A : Type} [DecidableEq A]

/-- the state after a spend step -/
def spendStep (accounts : TreasuryAccounts A) (s : TreasuryState A) : TreasuryState A :=
  { s with items := spendFunds treasuryConfig accounts s.items }

/-- everything a step can do, seen on the visible items -/
inductive TreasuryStep (accounts : TreasuryAccounts A) (env : TreasuryState A → TreasuryState A → Prop)
    (s : TreasuryState A) : List (TreasuryEvent A) → TreasuryState A → Prop
  | file {p : Proposal A} : p.bond = (proposalConfig A).calculateBond p.value →
    p.bond ≤ (s.items.account p.proposer).free →
    TreasuryStep accounts env s [.proposed s.proposalCount p] (s.file p)
  | strike {held : A → Bool} {origin : OriginCaller A} {i : ℕ} {p : Proposal A} :
    moreThanHalfCouncil origin = true → s.items.proposals i = some p →
    TreasuryStep accounts env s [.rejected i origin] (s.strike (proposalConfig A) accounts held i p)
  | enqueue {origin : OriginCaller A} {i : ℕ} {p : Proposal A} :
    approveOrigin origin = true → s.items.proposals i = some p →
    TreasuryStep accounts env s [.approved i origin] (s.enqueue i)
  | spend : TreasuryStep accounts env s [.spent s.items (spendStep accounts s).items] (spendStep accounts s)
  | none : TreasuryStep accounts env s [] s
  | elsewhere {t : TreasuryState A} : env s t → TreasuryStep accounts env s [] t

theorem TreasuryCalls.Step.view {F : TreasuryFramework A} {C : TreasuryCalls F}
    {env : TreasuryState A → TreasuryState A → Prop} {st st' : F.Store} {es : List (TreasuryEvent A)}
    (h : C.Step env st es st') : TreasuryStep F.accounts env (C.state st) es (C.state st') := by
  cases h with
  | called origin call h =>
    have hcall := C.dispatch_ok _ _ _ _ _ h
    rcases treasuryCall_cases hcall with ⟨p, rfl, hsigner, hbond, hfree, ht⟩ | ⟨i, p, rfl, horigin, hp, ht⟩ |
      ⟨i, p, rfl, horigin, hp, ht⟩
    · have hlog : report origin (.proposeSpend p.value p.beneficiary) (C.state st) =
          [.proposed (C.state st).proposalCount p] := by
        change origin.signer = some p.proposer at hsigner
        simp only [report, hsigner, ← hbond]
      rw [hlog, show C.state st' = (C.state st).file p from ht]
      exact .file hbond hfree
    · rw [show C.state st' = (C.state st).strike (proposalConfig A) F.accounts (C.held st) i p from ht]
      exact .strike horigin hp
    · rw [show C.state st' = (C.state st).enqueue i from ht]
      exact .enqueue horigin hp
  | refused _ _ h =>
    obtain ⟨hview, hcount⟩ := C.dispatch_error _ _ _ _ _ _ h
    have hstate : C.state st' = C.state st := by
      unfold TreasuryCalls.state
      rw [hview, hcount]
    rw [hstate]
    exact .none
  | spend n hn =>
    have hview : F.view (F.onInitialize treasuryConfig n st) = spendFunds treasuryConfig F.accounts (F.view st) :=
      (F.onInitialize_law _ _ _).trans (if_pos hn)
    have hstate : C.state (F.onInitialize treasuryConfig n st) = spendStep F.accounts (C.state st) := by
      unfold TreasuryCalls.state
      rw [hview, C.onInitialize_count]
      rfl
    rw [hview, hstate]
    exact .spend
  | block n hn =>
    have hview : F.view (F.onInitialize treasuryConfig n st) = F.view st :=
      (F.onInitialize_law _ _ _).trans (if_neg hn)
    have hstate : C.state (F.onInitialize treasuryConfig n st) = C.state st := by
      unfold TreasuryCalls.state
      rw [hview, C.onInitialize_count]
    rw [hstate]
    exact .none
  | elsewhere h => exact .elsewhere h

theorem TreasuryCalls.Run.view {F : TreasuryFramework A} {C : TreasuryCalls F}
    {env : TreasuryState A → TreasuryState A → Prop} {st st' : F.Store} {log : List (TreasuryEvent A)}
    (h : C.Run env st log st') : Logged (TreasuryStep F.accounts env) (C.state st) log (C.state st') :=
  Logged.map (fun _ _ _ hstep => hstep.view) h

/-- the proposals and the queue are left to Treasury -/
structure Leaves (s t : TreasuryState A) : Prop where
  proposals : t.items.proposals = s.items.proposals
  approvals : t.items.approvals = s.items.approvals
  proposalCount : t.proposalCount = s.proposalCount

end View

/-! ## A small run -/

/-- the accounts of `smallTreasury`; account 1 has two dollars -/
def smallStart : TreasuryState ℕ where
  items := {
    account := fun a => if a = 0 then ⟨100000, 0⟩ else if a = 1 then ⟨20000000000, 0⟩ else ⟨0, 0⟩
    proposals := fun _ => none
    approvals := []
    bounties := fun _ => none
    bountyApprovals := [] }
  proposalCount := 0

def smallCalls : TreasuryCalls (referenceStates smallTreasury.accounts) := referenceCalls smallTreasury.accounts

/-- account 1 proposes to pay account 2, for the minimal bond -/
def smallProposal : Proposal ℕ := ⟨1, 1000, 2, 10000000000⟩

/-- three of five members of the Council -/
def threeOfFive : OriginCaller ℕ := .council (.members 3 5)

def smallQueued : TreasuryState ℕ := (smallStart.file smallProposal).enqueue 0

def smallPaid : TreasuryState ℕ := spendStep smallTreasury.accounts smallQueued

/-- proposed, approved and paid -/
def smallLog : List (TreasuryEvent ℕ) :=
  [.proposed 0 smallProposal, .approved 0 threeOfFive, .spent smallQueued.items smallPaid.items]

theorem small_spend (env : TreasuryState ℕ → TreasuryState ℕ → Prop) :
    smallCalls.Step env smallQueued [.spent smallQueued.items smallPaid.items] smallPaid :=
  .spend 14400 (by decide)

theorem small_queue (env : TreasuryState ℕ → TreasuryState ℕ → Prop) :
    smallCalls.Run env smallStart [.proposed 0 smallProposal, .approved 0 threeOfFive] smallQueued := by
  have hfile : smallCalls.Step env smallStart [.proposed 0 smallProposal] (smallStart.file smallProposal) :=
    .called (.system (.signed 1)) (.proposeSpend 1000 2) rfl
  have henqueue : smallCalls.Step env (smallStart.file smallProposal) [.approved 0 threeOfFive] smallQueued :=
    .called threeOfFive (.approveProposal 0) rfl
  exact (Logged.start.step hfile).step henqueue

theorem small_run (env : TreasuryState ℕ → TreasuryState ℕ → Prop) :
    smallCalls.Run env smallStart smallLog smallPaid := (small_queue env).step (small_spend env)

end NodeTemplate.Runtime
