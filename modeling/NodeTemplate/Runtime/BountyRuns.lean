/-
Bounties of this runtime over whole runs of the chain.

Bounties is configured and its calls can be made (`pallet_bounties::Config`, `construct_runtime!`), but the spend step
never asks it for anything: `type SpendFunds = (); // Bounties;`. The pallet itself is third-party code, a parameter here
(`BountyCalls`). Its law is the documented diagram of a bounty's status and the origin each arrow needs (`StatusMoves`):
- `propose_bounty` files a bounty under the next number, with a bond for it and for each byte of its description;
- `approve_bounty` takes a proposed bounty and queues it for the spend step;
- `propose_curator` takes any bounty that has no curator yet: proposed, approved or funded;
- `unassign_curator` takes one that has a curator, and leaves it funded, whether it was ever paid or not;
- `accept_curator`, `award_bounty`, `extend_bounty_expiry` and `claim_bounty` are for a curator and a beneficiary;
- `close_bounty` removes a bounty, but refuses an approved one (it is to be funded first) and one about to be claimed.
What becomes of balances, fees and deadlines is left open: the results do not depend on it.

A run (`BountyCalls.Run`) is any sequence of these calls, of blocks and of changes elsewhere that leave the bounties
alone. Its log lists the numbers given to new bounties, and the curators proposed.

Result, `bounty_trap`, for every run from any state (`Trap`). No spend step funds anything, so the way past approval is
`propose_curator` alone, by root or three fifths of the Council: without it an approved bounty stays as it is, and in
the queue, for good. And no way leads back: what was past its proposal is never a proposal again.
-/
import Mathlib.Tactic
import NodeTemplate.Core.Interleave
import NodeTemplate.Runtime.Origin
import NodeTemplate.Runtime.Treasury
import NodeTemplate.Substrate.Proposals

namespace NodeTemplate.Runtime

open NodeTemplate.Core NodeTemplate.Substrate

/-! ## The calls -/

inductive BountyCall (A : Type) where
  | proposeBounty (value : ℕ) (description : List UInt8)
  | approveBounty (bountyId : ℕ)
  | proposeCurator (bountyId : ℕ) (curator : A) (fee : ℕ)
  | unassignCurator (bountyId : ℕ)
  | acceptCurator (bountyId : ℕ)
  | awardBounty (bountyId : ℕ) (beneficiary : A)
  | claimBounty (bountyId : ℕ)
  | closeBounty (bountyId : ℕ)
  | extendBountyExpiry (bountyId : ℕ) (remark : List UInt8)
deriving DecidableEq, Repr

/-- the bounty a call is about -/
def BountyCall.bounty {A : Type} : BountyCall A → Option ℕ
  | .approveBounty i | .proposeCurator i _ _ | .unassignCurator i | .acceptCurator i | .awardBounty i _
  | .claimBounty i | .closeBounty i | .extendBountyExpiry i _ => some i
  | .proposeBounty _ _ => none

/-- what a call adds to the queue of the spend step -/
def BountyCall.queues {A : Type} : BountyCall A → List ℕ
  | .approveBounty i => [i]
  | _ => []

/-- the curator of a bounty, proposed or at work -/
def curatorOf {A : Type} : BountyStatus A → Option A
  | .proposed | .approved | .funded => none
  | .curatorProposed c | .active c _ | .pendingPayout c _ _ => some c

/-- funded, or with a curator -/
def beyondApproval {A : Type} : BountyStatus A → Bool
  | .proposed | .approved => false
  | .funded | .curatorProposed _ | .active _ _ | .pendingPayout _ _ _ => true

/-- what the `Config` impl sets for new bounties -/
structure BountyConfig where
  depositBase : ℕ
  depositPerByte : ℕ
  valueMinimum : ℕ
  maximumReasonLength : ℕ
deriving DecidableEq, Repr

def bountyConfig : BountyConfig where
  depositBase := bountyDepositBase
  depositPerByte := dataDepositPerByte
  valueMinimum := bountyValueMinimum
  maximumReasonLength := maximumReasonLength

/-- the bounties, the queue of the approved ones, and the next number -/
structure BountyItems (A : Type) where
  bounties : ℕ → Option (Bounty A)
  approvals : List ℕ
  count : ℕ

section Calls

variable {A : Type} [DecidableEq A]

/-- who may unassign the curator: more than half of the Council always; the curator itself as long as no payout is
pending, and anybody once it is overdue at its work -/
def mayUnassign (origin : OriginCaller A) (status : BountyStatus A) : Bool :=
  moreThanHalfCouncil origin ||
    match status with
    | .curatorProposed c => origin.signer = some c
    | .active _ _ => origin.signer.isSome
    | .proposed | .approved | .funded | .pendingPayout _ _ _ => false

/-- the documented diagram of a bounty's status: who may lead it from where to where; `none` if it is removed -/
inductive StatusMoves (origin : OriginCaller A) : BountyCall A → BountyStatus A → Option (BountyStatus A) → Prop
  | approve (i : ℕ) : approveOrigin origin = true → StatusMoves origin (.approveBounty i) .proposed (some .approved)
  | proposeCurator (i : ℕ) (c : A) (fee : ℕ) {status : BountyStatus A} : approveOrigin origin = true →
    curatorOf status = none → StatusMoves origin (.proposeCurator i c fee) status (some (.curatorProposed c))
  | unassign (i : ℕ) {c : A} {status : BountyStatus A} : mayUnassign origin status = true →
    curatorOf status = some c → StatusMoves origin (.unassignCurator i) status (some .funded)
  | accept (i due : ℕ) {c : A} : origin.signer = some c →
    StatusMoves origin (.acceptCurator i) (.curatorProposed c) (some (.active c due))
  | award (i unlockAt : ℕ) (beneficiary : A) {c : A} {due : ℕ} : origin.signer = some c →
    StatusMoves origin (.awardBounty i beneficiary) (.active c due) (some (.pendingPayout c beneficiary unlockAt))
  | extend (i due' : ℕ) (remark : List UInt8) {c : A} {due : ℕ} : origin.signer = some c →
    StatusMoves origin (.extendBountyExpiry i remark) (.active c due) (some (.active c due'))
  | claim (i : ℕ) {c beneficiary : A} {unlockAt : ℕ} : origin.signer.isSome = true →
    StatusMoves origin (.claimBounty i) (.pendingPayout c beneficiary unlockAt) none
  | close (i : ℕ) {status : BountyStatus A} : moreThanHalfCouncil origin = true → status ≠ .approved →
    (∀ c beneficiary unlockAt, status ≠ .pendingPayout c beneficiary unlockAt) →
    StatusMoves origin (.closeBounty i) status none

/-- what a call that goes through does -/
inductive BountyCalled (cfg : BountyConfig) (origin : OriginCaller A) (s : BountyItems A) :
    BountyCall A → BountyItems A → Prop
  | filed {value : ℕ} {description : List UInt8} {b : Bounty A} : origin.signer = some b.proposer →
    description.length ≤ cfg.maximumReasonLength → cfg.valueMinimum ≤ value → b.value = value →
    b.bond = cfg.depositBase + cfg.depositPerByte * description.length → b.status = .proposed →
    BountyCalled cfg origin s (.proposeBounty value description)
      { s with bounties := Function.update s.bounties s.count (some b), count := (s.count + 1) % indexBound }
  | moved {call : BountyCall A} {i : ℕ} {b : Bounty A} {x : Option (Bounty A)} : call.bounty = some i →
    s.bounties i = some b → StatusMoves origin call b.status (x.map Bounty.status) →
    (∀ b', x = some b' → b'.proposer = b.proposer ∧ b'.value = b.value ∧ b'.bond = b.bond) →
    BountyCalled cfg origin s call
      { s with bounties := Function.update s.bounties i x, approvals := s.approvals ++ call.queues }

/-- the diagram, made executable; deadlines are left at 0 -/
def BountyCall.move (origin : OriginCaller A) (call : BountyCall A) (status : BountyStatus A) :
    Option (Option (BountyStatus A)) :=
  match call, status with
  | .approveBounty _, .proposed => if approveOrigin origin then some (some .approved) else none
  | .proposeCurator _ c _, status =>
    if approveOrigin origin ∧ curatorOf status = none then some (some (.curatorProposed c)) else none
  | .unassignCurator _, status =>
    (curatorOf status).bind fun _ => if mayUnassign origin status then some (some .funded) else none
  | .acceptCurator _, .curatorProposed c => if origin.signer = some c then some (some (.active c 0)) else none
  | .awardBounty _ beneficiary, .active c _ =>
    if origin.signer = some c then some (some (.pendingPayout c beneficiary 0)) else none
  | .extendBountyExpiry _ _, .active c due => if origin.signer = some c then some (some (.active c due)) else none
  | .claimBounty _, .pendingPayout _ _ _ => if origin.signer.isSome then some none else none
  | .closeBounty _, .proposed | .closeBounty _, .funded | .closeBounty _, .curatorProposed _
  | .closeBounty _, .active _ _ => if moreThanHalfCouncil origin then some none else none
  | _, _ => none

theorem statusMoves_of_move {origin : OriginCaller A} {call : BountyCall A} {status : BountyStatus A}
    {x : Option (BountyStatus A)} (h : call.move origin status = some x) : StatusMoves origin call status x := by
  cases call with
  | proposeBounty value description => cases h
  | approveBounty i =>
    cases status with
    | proposed =>
      simp only [BountyCall.move] at h
      split_ifs at h with horigin
      cases h
      exact .approve i horigin
    | _ => cases h
  | proposeCurator i c fee =>
    simp only [BountyCall.move] at h
    split_ifs at h with hcond
    cases h
    exact .proposeCurator i c fee hcond.1 hcond.2
  | unassignCurator i =>
    simp only [BountyCall.move] at h
    obtain ⟨c, hc, hif⟩ := Option.bind_eq_some_iff.1 h
    split_ifs at hif with horigin
    cases hif
    exact .unassign i horigin hc
  | acceptCurator i =>
    cases status with
    | curatorProposed c =>
      simp only [BountyCall.move] at h
      split_ifs at h with horigin
      cases h
      exact .accept i 0 horigin
    | _ => cases h
  | awardBounty i beneficiary =>
    cases status with
    | active c due =>
      simp only [BountyCall.move] at h
      split_ifs at h with horigin
      cases h
      exact .award i 0 beneficiary horigin
    | _ => cases h
  | claimBounty i =>
    cases status with
    | pendingPayout c beneficiary unlockAt =>
      simp only [BountyCall.move] at h
      split_ifs at h with horigin
      cases h
      exact .claim i horigin
    | _ => cases h
  | closeBounty i =>
    cases status with
    | approved => cases h
    | pendingPayout c beneficiary unlockAt => cases h
    | _ =>
      simp only [BountyCall.move] at h
      split_ifs at h with horigin
      cases h
      exact .close i horigin (fun e => by cases e) (fun _ _ _ e => by cases e)
  | extendBountyExpiry i remark =>
    cases status with
    | active c due =>
      simp only [BountyCall.move] at h
      split_ifs at h with horigin
      cases h
      exact .extend i due remark horigin
    | _ => cases h

/-- a call, made executable; balances are left alone -/
def bountyStep (cfg : BountyConfig) (origin : OriginCaller A) (call : BountyCall A) (s : BountyItems A) :
    Option (BountyItems A) :=
  match call with
  | .proposeBounty value description =>
    origin.signer.bind fun who =>
      if description.length ≤ cfg.maximumReasonLength ∧ cfg.valueMinimum ≤ value then
        let bond := cfg.depositBase + cfg.depositPerByte * description.length
        some { s with
          bounties := Function.update s.bounties s.count (some ⟨who, value, 0, 0, bond, .proposed⟩)
          count := (s.count + 1) % indexBound }
      else none
  | call =>
    call.bounty.bind fun i => (s.bounties i).bind fun b => (call.move origin b.status).map fun x =>
      { s with
        bounties := Function.update s.bounties i (x.map fun status => { b with status := status })
        approvals := s.approvals ++ call.queues }

theorem bountyStep_called {cfg : BountyConfig} {origin : OriginCaller A} {call : BountyCall A} {s t : BountyItems A}
    (h : bountyStep cfg origin call s = some t) : BountyCalled cfg origin s call t := by
  have hmoved : (call.bounty.bind fun i => (s.bounties i).bind fun b => (call.move origin b.status).map fun x =>
      ({ s with
        bounties := Function.update s.bounties i (x.map fun status => { b with status := status })
        approvals := s.approvals ++ call.queues } : BountyItems A)) = some t → BountyCalled cfg origin s call t := by
    intro hbind
    obtain ⟨i, hi, hbind⟩ := Option.bind_eq_some_iff.1 hbind
    obtain ⟨b, hb, hmap⟩ := Option.bind_eq_some_iff.1 hbind
    obtain ⟨x, hx, rfl⟩ := Option.map_eq_some_iff.1 hmap
    refine .moved hi hb ?_ fun b' hb' => ?_
    · have hstatus : (x.map fun status => ({ b with status := status } : Bounty A)).map Bounty.status = x := by
        cases x <;> rfl
      rw [hstatus]
      exact statusMoves_of_move hx
    · obtain ⟨status, _, rfl⟩ := Option.map_eq_some_iff.1 hb'
      exact ⟨rfl, rfl, rfl⟩
  cases call with
  | proposeBounty value description =>
    obtain ⟨who, hwho, hif⟩ := Option.bind_eq_some_iff.1 h
    split_ifs at hif with hcond
    cases hif
    exact .filed hwho hcond.1 hcond.2 rfl rfl rfl
  | _ => exact hmoved h

/-- the third-party side of Bounties' calls -/
structure BountyCalls (F : TreasuryFramework A) where
  Error : Type
  bountyCount : F.Store → ℕ
  dispatch : BountyConfig → OriginCaller A → BountyCall A → F.Store → Except Error Unit × F.Store
  dispatch_ok : ∀ cfg origin call st st', dispatch cfg origin call st = (.ok (), st') →
    BountyCalled cfg origin ⟨(F.view st).bounties, (F.view st).bountyApprovals, bountyCount st⟩ call
      ⟨(F.view st').bounties, (F.view st').bountyApprovals, bountyCount st'⟩
  dispatch_error : ∀ cfg origin call st st' e, dispatch cfg origin call st = (.error e, st') →
    (F.view st').bounties = (F.view st).bounties ∧ (F.view st').bountyApprovals = (F.view st).bountyApprovals

/-- the spend step and the diagram, and nothing else -/
def referenceBountyStates (accounts : TreasuryAccounts A) : TreasuryFramework A where
  Store := TreasuryStore A × ℕ
  view s := s.1
  accounts := accounts
  onInitialize cfg n s := (treasuryOnInitialize cfg accounts n s.1, s.2)
  onInitialize_law _ _ _ := rfl

def referenceBounties (accounts : TreasuryAccounts A) : BountyCalls (referenceBountyStates accounts) where
  Error := Unit
  bountyCount s := s.2
  dispatch cfg origin call s :=
    match bountyStep cfg origin call ⟨s.1.bounties, s.1.bountyApprovals, s.2⟩ with
    | some t => (.ok (), { s.1 with bounties := t.bounties, bountyApprovals := t.approvals }, t.count)
    | none => (.error (), s)
  dispatch_ok := by
    intro cfg origin call st st' h
    cases hstep : bountyStep cfg origin call ⟨st.1.bounties, st.1.bountyApprovals, st.2⟩ with
    | none =>
      rw [hstep] at h
      cases congrArg Prod.fst h
    | some t =>
      rw [hstep] at h
      cases congrArg Prod.snd h
      exact bountyStep_called hstep
  dispatch_error := by
    intro cfg origin call st st' e h
    cases hstep : bountyStep cfg origin call ⟨st.1.bounties, st.1.bountyApprovals, st.2⟩ with
    | none =>
      rw [hstep] at h
      cases congrArg Prod.snd h
      exact ⟨rfl, rfl⟩
    | some t =>
      rw [hstep] at h
      cases congrArg Prod.fst h

/-! ## Runs -/

/-- what happened to the bounties -/
inductive BountyEvent (A : Type) where
  /-- a number was given to a new bounty -/
  | proposed (i : ℕ)
  | curatorProposed (i : ℕ) (origin : OriginCaller A)
deriving DecidableEq, Repr

/-- what a call that goes through adds to the log -/
def BountyCall.report (origin : OriginCaller A) (count : ℕ) : BountyCall A → List (BountyEvent A)
  | .proposeBounty _ _ => [.proposed count]
  | .proposeCurator i _ _ => [.curatorProposed i origin]
  | _ => []

/-- what of a state Bounties is about -/
def BountyCalls.items {F : TreasuryFramework A} (C : BountyCalls F) (st : F.Store) : BountyItems A :=
  ⟨(F.view st).bounties, (F.view st).bountyApprovals, C.bountyCount st⟩

/-- one step of the chain, with what it adds to the log -/
inductive BountyCalls.Step {F : TreasuryFramework A} (C : BountyCalls F) (st : F.Store) :
    List (BountyEvent A) → F.Store → Prop
  | called (origin : OriginCaller A) (call : BountyCall A) {st' : F.Store} :
    C.dispatch bountyConfig origin call st = (.ok (), st') → Step C st (call.report origin (C.bountyCount st)) st'
  | refused (origin : OriginCaller A) (call : BountyCall A) {e : C.Error} {st' : F.Store} :
    C.dispatch bountyConfig origin call st = (.error e, st') → Step C st [] st'
  | block (n : ℕ) : Step C st [] (F.onInitialize treasuryConfig n st)
  | elsewhere {st' : F.Store} : (F.view st').bounties = (F.view st).bounties →
    (F.view st').bountyApprovals = (F.view st).bountyApprovals → Step C st [] st'

def BountyCalls.Run {F : TreasuryFramework A} (C : BountyCalls F) : F.Store → List (BountyEvent A) → F.Store → Prop :=
  Logged C.Step

end Calls

/-! ## The trap -/

section Trap

variable {A : Type}

/-- what a run can do to bounties, from `s` to `t` -/
structure Trap (s : BountyItems A) (log : List (BountyEvent A)) (t : BountyItems A) : Prop where
  /-- nothing leaves the queue -/
  queue : s.approvals <+: t.approvals
  /-- curators are proposed by root or three fifths of the Council -/
  origin : ∀ i o, .curatorProposed i o ∈ log → approveOrigin o = true
  /-- an approved bounty stays as it is, until a curator is proposed or its number given again -/
  approved : ∀ i b, s.bounties i = some b → b.status = .approved → .proposed i ∉ log →
    (∀ o, .curatorProposed i o ∉ log) → t.bounties i = some b
  /-- what is beyond approval was so, or had a curator proposed -/
  beyond : ∀ i b', t.bounties i = some b' → beyondApproval b'.status = true →
    (∃ b, s.bounties i = some b ∧ beyondApproval b.status = true) ∨ ∃ o, .curatorProposed i o ∈ log
  /-- what is there and was not proposed anew was there before: the same bounty, and no proposal unless it was one -/
  kept : ∀ i b', t.bounties i = some b' → .proposed i ∉ log → ∃ b, s.bounties i = some b ∧
    b'.proposer = b.proposer ∧ b'.value = b.value ∧ b'.bond = b.bond ∧
    (b'.status = .proposed → b.status = .proposed)

theorem trap_of_eq {s t : BountyItems A} (hb : t.bounties = s.bounties) (hq : t.approvals = s.approvals) :
    Trap s [] t := by
  refine ⟨hq ▸ List.prefix_refl _, fun _ _ h => absurd h List.not_mem_nil, ?_, ?_, ?_⟩
  · intro i b hi _ _ _
    rw [hb]
    exact hi
  · intro i b' hi hbeyond
    exact Or.inl ⟨b', hb ▸ hi, hbeyond⟩
  · intro i b' hi _
    exact ⟨b', hb ▸ hi, rfl, rfl, rfl, id⟩

theorem Trap.trans {s t u : BountyItems A} {log es : List (BountyEvent A)} (h : Trap s log t) (h' : Trap t es u) :
    Trap s (log ++ es) u := by
  refine ⟨h.queue.trans h'.queue, fun i o ho => ?_, ?_, ?_, ?_⟩
  · rcases List.mem_append.1 ho with ho | ho
    · exact h.origin i o ho
    · exact h'.origin i o ho
  · intro i b hi happroved hnew hcurator
    rw [List.mem_append, not_or] at hnew
    have hmid := h.approved i b hi happroved hnew.1 fun o ho => hcurator o (List.mem_append_left es ho)
    exact h'.approved i b hmid happroved hnew.2 fun o ho => hcurator o (List.mem_append_right log ho)
  · intro i b' hi hbeyond
    rcases h'.beyond i b' hi hbeyond with ⟨c, hc, hbeyond⟩ | ⟨o, ho⟩
    · rcases h.beyond i c hc hbeyond with hb | ⟨o, ho⟩
      · exact Or.inl hb
      · exact Or.inr ⟨o, List.mem_append_left es ho⟩
    · exact Or.inr ⟨o, List.mem_append_right log ho⟩
  · intro i b' hi hnew
    rw [List.mem_append, not_or] at hnew
    obtain ⟨c, hc, hproposer', hvalue', hbond', hstatus'⟩ := h'.kept i b' hi hnew.2
    obtain ⟨b, hb, hproposer, hvalue, hbond, hstatus⟩ := h.kept i c hc hnew.1
    exact ⟨b, hb, hproposer'.trans hproposer, hvalue'.trans hvalue, hbond'.trans hbond,
      fun hproposed => hstatus (hstatus' hproposed)⟩

/-- a new bounty is a proposal under a number of its own -/
theorem filed_trap {s : BountyItems A} {b : Bounty A} (hstatus : b.status = .proposed) (count : ℕ) :
    Trap s [.proposed s.count] { s with bounties := Function.update s.bounties s.count (some b), count := count } := by
  have hother : ∀ i, .proposed i ∉ [(.proposed s.count : BountyEvent A)] →
      Function.update s.bounties s.count (some b) i = s.bounties i := by
    intro i hi
    apply Function.update_of_ne
    rintro rfl
    exact hi (List.mem_singleton_self _)
  refine ⟨List.prefix_refl _, fun i o h => ?_, fun i c hc _ hi _ => ?_, fun i b' hb' hbeyond => ?_, fun i b' hb' hi => ?_⟩
  · cases List.mem_singleton.1 h
  · exact (hother i hi).trans hc
  · by_cases hi : i = s.count
    · simp only [hi, Function.update_self, Option.some.injEq] at hb'
      rw [← hb', hstatus] at hbeyond
      cases hbeyond
    · simp only [Function.update_of_ne hi] at hb'
      exact Or.inl ⟨b', hb', hbeyond⟩
  · exact ⟨b', (hother i hi).symm.trans hb', rfl, rfl, rfl, id⟩

variable [DecidableEq A]

/-- the arrows of the diagram. Only `propose_curator` leads from before approval to beyond it, and no other leads an
approved bounty anywhere. -/
theorem StatusMoves.arrow {origin : OriginCaller A} {call : BountyCall A} {status : BountyStatus A}
    {x : Option (BountyStatus A)} (h : StatusMoves origin call status x) :
    (∃ i c fee, call = .proposeCurator i c fee ∧ approveOrigin origin = true) ∨
      (∀ count, call.report origin count = []) ∧ status ≠ .approved ∧
        ∀ status', x = some status' → beyondApproval status' = true → beyondApproval status = true := by
  cases h with
  | proposeCurator i c fee horigin _ => exact Or.inl ⟨i, c, fee, rfl, horigin⟩
  | unassign i _ hcurator =>
    right
    cases status <;> simp_all [curatorOf, beyondApproval, BountyCall.report]
  | close i _ happroved _ => exact Or.inr ⟨fun _ => rfl, happroved, fun _ hx => by cases hx⟩
  | _ =>
    right
    simp [beyondApproval, BountyCall.report]

/-- none leads back to a proposal -/
theorem StatusMoves.not_proposed {origin : OriginCaller A} {call : BountyCall A} {status : BountyStatus A} :
    ¬ StatusMoves origin call status (some .proposed) := by
  intro h
  cases h

/-- what a call that goes through does -/
theorem BountyCalled.trap {origin : OriginCaller A} {s t : BountyItems A} {call : BountyCall A}
    (h : BountyCalled bountyConfig origin s call t) : Trap s (call.report origin s.count) t := by
  cases h with
  | filed _ _ _ _ _ hstatus => exact filed_trap hstatus _
  | @moved _ i b x hcall hb hmoves hsame =>
    have hother : ∀ j, j ≠ i → Function.update s.bounties i x j = s.bounties j := fun j hj => Function.update_of_ne hj _ _
    have hkept : ∀ j b', Function.update s.bounties i x j = some b' → ∃ c, s.bounties j = some c ∧
        b'.proposer = c.proposer ∧ b'.value = c.value ∧ b'.bond = c.bond ∧
        (b'.status = .proposed → c.status = .proposed) := by
      intro j b' hb'
      by_cases hj : j = i
      · subst hj
        rw [Function.update_self] at hb'
        obtain ⟨hproposer, hvalue, hbond⟩ := hsame b' hb'
        refine ⟨b, hb, hproposer, hvalue, hbond, fun hproposed => ?_⟩
        rw [hb', Option.map_some, hproposed] at hmoves
        exact absurd hmoves StatusMoves.not_proposed
      · rw [hother j hj] at hb'
        exact ⟨b', hb', rfl, rfl, rfl, id⟩
    rcases hmoves.arrow with ⟨j, c, fee, rfl, horigin⟩ | ⟨hreport, happroved, hbeyond⟩
    · cases hcall
      refine ⟨List.prefix_append _ _, fun k o ho => ?_, fun k c hc _ _ hcurator => ?_, fun k b' hb' hbeyond => ?_,
        fun k b' hb' _ => hkept k b' hb'⟩
      · cases List.mem_singleton.1 ho
        exact horigin
      · have hk : k ≠ i := by
          rintro rfl
          exact hcurator origin (List.mem_singleton_self _)
        exact (hother k hk).trans hc
      · by_cases hk : k = i
        · subst hk
          exact Or.inr ⟨origin, List.mem_singleton_self _⟩
        · exact Or.inl ⟨b', (hother k hk).symm.trans hb', hbeyond⟩
    · rw [hreport]
      refine ⟨List.prefix_append _ _, fun k o ho => absurd ho List.not_mem_nil, fun k c hc hstatus _ _ => ?_,
        fun k b' hb' hbeyond' => ?_, fun k b' hb' _ => hkept k b' hb'⟩
      · have hk : k ≠ i := by
          rintro rfl
          rw [hb, Option.some.injEq] at hc
          exact happroved (hc ▸ hstatus)
        exact (hother k hk).trans hc
      · by_cases hk : k = i
        · subst hk
          simp only [Function.update_self] at hb'
          exact Or.inl ⟨b, hb, hbeyond b'.status (by rw [hb']; rfl) hbeyond'⟩
        · exact Or.inl ⟨b', (hother k hk).symm.trans hb', hbeyond'⟩

theorem BountyCalls.Step.trap {F : TreasuryFramework A} {C : BountyCalls F} {st st' : F.Store}
    {es : List (BountyEvent A)} (h : C.Step st es st') : Trap (C.items st) es (C.items st') := by
  cases h with
  | called origin call hcall => exact (C.dispatch_ok _ _ _ _ _ hcall).trap
  | refused origin call hcall =>
    obtain ⟨hb, hq⟩ := C.dispatch_error _ _ _ _ _ _ hcall
    exact trap_of_eq hb hq
  | block n =>
    obtain ⟨hb, hq⟩ := treasuryOnInitialize_bounties F.accounts n (F.view st)
    rw [← F.onInitialize_law] at hb hq
    exact trap_of_eq hb hq
  | elsewhere hb hq => exact trap_of_eq hb hq

/-- **The trap.** In every run, from any state: nothing leaves the queue; an approved bounty stays as it is unless root or
three fifths of the Council propose a curator for it (or its number is given again); what is beyond approval got there
that way; and nothing goes back to being a proposal. No block, a spend step or not, touches a bounty or the queue. -/
theorem bounty_trap {F : TreasuryFramework A} (C : BountyCalls F) {st st' : F.Store} {log : List (BountyEvent A)}
    (hrun : C.Run st log st') :
    Trap (C.items st) log (C.items st') ∧
    ∀ n, (F.view (F.onInitialize treasuryConfig n st')).bounties = (F.view st').bounties ∧
      (F.view (F.onInitialize treasuryConfig n st')).bountyApprovals = (F.view st').bountyApprovals := by
  constructor
  · exact Logged.inv (I := fun log s => Trap (C.items st) log (C.items s)) (trap_of_eq rfl rfl)
      (fun _ _ _ _ hs hstep => hs.trans hstep.trap) hrun
  · intro n
    rw [F.onInitialize_law]
    exact treasuryOnInitialize_bounties F.accounts n (F.view st')

end Trap

def smallBounties : BountyCalls (referenceBountyStates smallTreasury.accounts) :=
  referenceBounties smallTreasury.accounts

/-- the bounty of `bountyState`: root cannot close it, and the spend step passes it by -/
theorem lone_bounty_trapped :
    ∃ st', smallBounties.Run (bountyState, 1) [] st' ∧
      (smallBounties.items st').bounties 0 = some ⟨1, 50000000000, 0, 0, 10000000000, .approved⟩ := by
  have hclose : smallBounties.Step (bountyState, 1) [] (bountyState, 1) :=
    .refused (.system .root) (.closeBounty 0) rfl
  have hrun := (Logged.start.step hclose).step (BountyCalls.Step.block (C := smallBounties) 14400)
  obtain ⟨htrap, _⟩ := bounty_trap smallBounties hrun
  exact ⟨_, hrun, htrap.approved 0 _ rfl rfl List.not_mem_nil fun _ => List.not_mem_nil⟩

/-- root proposes a curator for it and drops it again: now it counts as funded, and nothing was paid -/
example : (smallBounties.dispatch bountyConfig (.system .root) (.unassignCurator 0)
    (smallBounties.dispatch bountyConfig (.system .root) (.proposeCurator 0 7 0) (bountyState, 1)).2).2.1.bounties 0 =
      some ⟨1, 50000000000, 0, 0, 10000000000, .funded⟩ := rfl

end NodeTemplate.Runtime
