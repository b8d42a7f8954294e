/-
The life of a proposal, and the money it is paid with.

A proposal goes through stages (`Stage`): filed, approved once or more, then paid by a spend step, or rejected. `life`
reads the stage off the log of a run and checks every step on the way: the bond that is asked for, the origin that is
needed, and what may follow what. The store shows the stage (`Shows`): the proposal is there while it is neither paid nor
rejected, and the queue has its number once for each approval. A payment takes all its entries; a rejection leaves them
to the next spend step, which drops them.

Result, `proposal_lifecycle`, for every run from an untouched treasury:
- `Recorded`: every log is legal for every number, the store shows the stage the log has reached, and the counter tells
  the numbers that were given from those that were not;
- `Payments`: what a spend step takes out of the store it pays (`Awarded`), each number once at most; over the whole run
  an account gets what the awarded proposals for it are worth, each counted once, and less only where a value was too
  little for a new account.
-/
import Mathlib.Tactic
import NodeTemplate.Core.Loop
import NodeTemplate.Runtime.TreasuryRuns

namespace NodeTemplate.Runtime

open NodeTemplate.Core NodeTemplate.Substrate

/-! ## Stages -/

/-- how far a proposal has come, and how many entries the queue has of it -/
inductive Stage (A : Type) where
  | unused
  | proposed (p : Proposal A)
  | approved (p : Proposal A) (entries : ℕ)
  | awarded (p : Proposal A)
  | rejected (p : Proposal A) (entries : ℕ)
deriving DecidableEq, Repr

section Stages

variable {A : Type}

def Stage.stored : Stage A → Option (Proposal A)
  | .proposed p | .approved p _ => some p
  | .unused | .awarded _ | .rejected _ _ => none

def Stage.entries : Stage A → ℕ
  | .approved _ k | .rejected _ k => k
  | .unused | .proposed _ | .awarded _ => 0

/-- what was paid by this stage, by a weight of the proposals -/
def Stage.award (w : Proposal A → ℕ) : Stage A → ℕ
  | .awarded p => w p
  | .unused | .proposed _ | .approved _ _ | .rejected _ _ => 0

/-- a store in which the first `made` numbers were given shows a stage of number `i` -/
structure Shows (made : ℕ) (s : TreasuryStore A) (i : ℕ) (stage : Stage A) : Prop where
  given : stage = .unused ↔ made ≤ i
  stored : s.proposals i = stage.stored
  entries : s.approvals.count i = stage.entries

/-- a number under which a proposal is stored has been given -/
theorem Shows.not_unused {made : ℕ} {s : TreasuryStore A} {i : ℕ} {stage : Stage A} (h : Shows made s i stage)
    {p : Proposal A} (hp : s.proposals i = some p) : stage.stored = some p ∧ i < made := by
  have hstored : stage.stored = some p := h.stored.symm.trans hp
  refine ⟨hstored, Nat.lt_of_not_le fun hi => ?_⟩
  rw [h.given.2 hi] at hstored
  cases hstored

/-- what is still stored was not paid, and a decision about it does not pay it -/
theorem decision_award (w : Proposal A → ℕ) {stage stage' : Stage A} {f : Proposal A → Option (Stage A)}
    (hf : ∀ p t, f p = some t → t.award w = 0) (h : stage.stored.bind f = some stage') :
    stage'.award w = stage.award w := by
  obtain ⟨p, hp, hp'⟩ := Option.bind_eq_some_iff.1 h
  rw [hf p stage' hp']
  cases stage with
  | awarded q => cases hp
  | _ => rfl

/-- how many proposals a log has -/
def proposalsMade (log : List (TreasuryEvent A)) : ℕ :=
  log.countP fun e => match e with | .proposed _ _ => true | _ => false

theorem proposalsMade_append (log es : List (TreasuryEvent A)) :
    proposalsMade (log ++ es) = proposalsMade log + proposalsMade es := List.countP_append

/-- the proposal of number `i` that an event pays, if it is a spend step and does -/
def TreasuryEvent.pays (i : ℕ) : TreasuryEvent A → Option (Proposal A)
  | .spent s t => paid s t i
  | .proposed _ _ | .approved _ _ | .rejected _ _ => none

variable [DecidableEq A]

/-- the stage of proposal `i` after an event, if the event may happen then -/
def Stage.next (i : ℕ) (stage : Stage A) : TreasuryEvent A → Option (Stage A)
  | .proposed j p =>
    if j = i then
      match stage with
      | .unused => if p.bond = (proposalConfig A).calculateBond p.value then some (.proposed p) else none
      | _ => none
    else some stage
  | .approved j origin =>
    if j = i then
      stage.stored.bind fun p => if approveOrigin origin then some (.approved p (stage.entries + 1)) else none
    else some stage
  | .rejected j origin =>
    if j = i then
      stage.stored.bind fun p => if moreThanHalfCouncil origin then some (.rejected p stage.entries) else none
    else some stage
  | .spent s t =>
    match paid s t i, stage with
    | none, .rejected p _ => some (.rejected p 0)
    | none, stage => some stage
    | some p, .approved q _ => if p = q then some (.awarded p) else none
    | some _, _ => none

/-- the life of proposal `i` as the log has it; `none` if the log has something that may not happen -/
def life (i : ℕ) (log : List (TreasuryEvent A)) : Option (Stage A) := log.foldlM (Stage.next i) .unused

theorem life_snoc {i : ℕ} {log : List (TreasuryEvent A)} {e : TreasuryEvent A} {stage stage' : Stage A}
    (h : life i log = some stage) (he : stage.next i e = some stage') : life i (log ++ [e]) = some stage' :=
  foldlM_snoc.2 ⟨stage, h, he⟩

/-- the events of another proposal do not matter -/
theorem next_of_ne {i j : ℕ} (hij : j ≠ i) (stage : Stage A) (p : Proposal A) (origin : OriginCaller A) :
    stage.next i (.proposed j p) = some stage ∧ stage.next i (.approved j origin) = some stage ∧
      stage.next i (.rejected j origin) = some stage := by
  simp [Stage.next, hij]

/-- only a payment awards, and what is awarded is not paid again -/
theorem next_award (w : Proposal A → ℕ) {i : ℕ} {stage stage' : Stage A} {e : TreasuryEvent A}
    (h : stage.next i e = some stage') : stage'.award w = stage.award w + (e.pays i).elim 0 w := by
  cases e with
  | proposed j p =>
    by_cases hj : j = i
    · simp only [Stage.next, if_pos hj] at h
      cases stage with
      | unused =>
        simp only at h
        split_ifs at h
        cases h
        rfl
      | _ => cases h
    · simp only [Stage.next, if_neg hj, Option.some.injEq] at h
      subst h
      rfl
  | approved j origin =>
    by_cases hj : j = i
    · simp only [Stage.next, if_pos hj] at h
      refine decision_award w (fun p t happroved => ?_) h
      split_ifs at happroved
      cases happroved
      rfl
    · simp only [Stage.next, if_neg hj, Option.some.injEq] at h
      subst h
      rfl
  | rejected j origin =>
    by_cases hj : j = i
    · simp only [Stage.next, if_pos hj] at h
      refine decision_award w (fun p t hrejected => ?_) h
      split_ifs at hrejected
      cases hrejected
      rfl
    · simp only [Stage.next, if_neg hj, Option.some.injEq] at h
      subst h
      rfl
  | spent s t =>
    simp only [Stage.next, TreasuryEvent.pays] at h ⊢
    cases hp : paid s t i with
    | none => cases stage <;> simp only [hp, Option.some.injEq] at h <;> subst h <;> rfl
    | some p =>
      cases stage with
      | approved q k =>
        simp only [hp] at h
        split_ifs at h
        cases h
        simp [Stage.award]
      | _ => simp [hp] at h

end Stages

/-! ## The log and the store agree -/

section Recorded

variable {A : Type} [DecidableEq A]

/-- the log is legal, and the store shows the stage of every number; the counter is a `u32` -/
structure Recorded (log : List (TreasuryEvent A)) (s : TreasuryState A) : Prop where
  count : s.proposalCount = proposalsMade log % indexBound
  stage : ∀ i, ∃ stage, life i log = some stage ∧ Shows (proposalsMade log) s.items i stage

/-- what the queue has of a number after a spend step: all it had, if the proposal is still there, else nothing -/
theorem spendFunds_count (accounts : TreasuryAccounts A) (s : TreasuryStore A) (i : ℕ) :
    (spendFunds treasuryConfig accounts s).approvals.count i =
      if ((spendFunds treasuryConfig accounts s).proposals i).isSome then s.approvals.count i else 0 := by
  rw [(spendFunds_proposals accounts s).2]
  split_ifs with h
  · exact List.count_filter h
  · apply List.count_eq_zero.2
    rw [List.mem_filter]
    exact fun hi => h hi.2

variable {accounts : TreasuryAccounts A} {log : List (TreasuryEvent A)} {s : TreasuryState A}

theorem Recorded.file (h : Recorded log s) {p : Proposal A} (hp : p.bond = (proposalConfig A).calculateBond p.value)
    (hmade : proposalsMade log < indexBound) : Recorded (log ++ [.proposed s.proposalCount p]) (s.file p) := by
  have hcount : s.proposalCount = proposalsMade log := h.count.trans (Nat.mod_eq_of_lt hmade)
  have hmade' : proposalsMade (log ++ [.proposed s.proposalCount p]) = proposalsMade log + 1 :=
    proposalsMade_append _ _
  refine ⟨?_, fun i => ?_⟩
  · rw [hmade', ← hcount]
    rfl
  · obtain ⟨stage, hlife, hshows⟩ := h.stage i
    rw [hmade']
    by_cases hi : s.proposalCount = i
    · -- the next number: nothing has happened under it
      have hstage : stage = .unused := hshows.given.2 (by omega)
      subst hstage
      refine ⟨.proposed p, life_snoc hlife (by simp [Stage.next, hi, hp]), ⟨?_, ?_, hshows.entries⟩⟩
      · exact iff_of_false (fun h => by cases h) (by omega)
      · simp [TreasuryState.file, hi, Stage.stored]
    · refine ⟨stage, life_snoc hlife (next_of_ne hi stage p (.system .root)).1, ⟨?_, ?_, hshows.entries⟩⟩
      · rw [hshows.given]
        omega
      · exact (Function.update_of_ne (Ne.symm hi) _ _).trans hshows.stored

theorem Recorded.strike (h : Recorded log s) {held : A → Bool} {origin : OriginCaller A} {i : ℕ} {p : Proposal A}
    (horigin : moreThanHalfCouncil origin = true) (hp : s.items.proposals i = some p) :
    Recorded (log ++ [.rejected i origin]) (s.strike (proposalConfig A) accounts held i p) := by
  have hmade' : proposalsMade (log ++ [.rejected i origin]) = proposalsMade log := proposalsMade_append _ _
  refine ⟨by rw [hmade']; exact h.count, fun j => ?_⟩
  obtain ⟨stage, hlife, hshows⟩ := h.stage j
  rw [hmade']
  by_cases hj : i = j
  · subst hj
    obtain ⟨hstored, hgiven⟩ := hshows.not_unused hp
    refine ⟨.rejected p stage.entries, life_snoc hlife (by simp [Stage.next, hstored, horigin]), ⟨?_, ?_, ?_⟩⟩
    · exact iff_of_false (fun h => by cases h) (Nat.not_le.2 hgiven)
    · exact Function.update_self _ _ _
    · exact hshows.entries
  · refine ⟨stage, life_snoc hlife (next_of_ne hj stage p origin).2.2, ⟨hshows.given, ?_, hshows.entries⟩⟩
    exact (Function.update_of_ne (Ne.symm hj) _ _).trans hshows.stored

theorem Recorded.enqueue (h : Recorded log s) {origin : OriginCaller A} {i : ℕ} {p : Proposal A}
    (horigin : approveOrigin origin = true) (hp : s.items.proposals i = some p) :
    Recorded (log ++ [.approved i origin]) (s.enqueue i) := by
  have hmade' : proposalsMade (log ++ [.approved i origin]) = proposalsMade log := proposalsMade_append _ _
  refine ⟨by rw [hmade']; exact h.count, fun j => ?_⟩
  obtain ⟨stage, hlife, hshows⟩ := h.stage j
  have hentries : (s.enqueue i).items.approvals.count j = stage.entries + if i = j then 1 else 0 := by
    rw [← hshows.entries]
    simp [TreasuryState.enqueue, List.count_append, List.count_singleton]
  rw [hmade']
  by_cases hj : i = j
  · subst hj
    obtain ⟨hstored, hgiven⟩ := hshows.not_unused hp
    rw [if_pos rfl] at hentries
    refine ⟨.approved p (stage.entries + 1), life_snoc hlife (by simp [Stage.next, hstored, horigin]), ?_, hp, hentries⟩
    exact iff_of_false (fun h => by cases h) (Nat.not_le.2 hgiven)
  · rw [if_neg hj] at hentries
    exact ⟨stage, life_snoc hlife (next_of_ne hj stage p origin).2.1, hshows.given, hshows.stored, hentries⟩

theorem Recorded.spend (h : Recorded log s) :
    Recorded (log ++ [.spent s.items (spendStep accounts s).items]) (spendStep accounts s) := by
  have hmade' : proposalsMade (log ++ [.spent s.items (spendStep accounts s).items]) = proposalsMade log :=
    proposalsMade_append _ _
  refine ⟨by rw [hmade']; exact h.count, fun i => ?_⟩
  obtain ⟨stage, hlife, hshows⟩ := h.stage i
  have hentries : (spendStep accounts s).items.approvals.count i =
      if ((spendStep accounts s).items.proposals i).isSome then stage.entries else 0 := by
    rw [← hshows.entries]
    exact spendFunds_count accounts s.items i
  rw [hmade']
  cases hpaid : paid s.items (spendStep accounts s).items i with
  | some p =>
    -- it was queued, so it was approved
    have hawarded := spendFunds_awarded hpaid
    have hgone : (spendStep accounts s).items.proposals i = none := hawarded.gone
    obtain ⟨hstored, hgiven⟩ := hshows.not_unused hawarded.stored
    have hqueued : 0 < stage.entries := by
      rw [← hshows.entries]
      exact List.count_pos_iff.2 hawarded.queued
    obtain ⟨k, rfl⟩ : ∃ k, stage = .approved p k := by
      cases stage <;> simp_all [Stage.stored, Stage.entries]
    refine ⟨.awarded p, life_snoc hlife (by simp [Stage.next, hpaid]), ?_, hgone, ?_⟩
    · exact iff_of_false (fun h => by cases h) (Nat.not_le.2 hgiven)
    · rw [hentries, hgone]
      rfl
  | none =>
    have hsame : (spendStep accounts s).items.proposals i = stage.stored := by
      rw [← hshows.stored]
      rcases (spendFunds_proposals accounts s.items).1 i with hsame | hserved
      · exact hsame
      · cases hp : s.items.proposals i with
        | none => exact hserved.2
        | some p => cases hpaid.symm.trans (paid_eq_some.2 ⟨hp, hserved.2⟩)
    rw [hsame] at hentries
    cases stage with
    | rejected p k =>
      have hgiven : ¬ proposalsMade log ≤ i := fun hi => by cases hshows.given.2 hi
      exact ⟨.rejected p 0, life_snoc hlife (by simp [Stage.next, hpaid]),
        iff_of_false (fun h => by cases h) hgiven, hsame, hentries⟩
    | _ => exact ⟨_, life_snoc hlife (by simp [Stage.next, hpaid]), hshows.given, hsame, hentries⟩

theorem Recorded.leaves (h : Recorded log s) {t : TreasuryState A} (ht : Leaves s t) : Recorded log t := by
  refine ⟨ht.proposalCount.trans h.count, fun i => ?_⟩
  obtain ⟨stage, hlife, hshows⟩ := h.stage i
  refine ⟨stage, hlife, hshows.given, ?_, ?_⟩
  · rw [ht.proposals]
    exact hshows.stored
  · rw [ht.approvals]
    exact hshows.entries

/-- every step keeps log and store together, as long as there are numbers left -/
theorem Recorded.step (h : Recorded log s) {t : TreasuryState A} {es : List (TreasuryEvent A)}
    (hstep : TreasuryStep accounts Leaves s es t) (hmade : proposalsMade (log ++ es) ≤ indexBound) :
    Recorded (log ++ es) t := by
  cases hstep with
  | file hbond _ =>
    apply h.file hbond
    rw [proposalsMade_append] at hmade
    change _ + 1 ≤ indexBound at hmade
    omega
  | strike horigin hp => exact h.strike horigin hp
  | enqueue horigin hp => exact h.enqueue horigin hp
  | spend => exact h.spend
  | none =>
    rw [List.append_nil]
    exact h
  | elsewhere ht =>
    rw [List.append_nil]
    exact h.leaves ht

end Recorded

/-! ## What is paid over a run -/

section Payments

variable {A : Type}

/-- what an event of a log brings to `a` from the treasury -/
def TreasuryEvent.income (a : A) : TreasuryEvent A → ℕ
  | .spent s t => (t.account a).total - (s.account a).total
  | .proposed _ _ | .approved _ _ | .rejected _ _ => 0

def income (a : A) (log : List (TreasuryEvent A)) : ℕ := (log.map (TreasuryEvent.income a)).sum

theorem income_snoc (a : A) (log : List (TreasuryEvent A)) (e : TreasuryEvent A) :
    income a (log ++ [e]) = income a log + e.income a := by
  simp [income]

/-- no payment to `a` was too little for a new account -/
def CreditedInFull (a : A) (log : List (TreasuryEvent A)) : Prop :=
  ∀ s t, .spent s t ∈ log → ∀ i p, paid s t i = some p → p.beneficiary = a →
    0 < (s.account a).total ∨ existentialDeposit ≤ p.value

variable [DecidableEq A]

/-- what the awarded proposals of a log are worth to `a`, each counted once -/
def awards (a : A) (log : List (TreasuryEvent A)) : ℕ :=
  ∑ i ∈ Finset.range (proposalsMade log), (life i log).elim 0 (Stage.award (Proposal.payingTo a Proposal.value))

/-- the spend steps of a log have paid what they took out of the store -/
structure Payments (accounts : TreasuryAccounts A) (log : List (TreasuryEvent A)) : Prop where
  awarded : ∀ s t, .spent s t ∈ log → ∀ i p, paid s t i = some p → Awarded accounts s t i p
  most : ∀ a, a ≠ accounts.treasury → income a log ≤ awards a log
  full : ∀ a, a ≠ accounts.treasury → CreditedInFull a log → income a log = awards a log

variable {accounts : TreasuryAccounts A} {log : List (TreasuryEvent A)} {s : TreasuryState A}

/-- numbers that were not given yet add nothing -/
theorem Recorded.awards_eq (h : Recorded log s) (a : A) {n : ℕ} (hn : proposalsMade log ≤ n) :
    awards a log =
      ∑ i ∈ Finset.range n, (life i log).elim 0 (Stage.award (Proposal.payingTo a Proposal.value)) := by
  apply Finset.sum_subset (Finset.range_mono hn)
  intro i _ hi
  obtain ⟨stage, hlife, hshows⟩ := h.stage i
  rw [Finset.mem_range, not_lt] at hi
  rw [hlife, hshows.given.2 hi]
  rfl

/-- an event adds what it pays -/
theorem Recorded.awards_snoc (h : Recorded log s) {t : TreasuryState A} {e : TreasuryEvent A}
    (h' : Recorded (log ++ [e]) t) (a : A) :
    awards a (log ++ [e]) = awards a log +
      ∑ i ∈ Finset.range (proposalsMade (log ++ [e])), (e.pays i).elim 0 (Proposal.payingTo a Proposal.value) := by
  have hmade : proposalsMade log ≤ proposalsMade (log ++ [e]) := by
    rw [proposalsMade_append]
    exact Nat.le_add_right _ _
  have hnext : ∀ i, (life i (log ++ [e])).elim 0 (Stage.award (Proposal.payingTo a Proposal.value)) =
      (life i log).elim 0 (Stage.award (Proposal.payingTo a Proposal.value)) +
        (e.pays i).elim 0 (Proposal.payingTo a Proposal.value) := by
    intro i
    obtain ⟨stage', hlife', _⟩ := h'.stage i
    obtain ⟨stage, hlife, he⟩ := foldlM_snoc.1 hlife'
    change life i log = some stage at hlife
    rw [hlife', hlife]
    exact next_award _ he
  calc awards a (log ++ [e])
      = ∑ i ∈ Finset.range (proposalsMade (log ++ [e])),
          ((life i log).elim 0 (Stage.award (Proposal.payingTo a Proposal.value)) +
            (e.pays i).elim 0 (Proposal.payingTo a Proposal.value)) := Finset.sum_congr rfl fun i _ => hnext i
    _ = _ := by rw [Finset.sum_add_distrib, ← h.awards_eq a hmade]

/-- an event that is no spend step pays nothing -/
theorem Payments.other (hlog : Payments accounts log) (h : Recorded log s) {t : TreasuryState A} {e : TreasuryEvent A}
    (h' : Recorded (log ++ [e]) t) (he : ∀ s t, e ≠ .spent s t) : Payments accounts (log ++ [e]) := by
  have hincome : ∀ a, e.income a = 0 := by
    intro a
    cases e with
    | spent s t => exact absurd rfl (he s t)
    | _ => rfl
  have hawards : ∀ a, awards a (log ++ [e]) = awards a log := by
    intro a
    rw [h.awards_snoc h' a, Finset.sum_eq_zero, Nat.add_zero]
    intro i _
    cases e with
    | spent s t => exact absurd rfl (he s t)
    | _ => rfl
  refine ⟨fun u v huv => ?_, fun a ha => ?_, fun a ha hfull => ?_⟩
  · rcases List.mem_append.1 huv with huv | huv
    · exact hlog.awarded u v huv
    · exact absurd (List.mem_singleton.1 huv).symm (he u v)
  · rw [income_snoc, hincome, hawards]
    exact hlog.most a ha
  · rw [income_snoc, hincome, hawards]
    exact hlog.full a ha fun u v huv => hfull u v (List.mem_append_left _ huv)

/-- a spend step pays what it takes out of the store -/
theorem Payments.spend (hlog : Payments accounts log) (h : Recorded log s) :
    Payments accounts (log ++ [.spent s.items (spendStep accounts s).items]) := by
  have hpays : PaysOut accounts s.items (spendStep accounts s).items := spendFunds_paysOut accounts s.items
  have hawarded : ∀ i p, paid s.items (spendStep accounts s).items i = some p →
      Awarded accounts s.items (spendStep accounts s).items i p := fun i p hp => spendFunds_awarded hp
  have hmade : proposalsMade (log ++ [.spent s.items (spendStep accounts s).items]) = proposalsMade log :=
    proposalsMade_append _ _
  have hawards : ∀ a, awards a (log ++ [.spent s.items (spendStep accounts s).items]) = awards a log +
      paidTotal s.items (spendStep accounts s).items (Proposal.payingTo a Proposal.value) := by
    intro a
    rw [h.awards_snoc h.spend a, hmade, paidTotal]
    congr 1
    refine (queued_eq_sum _ fun i p hp => iff_of_true (hawarded i p hp).queued ?_).symm
    -- what is paid was filed
    obtain ⟨stage, _, hshows⟩ := h.stage i
    exact Finset.mem_range.2 (hshows.not_unused (hawarded i p hp).stored).2
  refine ⟨fun u v huv => ?_, fun a ha => ?_, fun a ha hfull => ?_⟩
  · rcases List.mem_append.1 huv with huv | huv
    · exact hlog.awarded u v huv
    · cases List.mem_singleton.1 huv
      exact hawarded
  · have hbefore := hlog.most a ha
    have hmost := hpays.most a ha
    rw [income_snoc, hawards, TreasuryEvent.income]
    omega
  · have hbefore := hlog.full a ha fun u v huv => hfull u v (List.mem_append_left _ huv)
    have hcredited := hpays.credited ha (hfull _ _ (List.mem_append_right log (List.mem_singleton_self _)))
    rw [income_snoc, hawards, TreasuryEvent.income, hcredited, hbefore]
    omega

theorem Payments.step (hlog : Payments accounts log) (h : Recorded log s) {t : TreasuryState A}
    {es : List (TreasuryEvent A)} (hstep : TreasuryStep accounts Leaves s es t) (h' : Recorded (log ++ es) t) :
    Payments accounts (log ++ es) := by
  cases hstep with
  | spend => exact hlog.spend h
  | none =>
    rw [List.append_nil]
    exact hlog
  | elsewhere _ =>
    rw [List.append_nil]
    exact hlog
  | file _ _ => exact hlog.other h h' fun _ _ he => by cases he
  | strike _ _ => exact hlog.other h h' fun _ _ he => by cases he
  | enqueue _ _ => exact hlog.other h h' fun _ _ he => by cases he

end Payments

end NodeTemplate.Runtime
