/-
A walk over a queue with a running budget.

A `Server` looks the queued indices up in a state. An index it does not find is dropped from the queue; one it finds is
served and dropped if its cost fits what is left of the budget, and kept in the queue if not. The walk goes on past what
it cannot afford.

`queued item w q` adds up a weight over the indices of a queue, each counted once however often it is queued. It is the
cost a whole queue can have when serving an index also removes it (or when no index is queued twice): the two cases are
one premise, `Server.Serves`.

- `walk_inv`: what every serving keeps, the walk keeps;
- `walk_affordable`: a budget that covers the queue serves all of it, keeps nothing and is charged the queue's cost;
- `walk_weight`: a quantity that every serving lowers by a weight is lowered by the weight of the queue;
- `walk_observe`: what only the serving of one index changes, is changed by it once.

Where serving an index removes it and nothing else (`Server.Removes`), a walk is known in every case, whatever the
budget:
- `walk_removed`: the invariant rule, with the weight of all that was removed so far (`removed`) in the invariant;
- `walk_kept`: kept in the queue is exactly what is still there, in the old order;
- `walk_budget`: the budget is charged exactly the cost of what has gone;
- `walk_greedy`: what is left of the budget pays for nothing that was kept;
- `walk_head`: the first of the queue goes, if the budget covers it;
- `walk_turn`: any other goes exactly if the budget covers it when its turn comes;
- `walk_raised`, `walk_lowered`: a quantity that every serving raises or lowers by a weight of what it serves is raised or
  lowered by the weight of all that was removed.
-/
import Mathlib.Tactic

namespace NodeTemplate.Core

/-- how queued indices are looked up, what they cost and what serving one does -/
structure Server (σ ι β : Type) where
  item : σ → ι → Option β
  cost : β → ℕ
  serve : σ → ι → β → σ

/-- where a walk ends: the state, what is left of the budget, and the indices kept in the queue -/
structure Walk (σ ι : Type) where
  state : σ
  budget : ℕ
  kept : List ι

section Walk

variable {σ ι β : Type}

def Server.walk (S : Server σ ι β) : List ι → σ → ℕ → Walk σ ι
  | [], s, budget => ⟨s, budget, []⟩
  | i :: q, s, budget =>
    match S.item s i with
    | none => S.walk q s budget
    | some x =>
      if S.cost x ≤ budget then S.walk q (S.serve s i x) (budget - S.cost x)
      else
        let w := S.walk q s budget
        { w with kept := i :: w.kept }

/-- **Invariant of a walk.** -/
theorem Server.walk_inv (S : Server σ ι β) {P : σ → ℕ → Prop} {q : List ι}
    (hserve : ∀ s budget x, ∀ i ∈ q, P s budget → S.item s i = some x → S.cost x ≤ budget →
      P (S.serve s i x) (budget - S.cost x)) {s : σ} {budget : ℕ} (h : P s budget) :
    P (S.walk q s budget).state (S.walk q s budget).budget := by
  induction q generalizing s budget with
  | nil => exact h
  | cons i q ih =>
    have hq := fun s budget x j (hj : j ∈ q) => hserve s budget x j (List.mem_cons_of_mem i hj)
    unfold Server.walk
    cases hi : S.item s i with
    | none => exact ih hq h
    | some x =>
      by_cases hx : S.cost x ≤ budget
      · simp only [if_pos hx]
        exact ih hq (hserve s budget x i List.mem_cons_self h hi hx)
      · simp only [if_neg hx]
        exact ih hq h

/-- what is gone from one look-up to the next -/
def removed (old new : ι → Option β) (i : ι) : Option β := if (new i).isSome then none else old i

theorem removed_eq_some {old new : ι → Option β} {i : ι} {x : β} :
    removed old new i = some x ↔ old i = some x ∧ new i = none := by
  unfold removed
  cases new i <;> simp

theorem removed_self (f : ι → Option β) (i : ι) : removed f f i = none := by
  unfold removed
  cases f i <;> rfl

variable [DecidableEq ι]

/-- the weight of a queue: every index that is found counts once -/
def queued (item : ι → Option β) (w : β → ℕ) (q : List ι) : ℕ := ∑ i ∈ q.toFinset, (item i).elim 0 w

theorem queued_nil (item : ι → Option β) (w : β → ℕ) : queued item w [] = 0 := by simp [queued]

theorem queued_cons_none {item : ι → Option β} {w : β → ℕ} {i : ι} {q : List ι} (h : item i = none) :
    queued item w (i :: q) = queued item w q := by
  have hi : (item i).elim 0 w = 0 := by rw [h]; rfl
  unfold queued
  rw [List.toFinset_cons]
  exact Finset.sum_insert_of_eq_zero_if_notMem fun _ => hi

/-- serving the first index: its weight, and that of the rest of the queue with the index gone -/
theorem queued_cons_some {item item' : ι → Option β} {w : β → ℕ} {i : ι} {q : List ι} {x : β} (h : item i = some x)
    (h' : ∀ j ∈ q, item' j = if j = i then none else item j) :
    queued item w (i :: q) = w x + queued item' w q := by
  have hrest : ∀ j ∈ q.toFinset.erase i, (item' j).elim 0 w = (item j).elim 0 w := by
    intro j hj
    rw [Finset.mem_erase, List.mem_toFinset] at hj
    rw [h' j hj.2, if_neg hj.1]
  have hself : i ∈ q.toFinset → (item' i).elim 0 w = 0 := by
    intro hi
    rw [h' i (List.mem_toFinset.1 hi), if_pos rfl]
    rfl
  have herase : ∑ j ∈ q.toFinset.erase i, (item' j).elim 0 w = ∑ j ∈ q.toFinset, (item' j).elim 0 w := by
    by_cases hi : i ∈ q.toFinset
    · exact Finset.sum_erase _ (hself hi)
    · rw [Finset.erase_eq_of_notMem hi]
  unfold queued
  calc ∑ j ∈ (i :: q).toFinset, (item j).elim 0 w
      = (item i).elim 0 w + ∑ j ∈ (i :: q).toFinset.erase i, (item j).elim 0 w :=
        (Finset.add_sum_erase _ _ (by simp)).symm
    _ = w x + ∑ j ∈ q.toFinset.erase i, (item j).elim 0 w := by
        rw [h, List.toFinset_cons, Finset.erase_insert_eq_erase]
        rfl
    _ = w x + ∑ j ∈ q.toFinset, (item' j).elim 0 w := by
        rw [← Finset.sum_congr rfl hrest, herase]

theorem le_queued {item : ι → Option β} (w : β → ℕ) {i : ι} {q : List ι} (hi : i ∈ q) {x : β} (h : item i = some x) :
    w x ≤ queued item w q := by
  have hle := Finset.single_le_sum (f := fun j => (item j).elim 0 w) (fun _ _ => Nat.zero_le _)
    (List.mem_toFinset.2 hi)
  rw [h] at hle
  exact hle

/-- only the weights of what is found matter -/
theorem queued_congr {item : ι → Option β} {w w' : β → ℕ} {q : List ι}
    (h : ∀ i ∈ q, ∀ x, item i = some x → w x = w' x) : queued item w q = queued item w' q := by
  apply Finset.sum_congr rfl
  intro i hi
  cases hx : item i with
  | none => rfl
  | some x => exact h i (List.mem_toFinset.1 hi) x hx

/-- the weight of a queue, added up over any set that has the same of what is found -/
theorem queued_eq_sum {item : ι → Option β} (w : β → ℕ) {q : List ι} {I : Finset ι}
    (h : ∀ i x, item i = some x → (i ∈ q ↔ i ∈ I)) : queued item w q = ∑ i ∈ I, (item i).elim 0 w := by
  have hnone : ∀ i, ¬ (i ∈ q ↔ i ∈ I) → (item i).elim 0 w = 0 := by
    intro i hi
    cases hx : item i with
    | none => rfl
    | some x => exact absurd (h i x hx) hi
  have hq : ∑ i ∈ q.toFinset, (item i).elim 0 w = ∑ i ∈ q.toFinset ∪ I, (item i).elim 0 w := by
    apply Finset.sum_subset Finset.subset_union_left
    intro i hi hiq
    rw [List.mem_toFinset] at hiq
    have hiI : i ∈ I := by simpa [hiq] using hi
    exact hnone i fun hiff => hiq (hiff.2 hiI)
  have hI : ∑ i ∈ I, (item i).elim 0 w = ∑ i ∈ q.toFinset ∪ I, (item i).elim 0 w := by
    apply Finset.sum_subset Finset.subset_union_right
    intro i hi hiI
    have hiq : i ∈ q := by simpa [hiI] using hi
    exact hnone i fun hiff => hiI (hiff.1 hiq)
  rw [queued, hq, hI]

/-- serving an index leaves the others as they are, and the index itself does not come up again: because it is removed,
or because `V` keeps it from being queued twice -/
structure Server.Serves (S : Server σ ι β) (V : List ι → Prop) : Prop where
  tail : ∀ i q, V (i :: q) → V q
  served : ∀ s i x q, V (i :: q) → S.item s i = some x →
    ∀ j ∈ q, S.item (S.serve s i x) j = if j = i then none else S.item s j

/-- **A budget that covers the queue serves all of it.** -/
theorem Server.walk_affordable {S : Server σ ι β} {V : List ι → Prop} (hS : S.Serves V) {q : List ι} (hq : V q)
    {s : σ} {budget : ℕ} (h : queued (S.item s) S.cost q ≤ budget) :
    (S.walk q s budget).kept = [] ∧ (S.walk q s budget).budget + queued (S.item s) S.cost q = budget := by
  induction q generalizing s budget with
  | nil => exact ⟨rfl, by simp [queued_nil, Server.walk]⟩
  | cons i q ih =>
    have hqt := hS.tail i q hq
    unfold Server.walk
    cases hi : S.item s i with
    | none =>
      rw [queued_cons_none hi] at h ⊢
      exact ih hqt h
    | some x =>
      rw [queued_cons_some hi (hS.served s i x q hq hi)] at h ⊢
      have hx : S.cost x ≤ budget := le_trans (Nat.le_add_right _ _) h
      have hrest : queued (S.item (S.serve s i x)) S.cost q ≤ budget - S.cost x := by omega
      obtain ⟨hkept, hbudget⟩ := ih hqt hrest
      simp only [if_pos hx]
      exact ⟨hkept, by omega⟩

/-- **Weighing a walk.** Each serving lowers `m` by the weight of what it serves, down to 0 at most. -/
theorem Server.walk_weight {S : Server σ ι β} {V : List ι → Prop} (hS : S.Serves V) {m : σ → ℕ} {w : β → ℕ}
    (hm : ∀ s i x, S.item s i = some x → m (S.serve s i x) = m s - w x) {q : List ι} (hq : V q) {s : σ} {budget : ℕ}
    (h : queued (S.item s) S.cost q ≤ budget) :
    m (S.walk q s budget).state = m s - queued (S.item s) w q := by
  induction q generalizing s budget with
  | nil => simp [queued_nil, Server.walk]
  | cons i q ih =>
    have hqt := hS.tail i q hq
    unfold Server.walk
    cases hi : S.item s i with
    | none =>
      rw [queued_cons_none hi] at h ⊢
      exact ih hqt h
    | some x =>
      rw [queued_cons_some hi (hS.served s i x q hq hi)] at h ⊢
      have hx : S.cost x ≤ budget := le_trans (Nat.le_add_right _ _) h
      simp only [if_pos hx]
      rw [ih hqt (by omega), hm s i x hi, Nat.sub_sub]

/-- **Observing a walk.** `m` moves only when `i` is served. With no index queued twice and a budget that covers the
queue, `i` is served once. -/
theorem Server.walk_observe {γ : Type} {S : Server σ ι β} (hS : S.Serves List.Nodup) {P : σ → Prop} {m : σ → γ}
    {g : β → γ → γ} {i : ι} {q : List ι} (hP : ∀ s j y, P s → S.item s j = some y → P (S.serve s j y))
    (hother : ∀ s, ∀ j ∈ q, ∀ y, P s → j ≠ i → S.item s j = some y → m (S.serve s j y) = m s)
    (hself : ∀ s x, P s → S.item s i = some x → m (S.serve s i x) = g x (m s)) (hq : q.Nodup) {s : σ}
    {budget : ℕ} (hs : P s) (h : queued (S.item s) S.cost q ≤ budget) (hi : i ∈ q) {x : β} (hx : S.item s i = some x) :
    m (S.walk q s budget).state = g x (m s) := by
  induction q generalizing s budget with
  | nil => cases hi
  | cons j q ih =>
    have hj := (List.nodup_cons.1 hq).1
    have hqt := (List.nodup_cons.1 hq).2
    have hrest := fun s k (hk : k ∈ q) => hother s k (List.mem_cons_of_mem j hk)
    unfold Server.walk
    cases hy : S.item s j with
    | none =>
      have hij : i ∈ q := by
        rcases List.mem_cons.1 hi with rfl | hi
        · rw [hx] at hy; cases hy
        · exact hi
      rw [queued_cons_none hy] at h
      exact ih hrest hqt hs h hij hx
    | some y =>
      have hserved := hS.served s j y q hq hy
      rw [queued_cons_some hy hserved] at h
      have hcost : S.cost y ≤ budget := le_trans (Nat.le_add_right _ _) h
      have hleft : queued (S.item (S.serve s j y)) S.cost q ≤ budget - S.cost y := by omega
      simp only [if_pos hcost]
      rcases List.mem_cons.1 hi with rfl | hi
      · -- served now, and not met again
        rw [hx, Option.some.injEq] at hy
        subst hy
        have hlater : P (S.walk q (S.serve s i x) (budget - S.cost x)).state ∧
            m (S.walk q (S.serve s i x) (budget - S.cost x)).state = m (S.serve s i x) := by
          refine S.walk_inv (P := fun t _ => P t ∧ m t = m (S.serve s i x)) ?_ ⟨hP s i x hs hx, rfl⟩
          rintro t _ z k hk ⟨hPt, hm⟩ hz -
          have hki : k ≠ i := fun e => hj (e ▸ hk)
          exact ⟨hP t k z hPt hz, (hrest t k hk z hPt hki hz).trans hm⟩
        rw [hlater.2, hself s x hs hx]
      · have hij : i ≠ j := fun e => hj (e ▸ hi)
        have hx' : S.item (S.serve s j y) i = some x := by rw [hserved i hi, if_neg hij, hx]
        rw [ih hrest hqt (hP s j y hs hy) hleft hi hx', hother s j List.mem_cons_self y hs hij.symm hy]

/-! ## Walks that remove what they serve -/

/-- serving an index removes it, and no other -/
def Server.Removes (S : Server σ ι β) : Prop :=
  ∀ s i x, S.item s i = some x → ∀ j, S.item (S.serve s i x) j = if j = i then none else S.item s j

/-- nothing is put back, and nothing outside the queue is touched -/
theorem Server.walk_item {S : Server σ ι β} (hS : S.Removes) (q : List ι) (s : σ) (budget : ℕ) (j : ι) :
    S.item (S.walk q s budget).state j = S.item s j ∨ j ∈ q ∧ S.item (S.walk q s budget).state j = none := by
  refine S.walk_inv (P := fun t _ => S.item t j = S.item s j ∨ j ∈ q ∧ S.item t j = none) ?_ (Or.inl rfl)
  intro t left x i hi ht hx _
  rw [hS t i x hx j]
  by_cases hji : j = i
  · subst hji
    rw [if_pos rfl]
    exact Or.inr ⟨hi, rfl⟩
  · rw [if_neg hji]
    exact ht

theorem Server.walk_gone {S : Server σ ι β} (hS : S.Removes) (q : List ι) {s : σ} (budget : ℕ) {j : ι}
    (h : S.item s j = none) : S.item (S.walk q s budget).state j = none := by
  rcases Server.walk_item hS q s budget j with hw | hw
  · exact hw.trans h
  · exact hw.2

theorem Server.Removes.self {S : Server σ ι β} (hS : S.Removes) {s : σ} {i : ι} {x : β} (h : S.item s i = some x) :
    S.item (S.serve s i x) i = none := by
  rw [hS s i x h i, if_pos rfl]

/-- serving an index of the queue adds its weight to what is removed -/
theorem Server.Removes.queued_serve {S : Server σ ι β} (hS : S.Removes) (w : β → ℕ) {q : List ι} {s t : σ} {i : ι}
    {x : β} (hi : i ∈ q) (hs : S.item s i = some x) (ht : S.item t i = some x) :
    queued (removed (S.item s) (S.item (S.serve t i x))) w q =
      queued (removed (S.item s) (S.item t)) w q + w x := by
  have hmem : i ∈ q.toFinset := List.mem_toFinset.2 hi
  have hrest : ∀ j ∈ q.toFinset.erase i, (removed (S.item s) (S.item (S.serve t i x)) j).elim 0 w =
      (removed (S.item s) (S.item t) j).elim 0 w := by
    intro j hj
    have hsame := hS t i x ht j
    rw [if_neg (Finset.ne_of_mem_erase hj)] at hsame
    unfold removed
    rw [hsame]
  have hnow : removed (S.item s) (S.item (S.serve t i x)) i = some x := removed_eq_some.2 ⟨hs, hS.self ht⟩
  have hbefore : removed (S.item s) (S.item t) i = none := by
    unfold removed
    rw [ht]
    rfl
  unfold queued
  rw [← Finset.add_sum_erase _ _ hmem, ← Finset.add_sum_erase q.toFinset _ hmem, Finset.sum_congr rfl hrest, hnow,
    hbefore, Option.elim_some, Option.elim_none]
  omega

/-- **Invariant of what a walk removes.** It may speak about the weight of all that was removed so far. -/
theorem Server.walk_removed {S : Server σ ι β} (hS : S.Removes) {P : ((β → ℕ) → ℕ) → σ → ℕ → Prop} {q : List ι}
    (hserve : ∀ W t left x, ∀ i ∈ q, P W t left → S.item t i = some x → S.cost x ≤ left →
      P (fun w => W w + w x) (S.serve t i x) (left - S.cost x)) {s : σ} {budget : ℕ} (h : P (fun _ => 0) s budget) :
    P (fun w => queued (removed (S.item s) (S.item (S.walk q s budget).state)) w q) (S.walk q s budget).state
      (S.walk q s budget).budget := by
  have hstart : (fun w => queued (removed (S.item s) (S.item s)) w q) = fun _ => 0 := by
    funext w
    apply Finset.sum_eq_zero
    intro i _
    rw [removed_self]
    rfl
  refine (S.walk_inv (P := fun t left => (∀ j y, S.item t j = some y → S.item s j = some y) ∧
    P (fun w => queued (removed (S.item s) (S.item t)) w q) t left) ?_ ⟨fun _ _ h => h, hstart ▸ h⟩).2
  intro t left x i hi ht hx hcost
  obtain ⟨hold, hP⟩ := ht
  refine ⟨fun j y hj => ?_, ?_⟩
  · rw [hS t i x hx j] at hj
    split_ifs at hj
    exact hold j y hj
  · have hweight : (fun w => queued (removed (S.item s) (S.item (S.serve t i x))) w q) =
        fun w => queued (removed (S.item s) (S.item t)) w q + w x :=
      funext fun w => hS.queued_serve w hi (hold i x hx) hx
    rw [hweight]
    exact hserve _ t left x i hi hP hx hcost

/-- **Raised by what is removed.** Each serving raises `m` by `lo` of what it serves at least and `hi` of it at most, as long
as `I` holds, which servings keep. -/
theorem Server.walk_raised {S : Server σ ι β} (hS : S.Removes) {I : σ → Prop} {m : σ → ℕ} {lo hi : β → ℕ}
    (hI : ∀ t i x, I t → S.item t i = some x → I (S.serve t i x))
    (hm : ∀ t i x, I t → S.item t i = some x →
      m t + lo x ≤ m (S.serve t i x) ∧ m (S.serve t i x) ≤ m t + hi x)
    (q : List ι) {s : σ} (hs : I s) (budget : ℕ) :
    m s + queued (removed (S.item s) (S.item (S.walk q s budget).state)) lo q ≤ m (S.walk q s budget).state ∧
      m (S.walk q s budget).state ≤
        m s + queued (removed (S.item s) (S.item (S.walk q s budget).state)) hi q := by
  refine (Server.walk_removed hS (P := fun W t _ => I t ∧ m s + W lo ≤ m t ∧ m t ≤ m s + W hi) ?_
    ⟨hs, le_refl _, le_refl _⟩).2
  intro W t left x i _ ht hx _
  obtain ⟨hIt, hlo, hhi⟩ := ht
  obtain ⟨hlo', hhi'⟩ := hm t i x hIt hx
  show I _ ∧ m s + (W lo + lo x) ≤ _ ∧ _ ≤ m s + (W hi + hi x)
  exact ⟨hI t i x hIt hx, by omega, by omega⟩

/-- **Lowered by what is removed**, down to 0 at most. -/
theorem Server.walk_lowered {S : Server σ ι β} (hS : S.Removes) {m : σ → ℕ} {w : β → ℕ}
    (hm : ∀ t i x, S.item t i = some x → m (S.serve t i x) = m t - w x) (q : List ι) (s : σ) (budget : ℕ) :
    m (S.walk q s budget).state = m s - queued (removed (S.item s) (S.item (S.walk q s budget).state)) w q := by
  refine Server.walk_removed hS (P := fun W t _ => m t = m s - W w) ?_ rfl
  intro W t left x i _ ht hx _
  rw [hm t i x hx, ht, Nat.sub_sub]

/-- what the budget does not cover stays: the budget does not grow -/
theorem Server.walk_unaffordable {S : Server σ ι β} (hS : S.Removes) (q : List ι) {s : σ} {budget : ℕ} {i : ι} {x : β}
    (hi : S.item s i = some x) (hx : budget < S.cost x) : S.item (S.walk q s budget).state i = some x := by
  refine (S.walk_inv (P := fun t left => S.item t i = some x ∧ left ≤ budget) ?_ ⟨hi, le_refl _⟩).1
  intro t left y j _ ht hy hcost
  refine ⟨?_, le_trans (Nat.sub_le _ _) ht.2⟩
  rw [hS t j y hy i, if_neg, ht.1]
  intro hij
  subst hij
  have hyx : y = x := Option.some.inj (hy.symm.trans ht.1)
  subst hyx
  omega

/-- **What stays queued.** It is what the walk did not remove, in the old order. -/
theorem Server.walk_kept {S : Server σ ι β} (hS : S.Removes) (q : List ι) (s : σ) (budget : ℕ) :
    (S.walk q s budget).kept = q.filter fun i => (S.item (S.walk q s budget).state i).isSome := by
  induction q generalizing s budget with
  | nil => rfl
  | cons i q ih =>
    unfold Server.walk
    cases hi : S.item s i with
    | none =>
      have hgone := Server.walk_gone hS q budget hi
      simp only [List.filter_cons, hgone]
      exact ih s budget
    | some x =>
      by_cases hx : S.cost x ≤ budget
      · simp only [if_pos hx]
        have hgone := Server.walk_gone hS q (budget - S.cost x) (hS.self hi)
        simp only [List.filter_cons, hgone]
        exact ih _ _
      · simp only [if_neg hx]
        have hstays := Server.walk_unaffordable hS q hi (Nat.lt_of_not_le hx)
        simp only [List.filter_cons, hstays, Option.isSome_some, if_true]
        rw [← ih s budget]

/-- **The first of the queue goes.** -/
theorem Server.walk_head {S : Server σ ι β} (hS : S.Removes) {i : ι} {q : List ι} {s : σ} {budget : ℕ}
    (h : ∀ x, S.item s i = some x → S.cost x ≤ budget) : S.item (S.walk (i :: q) s budget).state i = none := by
  unfold Server.walk
  cases hi : S.item s i with
  | none => exact Server.walk_gone hS q budget hi
  | some x =>
    simp only [if_pos (h x hi)]
    exact Server.walk_gone hS q (budget - S.cost x) (hS.self hi)

end Walk

end NodeTemplate.Core
