/-
Bonds at genesis, for any list of authorities: whom Staking's builder bonds.

The builder drops the errors of `bond` and `validate`. An authority whose stash is bonded already, or whose controller
already has a ledger, is left out without a word. So the authorities that get a bond are chosen greedily from the front of
the list (`bondable`, by `List.pwFilter`), and nobody is left out exactly if stashes and controllers are distinct
(`bondable_length_iff`).

Result: `foldlM_stakerBuild`, the loop bonds the bondable authorities, makes them candidates, and changes nothing else.
-/
import Mathlib.Tactic
import NodeTemplate.Node.GenesisBuild

namespace NodeTemplate.ChainSpec

open NodeTemplate.Core NodeTemplate.Runtime NodeTemplate.Substrate

/-! ## Staking: the loop over the authorities' bonds -/

section BondLoop

variable {A B G : Type}

/-- two authorities that can both be bonded -/
def Apart (x y : Authority A B G) : Prop := x.stash ≠ y.stash ∧ x.controller ≠ y.controller

theorem Apart.symm {x y : Authority A B G} (h : Apart x y) : Apart y x := ⟨h.1.symm, h.2.symm⟩

variable [DecidableEq A]

instance : DecidableRel (Apart : Authority A B G → Authority A B G → Prop) :=
  fun x y => inferInstanceAs (Decidable (x.stash ≠ y.stash ∧ x.controller ≠ y.controller))

/-- the authorities whose bond goes through: an authority is left out if its stash or its controller is taken by one
bonded before -/
def bondable (auths : List (Authority A B G)) : List (Authority A B G) := (auths.reverse.pwFilter Apart).reverse

theorem bondable_snoc (auths : List (Authority A B G)) (x : Authority A B G) :
    bondable (auths ++ [x]) =
      if ∀ y ∈ bondable auths, Apart x y then bondable auths ++ [x] else bondable auths := by
  have hmem : (∀ y ∈ bondable auths, Apart x y) ↔ ∀ y ∈ auths.reverse.pwFilter Apart, Apart x y := by
    simp [bondable]
  have hrev : bondable (auths ++ [x]) = ((x :: auths.reverse).pwFilter Apart).reverse := by simp [bondable]
  rw [hrev]
  by_cases h : ∀ y ∈ bondable auths, Apart x y
  · rw [if_pos h, List.pwFilter_cons_of_pos (hmem.1 h), List.reverse_cons]
    rfl
  · rw [if_neg h, List.pwFilter_cons_of_neg fun h' => h (hmem.2 h')]
    rfl

theorem bondable_pairwise (auths : List (Authority A B G)) : (bondable auths).Pairwise Apart := by
  unfold bondable
  rw [List.pairwise_reverse]
  exact (List.pairwise_pwFilter _).imp Apart.symm

theorem bondable_nodup (auths : List (Authority A B G)) :
    ((bondable auths).map Authority.stash).Nodup ∧ ((bondable auths).map Authority.controller).Nodup :=
  ⟨List.pairwise_map.2 ((bondable_pairwise auths).imp And.left),
    List.pairwise_map.2 ((bondable_pairwise auths).imp And.right)⟩

theorem bondable_sublist (auths : List (Authority A B G)) : (bondable auths).Sublist auths := by
  have h := (List.pwFilter_sublist (R := Apart) auths.reverse).reverse
  rwa [List.reverse_reverse] at h

/-- nobody is left out exactly if stashes and controllers are distinct -/
theorem bondable_length_iff (auths : List (Authority A B G)) :
    auths.length ≤ (bondable auths).length ↔
      (auths.map Authority.stash).Nodup ∧ (auths.map Authority.controller).Nodup := by
  have hsplit : (auths.map Authority.stash).Nodup ∧ (auths.map Authority.controller).Nodup ↔ auths.Pairwise Apart := by
    simp only [List.Nodup, List.pairwise_map]
    exact List.pairwise_and_iff.symm
  rw [hsplit]
  constructor
  · intro h
    have heq : bondable auths = auths := (bondable_sublist auths).eq_of_length_le h
    exact heq ▸ bondable_pairwise auths
  · intro h
    have hrev : auths.reverse.Pairwise Apart := List.pairwise_reverse.2 (h.imp Apart.symm)
    have heq : bondable auths = auths := by
      unfold bondable
      rw [List.pwFilter_eq_self.2 hrev, List.reverse_reverse]
    rw [heq]

/-- what Staking's loop leaves: bonds for the bondable, and nothing for the others -/
def bondedBy (auths : List (Authority A B G)) (s : Storage A B G) : Storage A B G :=
  (bondable auths).foldl bondValidator s

/-- an authority left out changes nothing: `bond` fails, `validate` fails or finds the controller's stash standing -/
theorem stakerBuild_taken {s : Storage A B G} {x : Authority A B G}
    (hstand : ∀ c l, s.ledger c = some l → l.stash ∈ s.candidates)
    (htaken : (s.bonded x.stash).isSome ∨ (s.ledger x.controller).isSome) :
    stakerBuild existentialDeposit s (stakerEntry x) =
      if initialStaking ≤ (s.account x.stash).free then some s else none := by
  have hbond : dropError s (bond existentialDeposit x.stash x.controller initialStaking s) = s := by
    unfold bond
    by_cases hb : (s.bonded x.stash).isSome
    · simp [hb, dropError]
    · simp [hb, htaken.resolve_left hb, dropError]
  have hval : dropError s (validate x.controller s) = s := by
    unfold validate
    cases hl : s.ledger x.controller with
    | none => rfl
    | some l =>
      show { s with candidates := insert l.stash s.candidates } = s
      rw [Finset.insert_eq_of_mem (hstand _ l hl)]
  by_cases hfree : initialStaking ≤ (s.account x.stash).free
  · simp [stakerBuild, stakerEntry, hfree, hbond, hval]
  · simp [stakerBuild, stakerEntry, hfree]

/-- nobody is bonded yet -/
structure Unbonded (s : Storage A B G) : Prop where
  bonded : s.bonded = fun _ => none
  ledger : s.ledger = fun _ => none
  candidates : s.candidates = ∅

theorem bondedBy_eq {s : Storage A B G} (h : Unbonded s) (auths : List (Authority A B G)) :
    bondedBy auths s = { s with
      bonded := ofList ((bondable auths).map fun x => (x.stash, x.controller))
      ledger := ofList ((bondable auths).map fun x => (x.controller, ⟨x.stash, initialStaking, initialStaking⟩))
      candidates := ((bondable auths).map Authority.stash).toFinset } := by
  rw [bondedBy, foldl_bondValidator, h.bonded, h.ledger, h.candidates, Finset.empty_union]
  rfl

theorem bondedBy_bonded {s : Storage A B G} (h : Unbonded s) {auths : List (Authority A B G)} {a c : A} :
    (bondedBy auths s).bonded a = some c ↔ ∃ x ∈ bondable auths, x.stash = a ∧ x.controller = c := by
  rw [bondedBy_eq h]
  exact ofList_column (bondable_nodup auths).1

theorem bondedBy_ledger {s : Storage A B G} (h : Unbonded s) {auths : List (Authority A B G)} {c : A}
    {l : StakingLedger A} :
    (bondedBy auths s).ledger c = some l ↔
      ∃ x ∈ bondable auths, x.controller = c ∧ ⟨x.stash, initialStaking, initialStaking⟩ = l := by
  rw [bondedBy_eq h]
  exact ofList_column (bondable_nodup auths).2

/-- one more entry: bonded if it is bondable, else left out -/
theorem stakerBuild_bondedBy {s : Storage A B G} (h : Unbonded s)
    (hprov : ∀ a, 0 < (s.account a).free → 0 < (s.account a).providers) (auths : List (Authority A B G))
    (x : Authority A B G) :
    stakerBuild existentialDeposit (bondedBy auths s) (stakerEntry x) =
      if initialStaking ≤ (s.account x.stash).free then some (bondedBy (auths ++ [x]) s) else none := by
  have hacc : (bondedBy auths s).account = s.account := by rw [bondedBy_eq h]
  by_cases happ : ∀ y ∈ bondable auths, Apart x y
  · have hfresh : BondFresh (bondedBy auths s) [x] := by
      refine ⟨fun y hy => ?_, fun y hy => ?_⟩ <;> obtain rfl := List.mem_singleton.1 hy <;>
        rw [Option.eq_none_iff_forall_ne_some]
      · intro c hc
        obtain ⟨z, hz, he, -⟩ := (bondedBy_bonded h).1 hc
        exact (happ z hz).1 he.symm
      · intro l hl
        obtain ⟨z, hz, he, -⟩ := (bondedBy_ledger h).1 hl
        exact (happ z hz).2 he.symm
    have hnext : bondedBy (auths ++ [x]) s = bondValidator (bondedBy auths s) x := by
      rw [bondedBy, bondable_snoc, if_pos happ, List.foldl_append]
      rfl
    rw [stakerBuild_fresh (by rw [hacc]; exact hprov) hfresh, hacc, hnext]
  · have hnext : bondedBy (auths ++ [x]) s = bondedBy auths s := by
      rw [bondedBy, bondable_snoc, if_neg happ, bondedBy]
    have hstand : ∀ c l, (bondedBy auths s).ledger c = some l → l.stash ∈ (bondedBy auths s).candidates := by
      intro c l hl
      obtain ⟨y, hy, -, rfl⟩ := (bondedBy_ledger h).1 hl
      rw [bondedBy_eq h]
      exact mem_stashes.2 ⟨y, hy, rfl⟩
    have htaken : ((bondedBy auths s).bonded x.stash).isSome ∨ ((bondedBy auths s).ledger x.controller).isSome := by
      simp only [Apart, not_forall, not_and_or, not_not] at happ
      obtain ⟨y, hy, he | he⟩ := happ
      · exact Or.inl (Option.isSome_iff_exists.2 ⟨_, (bondedBy_bonded h).2 ⟨y, hy, he.symm, rfl⟩⟩)
      · exact Or.inr (Option.isSome_iff_exists.2 ⟨_, (bondedBy_ledger h).2 ⟨y, hy, he.symm, rfl⟩⟩)
    rw [stakerBuild_taken hstand htaken, hacc, hnext]

/-- **Staking's loop**, for any list -/
theorem foldlM_stakerBuild {s : Storage A B G} (h : Unbonded s)
    (hprov : ∀ a, 0 < (s.account a).free → 0 < (s.account a).providers) (auths : List (Authority A B G)) :
    (auths.map stakerEntry).foldlM (stakerBuild existentialDeposit) s =
      if ∀ x ∈ auths, initialStaking ≤ (s.account x.stash).free then some (bondedBy auths s) else none := by
  induction auths using List.reverseRecOn with
  | nil => simp [bondedBy, bondable]
  | append_singleton auths x ih =>
    have hall : (∀ y ∈ auths ++ [x], initialStaking ≤ (s.account y.stash).free) ↔
        (∀ y ∈ auths, initialStaking ≤ (s.account y.stash).free) ∧ initialStaking ≤ (s.account x.stash).free := by
      simp [or_imp, forall_and]
    rw [List.map_append, List.map_singleton, List.foldlM_append, ih]
    by_cases hp : ∀ y ∈ auths, initialStaking ≤ (s.account y.stash).free
    · rw [if_pos hp]
      simp only [Option.bind_eq_bind, Option.bind_some, List.foldlM_cons, List.foldlM_nil,
        stakerBuild_bondedBy h hprov]
      by_cases hx : initialStaking ≤ (s.account x.stash).free
      · rw [if_pos hx, if_pos (hall.2 ⟨hp, hx⟩)]
        rfl
      · rw [if_neg hx, if_neg (fun h' => hx (hall.1 h').2)]
        rfl
    · rw [if_neg hp, if_neg (fun h' => hp (hall.1 h').1)]
      rfl

end BondLoop

end NodeTemplate.ChainSpec
