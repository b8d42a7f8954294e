/-
Session keys at genesis, for any list of authorities: which lists Session's builder accepts.

Session keeps two maps that are inverse to each other, from an account to its registered keys and from a key to its owner
(`OwnerOf`, `KeysOwned`). An entry is refused, and the chain does not start, exactly if one of its keys is registered by
another account at that moment; an account that registers anew gives its old keys up. So what counts, of several entries
of one stash, is the last (`registered`, `ClashFree`).

Results: `foldlM_sessionKeyBuild_iff`, the loop accepts exactly the lists whose stashes exist and that are `ClashFree`;
`clashFree_iff_nodup`, for distinct stashes that is distinct Babe keys and distinct Grandpa keys.
-/
import Mathlib.Tactic
import NodeTemplate.Node.GenesisBuild

namespace NodeTemplate.ChainSpec

open NodeTemplate.Core NodeTemplate.Runtime NodeTemplate.Substrate

/-! ## Session: who owns a key -/

section KeyOwner

variable {A K : Type} [DecidableEq A] [DecidableEq K]

/-- a key has an owner exactly if it is the key its owner has registered -/
def OwnerOf (owner : K → Option A) (registered : A → Option K) : Prop :=
  ∀ k a, owner k = some a ↔ registered a = some k

/-- a key is refused exactly if somebody else has it registered -/
theorem setKeyOwner_isSome {owner : K → Option A} {registered : A → Option K} (h : OwnerOf owner registered) (who : A)
    (key : K) :
    (∃ o, setKeyOwner owner who (registered who) key = some o) ↔ ∀ a, a ≠ who → registered a ≠ some key := by
  have hall : (owner key).all (· = who) ↔ ∀ a, a ≠ who → registered a ≠ some key := by
    cases hk : owner key with
    | none =>
      simp only [Option.all_none, true_iff]
      intro a _ ha
      rw [(h key a).2 ha] at hk
      cases hk
    | some b =>
      simp only [Option.all_some, decide_eq_true_eq]
      constructor
      · rintro rfl a hne ha
        rw [(h key a).2 ha, Option.some.injEq] at hk
        exact hne hk
      · intro hno
        by_contra hne
        exact hno b hne ((h key b).1 hk)
  rw [← hall]
  unfold setKeyOwner
  by_cases hown : (owner key).all (· = who) = true
  · simp only [hown, if_true, iff_true]
    split_ifs
    · exact ⟨_, rfl⟩
    · exact ⟨_, rfl⟩
  · simp [hown]

/-- and if it is accepted, owners stay owners -/
theorem setKeyOwner_ownerOf {owner owner' : K → Option A} {registered : A → Option K} (h : OwnerOf owner registered)
    {who : A} {key : K} (hset : setKeyOwner owner who (registered who) key = some owner') :
    OwnerOf owner' (Function.update registered who (some key)) := by
  have hfree : ∀ a, registered a = some key → a = who := by
    intro a ha
    by_contra hne
    exact (setKeyOwner_isSome h who key).1 ⟨owner', hset⟩ a hne ha
  unfold setKeyOwner at hset
  split_ifs at hset with hown hold
  · -- registered again as it was
    cases hset
    rw [← hold, Function.update_eq_self]
    exact h
  · simp only [Option.some.injEq] at hset
    subst hset
    intro k a
    by_cases hk : k = key
    · subst hk
      rw [Function.update_self, Option.some.injEq]
      by_cases ha : a = who
      · simp [ha]
      · rw [Function.update_of_ne ha]
        exact ⟨fun e => absurd e.symm ha, fun e => absurd (hfree a e) ha⟩
    · rw [Function.update_of_ne hk]
      have hwho : a = who → ¬ Function.update registered who (some key) a = some k := by
        rintro rfl hkey
        rw [Function.update_self, Option.some.injEq] at hkey
        exact hk hkey.symm
      cases hreg : registered who with
      | none =>
        by_cases ha : a = who
        · simp only [iff_false_intro (hwho ha), iff_false]
          rw [h k a, ha, hreg]
          exact fun e => by cases e
        · rw [Function.update_of_ne ha]
          exact h k a
      | some k0 =>
        have hk0 : owner k0 = some who := (h k0 who).2 hreg
        by_cases ha : a = who
        · simp only [iff_false_intro (hwho ha), iff_false]
          by_cases hkk : k = k0
          · simp [hkk]
          · simp only [Function.update_of_ne hkk]
            rw [h k a, ha, hreg, Option.some.injEq]
            exact fun e => hkk e.symm
        · rw [Function.update_of_ne ha]
          by_cases hkk : k = k0
          · subst hkk
            simp only [Function.update_self]
            refine ⟨fun e => (by cases e), fun e => ?_⟩
            rw [(h k a).2 e, Option.some.injEq] at hk0
            exact absurd hk0 ha
          · simp only [Function.update_of_ne hkk]
            exact h k a

end KeyOwner

/-! ## Session: the loop over the authorities' keys -/

section KeyLoop

variable {A B G : Type}

/-- owners are owners for both kinds of key -/
structure KeysOwned (s : Storage A B G) : Prop where
  babe : OwnerOf s.babeOwner fun a => (s.nextKeys a).map SessionKeys.babe
  grandpa : OwnerOf s.grandpaOwner fun a => (s.nextKeys a).map SessionKeys.grandpa

/-- nobody but the stash itself has one of the authority's keys, in a table of registered keys -/
def Unclaimed (table : A → Option (SessionKeys B G)) (x : Authority A B G) : Prop :=
  ∀ a, a ≠ x.stash → ∀ k, table a = some k → k.babe ≠ x.babe ∧ k.grandpa ≠ x.grandpa

variable [DecidableEq A]

/-- the table after a list of entries: of two entries of one stash the later counts -/
def registered (auths : List (Authority A B G)) : A → Option (SessionKeys B G) :=
  ofList (auths.map fun x => (x.stash, ⟨x.babe, x.grandpa⟩))

/-- no entry brings a key that another stash has registered by then -/
def ClashFree (auths : List (Authority A B G)) : Prop := ∀ p x, p ++ [x] <+: auths → Unclaimed (registered p) x

theorem registered_snoc (auths : List (Authority A B G)) (x : Authority A B G) :
    registered (auths ++ [x]) = Function.update (registered auths) x.stash (some ⟨x.babe, x.grandpa⟩) := by
  rw [registered, List.map_append, List.map_singleton, ofList_snoc]
  rfl

theorem clashFree_snoc {auths : List (Authority A B G)} {x : Authority A B G} :
    ClashFree (auths ++ [x]) ↔ ClashFree auths ∧ Unclaimed (registered auths) x := by
  constructor
  · intro h
    exact ⟨fun p y hp => h p y (hp.trans (List.prefix_append _ _)), h auths x (List.prefix_refl _)⟩
  · rintro ⟨h, hx⟩ p y hp
    rcases List.prefix_concat_iff.1 hp with heq | hp
    · obtain ⟨rfl, rfl⟩ := (List.append_singleton_inj).1 heq
      exact hx
    · exact h p y hp

/-- **Distinct stashes.** Then what counts is that no key occurs twice. -/
theorem clashFree_iff_nodup {auths : List (Authority A B G)} (hstash : (auths.map Authority.stash).Nodup) :
    ClashFree auths ↔ (auths.map Authority.babe).Nodup ∧ (auths.map Authority.grandpa).Nodup := by
  induction auths using List.reverseRecOn with
  | nil => simp [ClashFree]
  | append_singleton auths x ih =>
    have hsnoc : ∀ {K : Type} (f : Authority A B G → K), ((auths ++ [x]).map f).Nodup ↔
        f x ∉ auths.map f ∧ (auths.map f).Nodup := by
      intro K f
      rw [List.map_append, List.map_singleton, List.nodup_append_comm, List.singleton_append, List.nodup_cons]
    rw [hsnoc] at hstash
    have hun : Unclaimed (registered auths) x ↔
        x.babe ∉ auths.map Authority.babe ∧ x.grandpa ∉ auths.map Authority.grandpa := by
      simp only [List.mem_map, not_exists, not_and]
      constructor
      · intro h
        have hne : ∀ y ∈ auths, y.stash ≠ x.stash := fun y hy e => hstash.1 (e ▸ List.mem_map_of_mem hy)
        have hreg : ∀ y ∈ auths, registered auths y.stash = some ⟨y.babe, y.grandpa⟩ :=
          fun y hy => (ofList_column hstash.2).2 ⟨y, hy, rfl, rfl⟩
        exact ⟨fun y hy => (h y.stash (hne y hy) _ (hreg y hy)).1, fun y hy => (h y.stash (hne y hy) _ (hreg y hy)).2⟩
      · rintro ⟨hb, hg⟩ a - k hk
        obtain ⟨y, hy, -, rfl⟩ := (ofList_column hstash.2).1 hk
        exact ⟨hb y hy, hg y hy⟩
    rw [clashFree_snoc, ih hstash.2, hun, hsnoc, hsnoc]
    tauto

variable [DecidableEq B] [DecidableEq G]

/-- everything one entry can do -/
theorem sessionKeyBuild_eq_some {s t : Storage A B G} {x : Authority A B G} :
    sessionKeyBuild s (keyEntry x) = some t ↔
      ∃ babeOwner, setKeyOwner s.babeOwner x.stash ((s.nextKeys x.stash).map SessionKeys.babe) x.babe = some babeOwner ∧
      ∃ grandpaOwner, setKeyOwner s.grandpaOwner x.stash ((s.nextKeys x.stash).map SessionKeys.grandpa) x.grandpa =
        some grandpaOwner ∧
      0 < (s.account x.stash).providers ∧ t = { s with
        babeOwner := babeOwner
        grandpaOwner := grandpaOwner
        nextKeys := Function.update s.nextKeys x.stash (some ⟨x.babe, x.grandpa⟩) } := by
  simp only [sessionKeyBuild, keyEntry, sessionKeys, innerSetKeys, incConsumers, Option.bind_eq_bind,
    Option.bind_eq_some_iff, Option.pure_def, Option.some.injEq]
  constructor
  · rintro ⟨u, ⟨babeOwner, hb, grandpaOwner, hg, rfl⟩, ht⟩
    obtain ⟨hp, ht⟩ := Option.ite_none_right_eq_some.1 ht
    exact ⟨babeOwner, hb, grandpaOwner, hg, hp, (Option.some.inj ht).symm⟩
  · rintro ⟨babeOwner, hb, grandpaOwner, hg, hp, rfl⟩
    exact ⟨_, ⟨babeOwner, hb, grandpaOwner, hg, rfl⟩, if_pos hp⟩

/-- an entry is accepted exactly if its stash exists and its keys are free for it -/
theorem sessionKeyBuild_iff {s : Storage A B G} (h : KeysOwned s) (x : Authority A B G) :
    (∃ t, sessionKeyBuild s (keyEntry x) = some t) ↔
      0 < (s.account x.stash).providers ∧ Unclaimed s.nextKeys x := by
  have hbabe := setKeyOwner_isSome h.babe x.stash x.babe
  have hgrandpa := setKeyOwner_isSome h.grandpa x.stash x.grandpa
  have hun : Unclaimed s.nextKeys x ↔
      (∀ a, a ≠ x.stash → (s.nextKeys a).map SessionKeys.babe ≠ some x.babe) ∧
      ∀ a, a ≠ x.stash → (s.nextKeys a).map SessionKeys.grandpa ≠ some x.grandpa := by
    unfold Unclaimed
    constructor
    · intro h
      refine ⟨fun a ha hk => ?_, fun a ha hk => ?_⟩ <;> obtain ⟨k, hk, he⟩ := Option.map_eq_some_iff.1 hk
      · exact (h a ha k hk).1 he
      · exact (h a ha k hk).2 he
    · rintro ⟨hb, hg⟩ a ha k hk
      exact ⟨fun e => hb a ha (by rw [hk, Option.map_some, e]), fun e => hg a ha (by rw [hk, Option.map_some, e])⟩
  rw [hun, ← hbabe, ← hgrandpa]
  simp only [sessionKeyBuild_eq_some]
  constructor
  · rintro ⟨t, babeOwner, hb, grandpaOwner, hg, hp, -⟩
    exact ⟨hp, ⟨babeOwner, hb⟩, grandpaOwner, hg⟩
  · rintro ⟨hp, ⟨babeOwner, hb⟩, grandpaOwner, hg⟩
    exact ⟨_, babeOwner, hb, grandpaOwner, hg, hp, rfl⟩

theorem sessionKeyBuild_owned {s t : Storage A B G} (h : KeysOwned s) {x : Authority A B G}
    (ht : sessionKeyBuild s (keyEntry x) = some t) :
    KeysOwned t ∧ t.nextKeys = Function.update s.nextKeys x.stash (some ⟨x.babe, x.grandpa⟩) := by
  obtain ⟨babeOwner, hb, grandpaOwner, hg, -, rfl⟩ := sessionKeyBuild_eq_some.1 ht
  refine ⟨⟨?_, ?_⟩, rfl⟩
  · have howner := setKeyOwner_ownerOf h.babe hb
    intro k a
    rw [howner k a]
    by_cases ha : a = x.stash
    · simp [ha]
    · simp [Function.update_of_ne ha]
  · have howner := setKeyOwner_ownerOf h.grandpa hg
    intro k a
    rw [howner k a]
    by_cases ha : a = x.stash
    · simp [ha]
    · simp [Function.update_of_ne ha]

/-- the whole loop on fresh storage -/
theorem foldlM_sessionKeyBuild_owned {s t : Storage A B G} (hn : s.nextKeys = fun _ => none) (h : KeysOwned s)
    {auths : List (Authority A B G)} (ht : (auths.map keyEntry).foldlM sessionKeyBuild s = some t) :
    KeysOwned t ∧ t.nextKeys = registered auths := by
  induction auths using List.reverseRecOn generalizing t with
  | nil =>
    cases ht
    exact ⟨h, hn⟩
  | append_singleton auths x ih =>
    rw [List.map_append, List.map_singleton, foldlM_snoc] at ht
    obtain ⟨u, hu, ht⟩ := ht
    obtain ⟨hown, hreg⟩ := ih hu
    obtain ⟨hown', hreg'⟩ := sessionKeyBuild_owned hown ht
    refine ⟨hown', ?_⟩
    rw [hreg', hreg, registered_snoc]

/-- **The key loop.** It goes through exactly if every stash exists and no key is claimed twice. -/
theorem foldlM_sessionKeyBuild_iff {s : Storage A B G} (hn : s.nextKeys = fun _ => none) (h : KeysOwned s)
    (auths : List (Authority A B G)) :
    (∃ t, (auths.map keyEntry).foldlM sessionKeyBuild s = some t) ↔
      (∀ x ∈ auths, 0 < (s.account x.stash).providers) ∧ ClashFree auths := by
  induction auths using List.reverseRecOn with
  | nil => simp [ClashFree]
  | append_singleton auths x ih =>
    have hall : (∀ y ∈ auths ++ [x], 0 < (s.account y.stash).providers) ↔
        (∀ y ∈ auths, 0 < (s.account y.stash).providers) ∧ 0 < (s.account x.stash).providers := by
      simp [or_imp, forall_and]
    rw [hall, clashFree_snoc, List.map_append, List.map_singleton]
    simp only [foldlM_snoc]
    -- the entry meets the table that the loop before it has left
    have hlast : ∀ u, (auths.map keyEntry).foldlM sessionKeyBuild s = some u →
        ((∃ t, sessionKeyBuild u (keyEntry x) = some t) ↔
          0 < (s.account x.stash).providers ∧ Unclaimed (registered auths) x) := by
      intro u hu
      obtain ⟨hown, hreg⟩ := foldlM_sessionKeyBuild_owned hn h hu
      have hacc : u.account = s.account := by rw [foldlM_sessionKeyBuild_writes hu]
      rw [sessionKeyBuild_iff hown, hreg, hacc]
    constructor
    · rintro ⟨t, u, hu, ht⟩
      obtain ⟨hprov, hfree⟩ := ih.1 ⟨u, hu⟩
      obtain ⟨hprov', hun⟩ := (hlast u hu).1 ⟨t, ht⟩
      exact ⟨⟨hprov, hprov'⟩, hfree, hun⟩
    · rintro ⟨⟨hprov, hprov'⟩, hfree, hun⟩
      obtain ⟨u, hu⟩ := ih.2 ⟨hprov, hfree⟩
      obtain ⟨t, ht⟩ := (hlast u hu).2 ⟨hprov', hun⟩
      exact ⟨t, u, hu, ht⟩

end KeyLoop

end NodeTemplate.ChainSpec
