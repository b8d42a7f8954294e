/-
Loops over a list that can stop the whole build, and the maps they fill.

A genesis builder is a loop: for each entry it asserts something about the storage, then writes. Three facts about such
loops carry the development:
- `foldlM_checked`: where each assertion depends on the entry alone (the loop's own writes cannot change it), the loop
  succeeds exactly when every entry passes, and then it is the plain loop of the writes;
- `foldlM_inv`: what every successful step keeps, a successful loop keeps;
- `foldlM_view`: a loop on an opaque state, each step of which acts on the visible part of the state as a step of a
  second loop does, acts on the visible part as the second loop does.
`ofList` is the map that a loop of insertions leaves; with distinct keys, its entries are the pairs of the list
(`ofList_eq_some`, `ofList_column`).
-/
import Mathlib.Tactic

namespace NodeTemplate.Core

/-! ## Checked loops -/

section Checked

variable {α σ τ : Type}

/-- **Checked loop.** `P s l`: the state `s` is one the loop can be in with `l` still to come. From such a state a step
succeeds exactly when the entry passes `ok`, and writes `eff`. -/
theorem foldlM_checked {step : σ → α → Option σ} {eff : σ → α → σ} {ok : α → Prop} [DecidablePred ok]
    {P : σ → List α → Prop} (hstep : ∀ s a l, P s (a :: l) → step s a = if ok a then some (eff s a) else none)
    (hP : ∀ s a l, P s (a :: l) → ok a → P (eff s a) l) (s : σ) (l : List α) (h : P s l) :
    l.foldlM step s = if ∀ a ∈ l, ok a then some (l.foldl eff s) else none := by
  induction l generalizing s with
  | nil => simp
  | cons a l ih =>
    rw [List.foldlM_cons, hstep s a l h]
    by_cases ha : ok a
    · rw [if_pos ha, Option.bind_eq_bind, Option.bind_some, ih _ (hP s a l h ha)]
      simp [ha]
    · rw [if_neg ha, if_neg (fun hall => ha (hall a List.mem_cons_self))]
      rfl

/-- **Invariant of a loop.** What every successful step over the list keeps, a successful loop keeps. -/
theorem foldlM_inv {step : σ → α → Option σ} {P : σ → Prop} {l : List α}
    (hstep : ∀ s t, ∀ a ∈ l, step s a = some t → P s → P t) {s t : σ} (h : l.foldlM step s = some t) (hs : P s) :
    P t := by
  induction l generalizing s with
  | nil =>
    simp only [List.foldlM_nil, Option.pure_def, Option.some.injEq] at h
    exact h ▸ hs
  | cons a l ih =>
    rw [List.foldlM_cons, Option.bind_eq_bind, Option.bind_eq_some_iff] at h
    obtain ⟨u, hu, hl⟩ := h
    exact ih (fun s t b hb => hstep s t b (List.mem_cons_of_mem a hb)) hl (hstep s u a List.mem_cons_self hu hs)

/-- **Simulated loop.** -/
theorem foldlM_view {step : σ → α → Option σ} {vstep : τ → α → Option τ} {view : σ → τ} {l : List α}
    (hstep : ∀ s, ∀ a ∈ l, (step s a).map view = vstep (view s) a) (s : σ) :
    (l.foldlM step s).map view = l.foldlM vstep (view s) := by
  induction l generalizing s with
  | nil => rfl
  | cons a l ih =>
    have ha := hstep s a List.mem_cons_self
    rw [List.foldlM_cons, List.foldlM_cons, ← ha]
    cases step s a with
    | none => rfl
    | some t => exact ih (fun s' a' ha' => hstep s' a' (List.mem_cons_of_mem a ha')) t

/-- a loop over one more entry at the end -/
theorem foldlM_snoc {step : σ → α → Option σ} {l : List α} {a : α} {s t : σ} :
    (l ++ [a]).foldlM step s = some t ↔ ∃ u, l.foldlM step s = some u ∧ step u a = some t := by
  rw [List.foldlM_append, Option.bind_eq_bind, Option.bind_eq_some_iff]
  simp

end Checked

/-! ## Maps filled by a loop -/

section Maps

variable {α κ ν : Type} [DecidableEq κ]

/-- insert every pair of a list, in order -/
def insertAll (m : κ → Option ν) (l : List (κ × ν)) : κ → Option ν :=
  l.foldl (fun m e => Function.update m e.1 (some e.2)) m

/-- the map a loop of insertions makes of an empty map -/
def ofList (l : List (κ × ν)) : κ → Option ν := insertAll (fun _ => none) l

theorem insertAll_of_notMem {m : κ → Option ν} {l : List (κ × ν)} {k : κ} (h : k ∉ l.map Prod.fst) :
    insertAll m l k = m k := by
  induction l generalizing m with
  | nil => rfl
  | cons e l ih =>
    rw [List.map_cons, List.mem_cons, not_or] at h
    rw [insertAll, List.foldl_cons]
    exact (ih h.2).trans (Function.update_of_ne h.1 _ _)

theorem insertAll_of_mem {m : κ → Option ν} {l : List (κ × ν)} {k : κ} {v : ν} (hnd : (l.map Prod.fst).Nodup)
    (h : (k, v) ∈ l) : insertAll m l k = some v := by
  induction l generalizing m with
  | nil => cases h
  | cons e l ih =>
    rw [List.map_cons, List.nodup_cons] at hnd
    rw [insertAll, List.foldl_cons]
    rcases List.mem_cons.1 h with rfl | h
    · exact (insertAll_of_notMem hnd.1).trans (Function.update_self _ _ _)
    · exact ih hnd.2 h

/-- of two entries with one key the later counts -/
theorem ofList_snoc (l : List (κ × ν)) (e : κ × ν) : ofList (l ++ [e]) = Function.update (ofList l) e.1 (some e.2) := by
  simp [ofList, insertAll, List.foldl_append]

/-- every key of the list has an entry, distinct or not -/
theorem insertAll_isSome_of_mem {m : κ → Option ν} {l : List (κ × ν)} {k : κ} (h : k ∈ l.map Prod.fst) :
    (insertAll m l k).isSome := by
  induction l generalizing m with
  | nil => cases h
  | cons e l ih =>
    by_cases hk : k ∈ l.map Prod.fst
    · exact ih hk
    · have he : k = e.1 := by simpa [hk] using h
      have hlast : insertAll (Function.update m e.1 (some e.2)) l k = some e.2 := by
        rw [insertAll_of_notMem hk, he, Function.update_self]
      exact Option.isSome_iff_exists.2 ⟨e.2, hlast⟩

/-- with distinct keys the map holds exactly the pairs of the list -/
theorem ofList_eq_some {l : List (κ × ν)} (hnd : (l.map Prod.fst).Nodup) {k : κ} {v : ν} :
    ofList l k = some v ↔ (k, v) ∈ l := by
  refine ⟨fun h => ?_, insertAll_of_mem hnd⟩
  by_cases hk : k ∈ l.map Prod.fst
  · obtain ⟨⟨k', v'⟩, he, rfl⟩ := List.mem_map.1 hk
    rw [ofList, insertAll_of_mem hnd he, Option.some.injEq] at h
    rwa [← h]
  · rw [ofList, insertAll_of_notMem hk] at h
    cases h

/-- the same for a map filled from two columns of a list of records -/
theorem ofList_column {l : List α} {key : α → κ} {val : α → ν} (hnd : (l.map key).Nodup) {k : κ} {v : ν} :
    ofList (l.map fun a => (key a, val a)) k = some v ↔ ∃ a ∈ l, key a = k ∧ val a = v := by
  have hnd' : ((l.map fun a => (key a, val a)).map Prod.fst).Nodup := by simpa [Function.comp_def] using hnd
  rw [ofList_eq_some hnd', List.mem_map]
  simp only [Prod.mk.injEq]

end Maps

end NodeTemplate.Core
