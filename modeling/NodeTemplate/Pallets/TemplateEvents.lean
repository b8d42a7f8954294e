/-
Does the event log of the template pallet account for its storage?

An off-chain consumer that follows the chain rebuilds `Something` by replaying the `SomethingStored` events (`replay`).
`AccountsFor` is what it needs: after every prefix of a history the replayed value is the stored one, every dispatch
that changes `Something` deposits an event with the new value, and no dispatch deposits an event for a value it did not
store.

`do_something` keeps this. `cause_error` writes the incremented value and deposits nothing, so its success branch breaks
it at once: the log still says the old value.
- `accounts_for_iff`: in non-genesis blocks, a history is accounted for exactly when none of its signed `cause_error`
  calls finds a stored value below 2^32 - 1, a condition on the history alone.
- `increment_not_logged`: the shortest history that is not accounted for, one store and one increment.
- `deposited_is_stored`: the other direction never fails, an event always carries the value its dispatch stored.
- `template_log`: how far the log is behind, after every history: it holds the signed stores and nothing else, so it
  replays to the last of them, while `Something` has moved on by the increments since then, up to 2^32 - 1.
-/
import Mathlib.Tactic
import NodeTemplate.Pallets.Template

namespace NodeTemplate.Template

open NodeTemplate.Core NodeTemplate.Runtime

section Events

variable {AccountId : Type} (sys : FrameSystem (Event AccountId))

/-- what a consumer of the events believes `Something` to be -/
def replay (log : List (Event AccountId)) : Option UInt32 := log.foldl (fun _ e => some e.value) none

@[simp] theorem replay_snoc (log : List (Event AccountId)) (e : Event AccountId) :
    replay (log ++ [e]) = some e.value := by
  simp [replay, List.foldl_append]

/-- log and storage agree -/
def Accounted (s : St AccountId) : Prop := replay s.events = s.something

/-- every event deposited on the way from `s` to `t` carries the value now stored -/
def DepositsStored (s t : St AccountId) : Prop :=
  ∀ new, t.events = s.events ++ new → ∀ e ∈ new, t.something = some e.value

/-- a change of `Something` on the way from `s` to `t` comes with one event, for the new value -/
def DepositsChange (s t : St AccountId) : Prop :=
  t.something ≠ s.something → ∃ e, t.events = s.events ++ [e] ∧ t.something = some e.value

/-- the event log accounts for the storage all along the history `ops` from genesis -/
structure AccountsFor (ops : List (Dispatch AccountId)) : Prop where
  replayed : ∀ p, p <+: ops → Accounted ((pallet sys).run genesis p)
  change_deposited : ∀ p d, p ++ [d] <+: ops →
    DepositsChange ((pallet sys).run genesis p) ((pallet sys).next ((pallet sys).run genesis p) d)
  deposited_stored : ∀ p d, p ++ [d] <+: ops →
    DepositsStored ((pallet sys).run genesis p) ((pallet sys).next ((pallet sys).run genesis p) d)

/-- the branch of `cause_error` that writes: a signed call that finds a value below the maximum -/
def Increments (s : St AccountId) (d : Dispatch AccountId) : Prop :=
  d.bumps ∧ ∃ x, s.something = some x ∧ x.toNat < 2 ^ 32 - 1

theorem not_increments {s : St AccountId} {d : Dispatch AccountId} (hb : d.bumps = false) : ¬ Increments s d :=
  fun h => by simpa [hb] using h.1

/-! ## One dispatch -/

/-- the three things a dispatch outside the genesis block can do to storage and log -/
theorem step_cases (s : St AccountId) (d : Dispatch AccountId) (hn : d.block ≠ 0) :
    (¬ Increments s d ∧ (pallet sys).next s d = s) ∨
    (¬ Increments s d ∧ ∃ e, (pallet sys).next s d = ⟨some e.value, s.events ++ [e]⟩) ∨
    (Increments s d ∧ ∃ old new, s.something = some old ∧ old ≠ new ∧
      (pallet sys).next s d = { s with something := some new }) := by
  rcases d.trichotomy with ⟨hs, -, hb⟩ | ⟨n, o, who, v, rfl, hs, -, hb⟩ | ⟨n, o, who, rfl, hs, -, hb⟩
  · left
    exact ⟨not_increments hb, by rw [Machine.next, step_unsigned sys s d hs]⟩
  · right; left
    refine ⟨not_increments hb, .somethingStored v who, ?_⟩
    rw [Machine.next, step_doSomething sys s n v hs, sys.deposit_one n _ _ hn]
    rfl
  · rw [Machine.next, step_causeError sys s n hs]
    cases hv : s.something with
    | none => left; exact ⟨by simp [Increments, hv], rfl⟩
    | some old =>
      cases hc : checkedAdd old 1 with
      | none =>
        left
        have := checkedAdd_one_eq_none.1 hc
        exact ⟨by simp [Increments, hv]; omega, by simp [hc]⟩
      | some new =>
        right; right
        have hnew := checkedAdd_one_toNat hc
        have := new.toNat_lt
        refine ⟨⟨hb, old, hv, by omega⟩, old, new, rfl, ?_, by simp [hc]⟩
        rintro rfl
        omega

theorem step_accounted_iff (s : St AccountId) (d : Dispatch AccountId) (hn : d.block ≠ 0) (h : Accounted s) :
    Accounted ((pallet sys).next s d) ↔ ¬ Increments s d := by
  rcases step_cases sys s d hn with ⟨hi, hs⟩ | ⟨hi, e, hs⟩ | ⟨hi, old, new, hold, hne, hs⟩
  · rw [hs]; exact iff_of_true h hi
  · rw [hs]; exact iff_of_true (by simp [Accounted]) hi
  · rw [hs]
    refine iff_of_false (fun ha => hne ?_) (not_not.2 hi)
    -- the log is as before, so it still replays to the old value
    have : some new = some old := by rw [← hold, ← h]; exact ha.symm
    simpa using this.symm

theorem step_change_deposited (s : St AccountId) (d : Dispatch AccountId) (hn : d.block ≠ 0)
    (hi : ¬ Increments s d) : DepositsChange s ((pallet sys).next s d) := by
  rcases step_cases sys s d hn with ⟨-, hs⟩ | ⟨-, e, hs⟩ | ⟨h, -⟩
  · rw [hs]; exact fun h => absurd rfl h
  · rw [hs]; exact fun _ => ⟨e, rfl, rfl⟩
  · exact absurd h hi

/-- **No event for a value that was not stored**, whatever is dispatched -/
theorem deposited_is_stored (s : St AccountId) (d : Dispatch AccountId) (hn : d.block ≠ 0) :
    DepositsStored s ((pallet sys).next s d) := by
  intro new hnew e he
  rcases step_cases sys s d hn with ⟨-, hs⟩ | ⟨-, e', hs⟩ | ⟨-, old, x, -, -, hs⟩
  · rw [hs] at hnew
    simp [List.self_eq_append_right.1 hnew] at he
  · rw [hs] at hnew ⊢
    rw [← List.append_cancel_left hnew, List.mem_singleton] at he
    rw [he]
  · rw [hs] at hnew
    simp [List.self_eq_append_right.1 hnew] at he

/-! ## Whole histories -/

/-- the increment branch, in terms of the history that led to the state -/
theorem increments_run_iff (p : List (Dispatch AccountId)) (d : Dispatch AccountId) :
    Increments ((pallet sys).run genesis p) d ↔ d.bumps ∧ ∃ v k, LastStore p v k ∧ v + k < 2 ^ 32 - 1 := by
  refine and_congr_right fun hb => ?_
  rw [← (outcome sys p d).causeError_ok_iff hb]
  rcases causeError_result sys ((pallet sys).run genesis p) d hb with ⟨hn, hr⟩ | ⟨x, hx, hm, hr⟩ | ⟨x, hx, hm, hr⟩
  · rw [hr, hn]; simp
  · rw [hr, hx]; simp; omega
  · rw [hr, hx]; simp; omega

/-- **Exactly when the log accounts for the storage.** A history of dispatches in non-genesis blocks is accounted for
if and only if every signed `cause_error` in it comes before any signed `do_something`, or after a last one with
v + k at least 2^32 - 1: the calls that increment are the ones that go unlogged. -/
theorem accounts_for_iff (ops : List (Dispatch AccountId)) (hblk : ∀ d ∈ ops, d.block ≠ 0) :
    AccountsFor sys ops ↔
      ∀ p d, p ++ [d] <+: ops → d.bumps → ∀ v k, LastStore p v k → 2 ^ 32 - 1 ≤ v + k := by
  have hinc : (∀ p d, p ++ [d] <+: ops → d.bumps → ∀ v k, LastStore p v k → 2 ^ 32 - 1 ≤ v + k) ↔
      ∀ p d, p ++ [d] <+: ops → ¬ Increments ((pallet sys).run genesis p) d := by
    refine forall₂_congr fun p d => imp_congr_right fun _ => ?_
    rw [increments_run_iff]
    push Not
    rfl
  have hex := (pallet sys).prefix_iff (fun s d hd h => step_accounted_iff sys s d hd h) genesis ops hblk rfl
  rw [hinc]
  have hd : ∀ p d, p ++ [d] <+: ops → d.block ≠ 0 := fun p d hp => hblk d (hp.subset (by simp))
  constructor
  · exact fun h => hex.1 h.replayed
  · intro h
    exact ⟨hex.2 h, fun p d hp => step_change_deposited sys _ d (hd p d hp) (h p d hp),
      fun p d hp => deposited_is_stored sys _ d (hd p d hp)⟩

/-! ## How far the log is behind -/

/-- the event of a signed `do_something` -/
def Dispatch.event (d : Dispatch AccountId) : Option (Event AccountId) :=
  match d.call, d.origin.signer with
  | .doSomething something, some who => some (.somethingStored something who)
  | _, _ => none

theorem Dispatch.event_value (d : Dispatch AccountId) : d.event.map Event.value = d.stores := by
  unfold Dispatch.event Dispatch.stores
  cases d.call with
  | causeError => rfl
  | doSomething v => cases d.origin.signer <;> rfl

theorem step_events (s : St AccountId) (d : Dispatch AccountId) (hn : d.block ≠ 0) :
    ((pallet sys).next s d).events = s.events ++ d.event.toList := by
  rcases d.trichotomy with ⟨hs, -, -⟩ | ⟨n, o, who, v, rfl, hs, -, -⟩ | ⟨n, o, who, rfl, hs, -, -⟩
  · have hevent : d.event = none := by
      unfold Dispatch.event
      rw [hs]
      cases d.call <;> rfl
    rw [Machine.next, step_unsigned sys s d hs, hevent]
    simp
  · rw [Machine.next, step_doSomething sys s n v hs, sys.deposit_one n _ _ hn]
    simp [Dispatch.event, hs]
  · rw [Machine.next, step_causeError sys s n hs]
    simp only [Dispatch.event, Option.toList_none, List.append_nil]
    split
    · rfl
    · split <;> rfl

/-- the log holds the signed stores, in order and with their signers -/
theorem run_events (ops : List (Dispatch AccountId)) (hblk : ∀ d ∈ ops, d.block ≠ 0) :
    ((pallet sys).run genesis ops).events = ops.filterMap Dispatch.event := by
  induction ops using List.reverseRecOn with
  | nil => rfl
  | append_singleton ops d ih =>
    rw [Machine.run_snoc, step_events sys _ d (hblk d (by simp)), ih fun e he => hblk e (List.mem_append_left [d] he),
      List.filterMap_append]
    cases hd : d.event <;> simp [hd]

theorem replay_of_lastStore {ops : List (Dispatch AccountId)} {v k : ℕ} (h : LastStore ops v k) :
    (replay (ops.filterMap Dispatch.event)).map UInt32.toNat = some v := by
  obtain ⟨pre, d, post, u, rfl, hd, hpost, rfl, -⟩ := h
  obtain ⟨e, he, heu⟩ : ∃ e, d.event = some e ∧ e.value = u := by
    have hvalue := d.event_value
    rw [hd, Option.map_eq_some_iff] at hvalue
    exact hvalue
  have hquiet : post.filterMap Dispatch.event = [] := by
    rw [List.filterMap_eq_nil_iff]
    intro f hf
    have hvalue := f.event_value
    rw [hpost f hf, Option.map_eq_none_iff] at hvalue
    exact hvalue
  rw [List.filterMap_append, List.filterMap_cons, he, hquiet, replay_snoc, heu]
  rfl

/-- **How far the log is behind.** After every history in non-genesis blocks the log is the list of its signed stores.
Replayed, it gives nothing if there was none, when there is nothing stored either. Otherwise it gives the argument v of
the last one, and `Something` is ahead of it by the number k of signed `cause_error` calls since, as far as there is
room above v. -/
theorem template_log (ops : List (Dispatch AccountId)) (hblk : ∀ d ∈ ops, d.block ≠ 0) :
    ((pallet sys).run genesis ops).events = ops.filterMap Dispatch.event ∧
    ((∀ d ∈ ops, d.stores = none) →
      replay ((pallet sys).run genesis ops).events = none ∧ ((pallet sys).run genesis ops).something = none) ∧
    ∀ v k, LastStore ops v k →
      (replay ((pallet sys).run genesis ops).events).map UInt32.toNat = some v ∧
      ((pallet sys).run genesis ops).something.map UInt32.toNat = some (v + min k (2 ^ 32 - 1 - v)) := by
  have hevents := run_events sys ops hblk
  refine ⟨hevents, fun hnone => ⟨?_, (run_something_none sys).2 hnone⟩, fun v k h => ⟨?_, ?_⟩⟩
  · have hempty : ops.filterMap Dispatch.event = [] := by
      rw [List.filterMap_eq_nil_iff]
      intro d hd
      have hvalue := d.event_value
      rw [hnone d hd, Option.map_eq_none_iff] at hvalue
      exact hvalue
    rw [hevents, hempty]
    rfl
  · rw [hevents]
    exact replay_of_lastStore h
  · have hlt : v < 2 ^ 32 := by
      obtain ⟨_, _, _, u, _, _, _, rfl, _⟩ := h
      exact u.toNat_lt
    rw [run_something_of_lastStore sys h, Option.some.injEq]
    omega

end Events

/-- account 1 stores 5, then 7, and an unsigned increment is refused: accounted for -/
def storeTrace : List (Dispatch ℕ) :=
  [⟨1, .system (.signed 1), .doSomething 5⟩, ⟨1, .system .none, .causeError⟩, ⟨2, .system (.signed 1), .doSomething 7⟩]

theorem storeTrace_accounted :
    (∀ d ∈ storeTrace, d.block ≠ 0) ∧ AccountsFor (substrateSystem _) storeTrace := by
  have hblk : ∀ d ∈ storeTrace, d.block ≠ 0 := by decide
  have hquiet : ∀ d ∈ storeTrace, d.bumps = false := by decide
  refine ⟨hblk, (accounts_for_iff (substrateSystem _) storeTrace hblk).2 fun p d hp hb => ?_⟩
  have := hquiet d (hp.subset (by simp))
  rw [hb] at this
  cases this

/-- account 1 stores 42 and increments -/
def incrementTrace : List (Dispatch ℕ) :=
  [⟨1, .system (.signed 1), .doSomething 42⟩, ⟨1, .system (.signed 1), .causeError⟩]

/-- one increment, and the log is one behind -/
theorem incrementTrace_behind :
    (∀ d ∈ incrementTrace, d.block ≠ 0) ∧
    ((pallet (substrateSystem _)).run genesis incrementTrace).events = [.somethingStored 42 1] :=
  ⟨by decide, (template_log (substrateSystem _) incrementTrace (by decide)).1⟩

/-- **A silent increment.** The store and the increment both succeed in block 1; `Something` is 43, and the log replays
to 42. -/
theorem increment_not_logged :
    (∀ d ∈ incrementTrace, d.block ≠ 0) ∧
    ((pallet (substrateSystem _)).run genesis incrementTrace).something = some 43 ∧
    replay ((pallet (substrateSystem _)).run genesis incrementTrace).events = some 42 ∧
    ¬ AccountsFor (substrateSystem _) incrementTrace := by
  refine ⟨by decide, rfl, rfl, fun h => ?_⟩
  have := h.replayed incrementTrace (List.prefix_refl _)
  revert this
  show ¬ (some (42 : UInt32) = some 43)
  decide

end NodeTemplate.Template
