/-
The template pallet (pallets/template/src/lib.rs) and the meaning of every history of its dispatches.

MODEL. `doSomething` and `causeError` are the two dispatchables, statement by statement, in a monad that keeps the
state on an error: whatever a dispatchable wrote before it failed stays written, so atomicity is proved of the code
and is not a rollback by the framework. The state is the one storage item (`Something`, absent at genesis) and the log
of the deposited events. `frame_system` is a parameter (`FrameSystem`): only the number of records that
`deposit_event` appends outside the genesis block is assumed of it, and only where events are counted.

ABSTRACT MODEL. `track` remembers, of a whole history, only the argument `v` of the last signed `do_something` and the
number `k` of signed `cause_error` calls since. `step_tracks` and `Machine.run_sim` relate the pallet to it:
`Something` is min(v + k, 2^32 - 1). `track_eq_none` and `track_eq_some` say what `track` computes without recursion.

Results:
- `template_run_semantics`: the value of `Something`, the result of the next dispatch and the atomicity of every
  failing dispatch, after every history from genesis.
-/
import Mathlib.Tactic
import NodeTemplate.Core.Arith
import NodeTemplate.Core.Machine
import NodeTemplate.Runtime.Origin

namespace NodeTemplate.Template

open NodeTemplate.Core NodeTemplate.Runtime

/-! ## Model -/

/-- `Event::SomethingStored(something, who)` -/
inductive Event (AccountId : Type) where
  | somethingStored (something : UInt32) (who : AccountId)
deriving DecidableEq, Repr

/-- the value an event carries -/
def Event.value {AccountId : Type} : Event AccountId → UInt32
  | .somethingStored something _ => something

inductive Error where
  | noneValue
  | storageOverflow
deriving DecidableEq, Repr

/-- the pallet's storage and the events deposited so far -/
structure St (AccountId : Type) where
  something : Option UInt32
  events : List (Event AccountId)
deriving DecidableEq, Repr

/-- genesis storage: `Something` absent, nothing deposited -/
def genesis {AccountId : Type} : St AccountId := ⟨none, []⟩

/-- `frame_system`'s event log: what `deposit_event` makes of the log in a block with a given number -/
structure FrameSystem (Ev : Type) where
  depositEvent : ℕ → Ev → List Ev → List Ev
  /-- outside the genesis block exactly one record is appended -/
  deposit_one : ∀ n e log, n ≠ 0 → depositEvent n e log = log ++ [e]

/-- Substrate's own: events are not populated on genesis -/
def substrateSystem (Ev : Type) : FrameSystem Ev where
  depositEvent n e log := if n = 0 then log else log ++ [e]
  deposit_one _ _ _ hn := if_neg hn

section Pallet

variable {AccountId : Type} (sys : FrameSystem (Event AccountId))

/-- a dispatchable: it can fail, and keeps what it wrote when it does -/
abbrev DispatchM (AccountId : Type) := ExceptT (DispatchError Error) (StateM (St AccountId))

/-- `<Something<T>>::put` -/
def putSomething (something : UInt32) : DispatchM AccountId Unit :=
  modify fun s => { s with something := some something }

/-- `Self::deposit_event`, in block `block` -/
def depositEvent (block : ℕ) (e : Event AccountId) : DispatchM AccountId Unit :=
  modify fun s => { s with events := sys.depositEvent block e s.events }

def doSomething (block : ℕ) (origin : OriginCaller AccountId) (something : UInt32) : DispatchM AccountId Unit := do
  let who ← ensureSigned (E := Error) origin
  putSomething something
  depositEvent sys block (.somethingStored something who)

def causeError (origin : OriginCaller AccountId) : DispatchM AccountId Unit := do
  let _who ← ensureSigned (E := Error) origin
  match (← get).something with
  | none => throw (.module .noneValue)
  | some old =>
    match checkedAdd old 1 with
    | none => throw (.module .storageOverflow)
    | some new => putSomething new

inductive Call where
  | doSomething (something : UInt32)
  | causeError
deriving DecidableEq, Repr

/-- one dispatch: a call, its origin, and the number of the block it is in -/
structure Dispatch (AccountId : Type) where
  block : ℕ
  origin : OriginCaller AccountId
  call : Call
deriving DecidableEq, Repr

def Dispatch.exec (d : Dispatch AccountId) : DispatchM AccountId Unit :=
  match d.call with
  | .doSomething something => doSomething sys d.block d.origin something
  | .causeError => causeError d.origin

/-- the pallet as a machine: results, and states with no rollback on an error -/
def pallet : Machine (Dispatch AccountId) (St AccountId) (Except (DispatchError Error) Unit) where
  step s d := ((d.exec sys).run).run s

/-! ## What one dispatch does -/

theorem step_unsigned (s : St AccountId) (d : Dispatch AccountId) (h : d.origin.signer = none) :
    (pallet sys).step s d = (.error .badOrigin, s) := by
  obtain ⟨n, o, c⟩ := d
  cases c <;> simp_all [pallet, Dispatch.exec, doSomething, causeError, ensureSigned] <;> rfl

theorem step_doSomething (s : St AccountId) (n : ℕ) {o : OriginCaller AccountId} {who : AccountId} (v : UInt32)
    (h : o.signer = some who) :
    (pallet sys).step s ⟨n, o, .doSomething v⟩ =
      (.ok (), ⟨some v, sys.depositEvent n (.somethingStored v who) s.events⟩) := by
  simp only [pallet, Dispatch.exec, doSomething, ensureSigned, h]
  rfl

theorem step_causeError (s : St AccountId) (n : ℕ) {o : OriginCaller AccountId} {who : AccountId}
    (h : o.signer = some who) :
    (pallet sys).step s ⟨n, o, .causeError⟩ =
      match s.something with
      | none => (.error (.module .noneValue), s)
      | some old =>
        match checkedAdd old 1 with
        | none => (.error (.module .storageOverflow), s)
        | some new => (.ok (), { s with something := some new }) := by
  obtain ⟨something, events⟩ := s
  simp only [pallet, Dispatch.exec, causeError, ensureSigned, h]
  cases something with
  | none => rfl
  | some old =>
    -- signer and stored value are known: what is left of the body is the inner match
    dsimp only
    change StateT.run (ExceptT.run (match checkedAdd old 1 with
      | none => throw (.module .storageOverflow)
      | some new => putSomething new)) _ = _
    cases checkedAdd old 1 <;> rfl

/-! ## The abstract history -/

/-- the argument of a signed `do_something` -/
def Dispatch.stores (d : Dispatch AccountId) : Option UInt32 :=
  match d.call, d.origin.signer with
  | .doSomething something, some _ => some something
  | _, _ => none

/-- is this a signed `cause_error`? -/
def Dispatch.bumps (d : Dispatch AccountId) : Bool := d.call = .causeError ∧ d.origin.signer.isSome

/-- every dispatch is unsigned, a signed `do_something`, or a signed `cause_error` -/
theorem Dispatch.trichotomy (d : Dispatch AccountId) :
    (d.origin.signer = none ∧ d.stores = none ∧ d.bumps = false) ∨
    (∃ n o who v, d = ⟨n, o, .doSomething v⟩ ∧ o.signer = some who ∧ d.stores = some v ∧ d.bumps = false) ∨
    (∃ n o who, d = ⟨n, o, .causeError⟩ ∧ o.signer = some who ∧ d.stores = none ∧ d.bumps = true) := by
  obtain ⟨n, o, c⟩ := d
  cases hs : o.signer with
  | none => left; cases c <;> simp [stores, bumps, hs]
  | some who =>
    right
    cases c with
    | doSomething v => left; exact ⟨n, o, who, v, rfl, hs, by simp [stores, hs], by simp [bumps]⟩
    | causeError => right; exact ⟨n, o, who, rfl, hs, by simp [stores], by simp [bumps, hs]⟩

/-- the last signed `do_something` of a history stored `v`, and `k` signed `cause_error` calls came after it -/
def LastStore (ops : List (Dispatch AccountId)) (v k : ℕ) : Prop :=
  ∃ pre d post u, ops = pre ++ d :: post ∧ d.stores = some u ∧ (∀ e ∈ post, e.stores = none) ∧
    v = u.toNat ∧ k = post.countP Dispatch.bumps

/-- what the history remembers: argument of the last store, increments asked for since -/
def track (a : Option (ℕ × ℕ)) (d : Dispatch AccountId) : Option (ℕ × ℕ) :=
  match d.stores with
  | some u => some (u.toNat, 0)
  | none => if d.bumps then a.map fun p => (p.1, p.2 + 1) else a

theorem track_quiet (post : List (Dispatch AccountId)) (h : ∀ e ∈ post, e.stores = none) (a : Option (ℕ × ℕ)) :
    post.foldl track a = a.map fun p => (p.1, p.2 + post.countP Dispatch.bumps) := by
  induction post generalizing a with
  | nil => simp
  | cons e post ih =>
    have he : e.stores = none := h e List.mem_cons_self
    rw [List.foldl_cons, ih (fun e' he' => h e' (List.mem_cons_of_mem e he'))]
    simp only [track, he, List.countP_cons]
    cases a with
    | none => simp
    | some p => cases e.bumps <;> simp [Nat.add_assoc, Nat.add_comm]

theorem track_eq_none {ops : List (Dispatch AccountId)} :
    ops.foldl track none = none ↔ ∀ d ∈ ops, d.stores = none := by
  refine ⟨?_, fun h => by rw [track_quiet ops h]; rfl⟩
  induction ops using List.reverseRecOn with
  | nil => simp
  | append_singleton l d ih =>
    intro h e he
    rw [List.foldl_append, List.foldl_cons, List.foldl_nil] at h
    cases hd : d.stores with
    | some u => simp [track, hd] at h
    | none =>
      have hl : l.foldl track none = none := by
        simp only [track, hd] at h
        split_ifs at h
        · simpa using h
        · exact h
      rcases List.mem_append.1 he with he | he
      · exact ih hl e he
      · rw [List.mem_singleton.1 he]; exact hd

theorem track_eq_some {ops : List (Dispatch AccountId)} {v k : ℕ} :
    ops.foldl track none = some (v, k) ↔ LastStore ops v k := by
  constructor
  · induction ops using List.reverseRecOn generalizing k with
    | nil => simp
    | append_singleton l d ih =>
      intro h
      rw [List.foldl_append, List.foldl_cons, List.foldl_nil] at h
      cases hd : d.stores with
      | some u =>
        simp only [track, hd, Option.some.injEq, Prod.mk.injEq] at h
        exact ⟨l, d, [], u, rfl, hd, by simp, h.1.symm, by simp [h.2.symm]⟩
      | none =>
        simp only [track, hd] at h
        -- the last store is in `l`, and `d` only adds to what comes after it
        have key : ∀ j, l.foldl track none = some (v, j) → j + (if d.bumps then 1 else 0) = k →
            LastStore (l ++ [d]) v k := by
          intro j hj hk
          obtain ⟨pre, e, post, u, rfl, he, hpost, hv, hc⟩ := ih hj
          refine ⟨pre, e, post ++ [d], u, by simp, he, fun x hx => ?_, hv, ?_⟩
          · rcases List.mem_append.1 hx with hx | hx
            · exact hpost x hx
            · rw [List.mem_singleton.1 hx]; exact hd
          · rw [List.countP_append, List.countP_singleton, ← hc, hk]
        split_ifs at h with hb
        · obtain ⟨⟨v', j⟩, hj, he⟩ := Option.map_eq_some_iff.1 h
          simp only [Prod.mk.injEq] at he
          rw [he.1] at hj
          exact key j hj (by simp [hb, he.2])
        · exact key k h (by simp [hb])
  · rintro ⟨pre, d, post, u, rfl, hd, hpost, rfl, rfl⟩
    rw [List.foldl_append, List.foldl_cons, track_quiet post hpost]
    simp [track, hd]

/-! ## The pallet follows its history -/

/-- `Something` is min(v + k, 2^32 - 1) for the tracked v and k, and absent when nothing is tracked -/
def Tracks (s : St AccountId) (a : Option (ℕ × ℕ)) : Prop :=
  s.something.map UInt32.toNat = a.map fun p => min (p.1 + p.2) (2 ^ 32 - 1)

theorem step_tracks (s : St AccountId) (a : Option (ℕ × ℕ)) (d : Dispatch AccountId) (h : Tracks s a) :
    Tracks ((pallet sys).next s d) (track a d) := by
  rcases d.trichotomy with ⟨hs, hst, hb⟩ | ⟨n, o, who, v, rfl, hs, hst, -⟩ | ⟨n, o, who, rfl, hs, hst, hb⟩
  · rw [Machine.next, step_unsigned sys s d hs]
    simpa [track, hst, hb] using h
  · rw [Machine.next, step_doSomething sys s n v hs]
    have := v.toNat_lt
    simp only [Tracks, track, hst, Option.map_some, Option.some.injEq]
    omega
  · rw [Machine.next, step_causeError sys s n hs]
    simp only [track, hst, hb, if_true]
    cases hv : s.something with
    | none =>
      have ha : a = none := by simpa [Tracks, hv] using h.symm
      simp [Tracks, hv, ha]
    | some old =>
      obtain ⟨p, rfl, hp⟩ : ∃ p, a = some p ∧ min (p.1 + p.2) (2 ^ 32 - 1) = old.toNat := by
        simpa [Tracks, hv] using h.symm
      cases hc : checkedAdd old 1 with
      | none =>
        have hmax := checkedAdd_one_eq_none.1 hc
        simp only [Tracks, hv, hc, Option.map_some, Option.some.injEq]
        omega
      | some new =>
        have hnew := checkedAdd_one_toNat hc
        have := new.toNat_lt
        simp only [Tracks, hc, Option.map_some, Option.some.injEq]
        omega

/-- after every history from genesis, `Something` is the tracked value -/
theorem run_tracks (ops : List (Dispatch AccountId)) :
    Tracks ((pallet sys).run genesis ops) (ops.foldl track none) :=
  (pallet sys).run_sim (step_tracks sys) genesis none ops rfl

theorem run_something_none {ops : List (Dispatch AccountId)} :
    ((pallet sys).run genesis ops).something = none ↔ ∀ d ∈ ops, d.stores = none := by
  have h := run_tracks sys ops
  rw [← track_eq_none, ← Option.map_eq_none_iff (f := UInt32.toNat), h, Option.map_eq_none_iff]

theorem run_something_of_lastStore {ops : List (Dispatch AccountId)} {v k : ℕ} (h : LastStore ops v k) :
    ((pallet sys).run genesis ops).something.map UInt32.toNat = some (min (v + k) (2 ^ 32 - 1)) := by
  have ht := run_tracks sys ops
  rw [Tracks, track_eq_some.2 h] at ht
  exact ht

theorem lastStore_of_run_something {ops : List (Dispatch AccountId)} {x : UInt32}
    (h : ((pallet sys).run genesis ops).something = some x) :
    ∃ v k, LastStore ops v k ∧ x.toNat = min (v + k) (2 ^ 32 - 1) := by
  have ht := run_tracks sys ops
  rw [Tracks, h, Option.map_some, eq_comm, Option.map_eq_some_iff] at ht
  obtain ⟨⟨v, k⟩, hvk, hx⟩ := ht
  exact ⟨v, k, track_eq_some.1 hvk, hx.symm⟩

/-- a failing dispatch writes nothing: it fails before its first write -/
theorem failing_dispatch_unchanged (s : St AccountId) (d : Dispatch AccountId) {err : DispatchError Error}
    (h : (pallet sys).result s d = .error err) : (pallet sys).next s d = s := by
  rw [Machine.result] at h
  rw [Machine.next]
  rcases d.trichotomy with ⟨hs, -⟩ | ⟨n, o, who, v, rfl, hs, -⟩ | ⟨n, o, who, rfl, hs, -⟩
  · rw [step_unsigned sys s d hs]
  · rw [step_doSomething sys s n v hs] at h; cases h
  · rw [step_causeError sys s n hs] at h ⊢
    split at h
    · rfl
    · split at h
      · rfl
      · cases h

/-- the result of dispatching `d` after the history `ops` from genesis, and the state it leaves when it fails -/
structure Outcome (ops : List (Dispatch AccountId)) (d : Dispatch AccountId) : Prop where
  doSomething_ok : d.stores.isSome → (pallet sys).result ((pallet sys).run genesis ops) d = .ok ()
  noneValue_iff : d.bumps → ((pallet sys).result ((pallet sys).run genesis ops) d = .error (.module .noneValue) ↔
    ∀ e ∈ ops, e.stores = none)
  overflow_iff : d.bumps → ((pallet sys).result ((pallet sys).run genesis ops) d = .error (.module .storageOverflow) ↔
    ∃ v k, LastStore ops v k ∧ 2 ^ 32 - 1 ≤ v + k)
  causeError_ok_iff : d.bumps → ((pallet sys).result ((pallet sys).run genesis ops) d = .ok () ↔
    ∃ v k, LastStore ops v k ∧ v + k < 2 ^ 32 - 1)
  badOrigin : d.origin.signer = none → (pallet sys).result ((pallet sys).run genesis ops) d = .error .badOrigin
  failing_unchanged : ∀ err, (pallet sys).result ((pallet sys).run genesis ops) d = .error err →
    (pallet sys).next ((pallet sys).run genesis ops) d = (pallet sys).run genesis ops

theorem causeError_result (s : St AccountId) (d : Dispatch AccountId) (hb : d.bumps) :
    (s.something = none ∧ (pallet sys).result s d = .error (.module .noneValue)) ∨
    (∃ x, s.something = some x ∧ x.toNat = 2 ^ 32 - 1 ∧
      (pallet sys).result s d = .error (.module .storageOverflow)) ∨
    (∃ x, s.something = some x ∧ x.toNat < 2 ^ 32 - 1 ∧ (pallet sys).result s d = .ok ()) := by
  rcases d.trichotomy with ⟨-, -, h⟩ | ⟨n, o, who, v, rfl, -, -, h⟩ | ⟨n, o, who, rfl, hs, -⟩
  · rw [hb] at h; cases h
  · rw [hb] at h; cases h
  · rw [Machine.result, step_causeError sys s n hs]
    cases hv : s.something with
    | none => exact Or.inl ⟨rfl, rfl⟩
    | some old =>
      right
      cases hc : checkedAdd old 1 with
      | none => exact Or.inl ⟨old, rfl, checkedAdd_one_eq_none.1 hc, by simp [hc]⟩
      | some new =>
        have := checkedAdd_one_toNat hc
        have := new.toNat_lt
        exact Or.inr ⟨old, rfl, by omega, by simp [hc]⟩

theorem outcome (ops : List (Dispatch AccountId)) (d : Dispatch AccountId) : Outcome sys ops d := by
  set s := (pallet sys).run genesis ops with hs
  have hval : ∀ {x v k}, s.something = some x → LastStore ops v k → x.toNat = min (v + k) (2 ^ 32 - 1) := by
    intro x v k hx hl
    have h := run_something_of_lastStore sys hl
    rw [← hs, hx, Option.map_some, Option.some.injEq] at h
    exact h
  have hnone : s.something = none → ∀ v k, ¬ LastStore ops v k := by
    intro hn v k hl
    have h := run_something_of_lastStore sys hl
    rw [← hs, hn] at h
    cases h
  refine ⟨fun hst => ?_, fun hb => ?_, fun hb => ?_, fun hb => ?_, fun hu => ?_, fun err => ?_⟩
  · rcases d.trichotomy with ⟨-, h, -⟩ | ⟨n, o, who, v, rfl, ho, -, -⟩ | ⟨n, o, who, rfl, -, h, -⟩
    · rw [h] at hst; cases hst
    · rw [Machine.result, step_doSomething sys _ n v ho]
    · rw [h] at hst; cases hst
  · rcases causeError_result sys s d hb with ⟨hn, hr⟩ | ⟨x, hx, -, hr⟩ | ⟨x, hx, -, hr⟩
    · exact iff_of_true hr ((run_something_none sys).1 hn)
    · exact iff_of_false (by rw [hr]; simp) (fun h => by rw [hs, (run_something_none sys).2 h] at hx; cases hx)
    · exact iff_of_false (by rw [hr]; simp) (fun h => by rw [hs, (run_something_none sys).2 h] at hx; cases hx)
  · rcases causeError_result sys s d hb with ⟨hn, hr⟩ | ⟨x, hx, hm, hr⟩ | ⟨x, hx, hm, hr⟩
    · exact iff_of_false (by rw [hr]; simp) (fun ⟨v, k, hl, _⟩ => hnone hn v k hl)
    · obtain ⟨v, k, hl, hxv⟩ := lastStore_of_run_something sys hx
      exact iff_of_true hr ⟨v, k, hl, by omega⟩
    · exact iff_of_false (by rw [hr]; simp) (fun ⟨v, k, hl, hvk⟩ => by have := hval hx hl; omega)
  · rcases causeError_result sys s d hb with ⟨hn, hr⟩ | ⟨x, hx, hm, hr⟩ | ⟨x, hx, hm, hr⟩
    · exact iff_of_false (by rw [hr]; simp) (fun ⟨v, k, hl, _⟩ => hnone hn v k hl)
    · exact iff_of_false (by rw [hr]; simp) (fun ⟨v, k, hl, hvk⟩ => by have := hval hx hl; omega)
    · obtain ⟨v, k, hl, hxv⟩ := lastStore_of_run_something sys hx
      exact iff_of_true hr ⟨v, k, hl, by omega⟩
  · rw [Machine.result, step_unsigned sys _ d hu]
  · exact failing_dispatch_unchanged sys s d

theorem exists_lastStore {ops : List (Dispatch AccountId)} (h : ∃ d ∈ ops, d.stores ≠ none) :
    ∃ v k, LastStore ops v k := by
  cases ht : ops.foldl track none with
  | none =>
    obtain ⟨d, hd, hst⟩ := h
    exact absurd (track_eq_none.1 ht d hd) hst
  | some p => exact ⟨p.1, p.2, track_eq_some.1 ht⟩

/-- **Whole-run semantics.** After every history `ops` of dispatches from genesis (every prefix of a history is one):
`Something` is absent when no signed `do_something` occurred; otherwise there is a last one, and `Something` is
min(v + k, 2^32 - 1) for its argument v and the number k of signed `cause_error` calls after it. Every further
dispatch has the stated result, and when it fails it leaves storage and event log exactly as they were. -/
theorem template_run_semantics (ops : List (Dispatch AccountId)) :
    ((∀ d ∈ ops, d.stores = none) → ((pallet sys).run genesis ops).something = none) ∧
    ((∃ d ∈ ops, d.stores ≠ none) → ∃ v k, LastStore ops v k) ∧
    (∀ v k, LastStore ops v k →
      ((pallet sys).run genesis ops).something.map UInt32.toNat = some (min (v + k) (2 ^ 32 - 1))) ∧
    ∀ d, Outcome sys ops d :=
  ⟨(run_something_none sys).2, exists_lastStore, fun _ _ => run_something_of_lastStore sys, outcome sys ops⟩

end Pallet

-- the pallet's own two tests: a stored value is read back; a missing value is an error
example : ((pallet (substrateSystem _)).run genesis [⟨1, .system (.signed 1), .doSomething 42⟩]).something = some 42 :=
  rfl

example : (pallet (substrateSystem _)).result genesis ⟨1, .system (.signed 1), .causeError⟩ =
    .error (.module .noneValue) := rfl

end NodeTemplate.Template
