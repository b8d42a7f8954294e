/-
Session and Staking of Substrate 3.0, as far as the genesis of a chain goes.

Documented behaviour, as executable definitions (see `Substrate.Storage`):
- Staking: `newSession` opens era 0 when there is no era yet, and the next era when the current one is over. Its winners
  are those of an accepted submission, if one is stored, and else of the on-chain election; the era is opened whether or
  not there are winners. With fewer candidates than max(minimum_validator_count, 1) there is no on-chain election. The
  election itself (sequential Phragmen) is a parameter. At genesis nothing is submitted.
- Staking's genesis builder asserts that a stash can pay its bond, then calls `bond` and `validate` and DROPS their
  errors.
- Session's genesis builder registers the keys, asserts that every account exists, takes the validators of session 0
  from its session manager and, when that has none, from its own list of keys, and tells Babe and Grandpa.
- `NoteHistoricalRoot` passes on the validators of the manager it wraps.
-/
import Mathlib.Tactic
import NodeTemplate.Substrate.Storage

namespace NodeTemplate.Substrate

open NodeTemplate.Core

section Staking

variable {A B G : Type} [DecidableEq A]

/-! ## Staking: eras and elections -/

/-- an election over the candidates of a storage: winners with their exposures, or a failure -/
abbrev Election (A B G : Type) := Storage A B G → Option (List (A × Exposure A))

/-- `U128CurrencyToVote`: what a balance is worth as a vote, scaled so that the whole issuance fits into 64 bits -/
def currencyToVote (issuance value : ℕ) : ℕ := min (value / max (issuance / (2 ^ 64 - 1)) 1) (2 ^ 64 - 1)

/-- the active stake of a bonded stash -/
def ownStake (s : Storage A B G) (v : A) : ℕ := ((s.bonded v).bind s.ledger).elim 0 StakingLedger.active

/-- sequential Phragmen where nobody nominates and there is a seat for everybody: every candidate wins, with its own
stake behind it -/
def soloElection : Election ℕ B G := fun s =>
  some (s.candidates.sort.map fun v => (v, ⟨ownStake s v, ownStake s v, []⟩))

/-- the on-chain election, if there are enough candidates for one -/
def doPhragmen (elect : Election A B G) (s : Storage A B G) : Option (List (A × Exposure A)) :=
  if s.candidates.card < max s.minimumValidatorCount 1 then none else elect s

/-- the winners of an accepted election solution, `none` where nothing was submitted -/
abbrev Submission (A : Type) := Option (List (A × Exposure A))

/-- Staking's `try_do_election`: the stored submission, else the on-chain election -/
def tryDoElection (elect : Election A B G) (queued : Submission A) (s : Storage A B G) :
    Option (List (A × Exposure A)) :=
  queued.or (doPhragmen elect s)

/-- the next era, opened at session `i` -/
def nextEra (i : ℕ) (s : Storage A B G) : Storage A B G :=
  let era := s.currentEra.elim 0 (· + 1)
  { s with
    currentEra := some era
    erasStartSessionIndex := Function.update s.erasStartSessionIndex era (some i) }

/-- exposures recorded for the current era -/
def recordWinners (winners : List (A × Exposure A)) (s : Storage A B G) : Storage A B G :=
  let era := s.currentEra.getD 0
  { s with erasStakers := Function.update s.erasStakers era (insertAll (s.erasStakers era) winners) }

/-- Staking's `new_era`: open the next era at session `i` and elect for it; no winners, no exposures -/
def newEra (elect : Election A B G) (queued : Submission A) (i : ℕ) (s : Storage A B G) :
    Option (List A) × Storage A B G :=
  let s := nextEra i s
  match tryDoElection elect queued s with
  | none => (none, s)
  | some winners => (some (winners.map Prod.fst), recordWinners winners s)

/-- Staking's `new_session` -/
def newSession (elect : Election A B G) (queued : Submission A) (sessionsPerEra i : ℕ) (s : Storage A B G) :
    Option (List A) × Storage A B G :=
  match s.currentEra with
  | none => newEra elect queued i s
  | some era =>
    let eraLength := i - (s.erasStartSessionIndex era).getD 0
    match s.forceEra with
    | .forceNew => newEra elect queued i { s with forceEra := .notForcing }
    | .forceAlways => newEra elect queued i s
    | .notForcing => if sessionsPerEra ≤ eraLength then newEra elect queued i s else (none, s)
    | .forceNone => (none, s)

/-- Staking as the session manager that also identifies its validators, by their exposure in the current era -/
def newSessionExposed (elect : Election A B G) (queued : Submission A) (sessionsPerEra i : ℕ) (s : Storage A B G) :
    Option (List (A × Exposure A)) × Storage A B G :=
  let (validators, s) := newSession elect queued sessionsPerEra i s
  (validators.map fun l => l.map fun v => (v, (s.erasStakers (s.currentEra.getD 0) v).getD ⟨0, 0, []⟩), s)

/-- a session manager: the validators of session `i`, `none` to keep the previous ones -/
abbrev SessionManager (A B G : Type) := ℕ → Storage A B G → Option (List A) × Storage A B G

/-- `pallet_session::historical::NoteHistoricalRoot` over an identifying manager -/
def noteHistoricalRoot (inner : ℕ → Storage A B G → Option (List (A × Exposure A)) × Storage A B G) :
    SessionManager A B G := fun i s =>
  let (identified, s) := inner i s
  (identified.map fun l => l.map Prod.fst, s)

/-! ## Staking: genesis -/

/-- `pallet_staking::StakerStatus` -/
inductive StakerStatus (A : Type) where
  | idle
  | validator
  | nominator (targets : List A)
deriving DecidableEq, Repr

structure Staker (A : Type) where
  stash : A
  controller : A
  stake : ℕ
  status : StakerStatus A
deriving DecidableEq, Repr

/-- `StakingConfig`; the fields with no reader here (slash reward fraction, history depth) are left out -/
structure StakingConfig (A : Type) where
  validatorCount : ℕ
  minimumValidatorCount : ℕ
  stakers : List (Staker A)
  invulnerables : List A
  forceEra : Forcing
deriving DecidableEq, Repr

inductive StakingError where
  | alreadyBonded
  | alreadyPaired
  | insufficientValue
  | badState
  | notController
deriving DecidableEq, Repr

/-- Staking's `bond`, signed by the stash -/
def bond (ed : ℕ) (stash controller : A) (value : ℕ) (s : Storage A B G) : Except StakingError (Storage A B G) :=
  if (s.bonded stash).isSome then .error .alreadyBonded
  else if (s.ledger controller).isSome then .error .alreadyPaired
  else if value < ed then .error .insufficientValue
  else match incConsumers stash s with
    | none => .error .badState
    | some s =>
      let value := min value (s.account stash).free
      .ok { s with
        bonded := Function.update s.bonded stash (some controller)
        ledger := Function.update s.ledger controller (some ⟨stash, value, value⟩) }

/-- Staking's `validate`, signed by the controller -/
def validate (controller : A) (s : Storage A B G) : Except StakingError (Storage A B G) :=
  match s.ledger controller with
  | none => .error .notController
  | some l => .ok { s with candidates := insert l.stash s.candidates }

/-- `let _ = call`: an error is dropped and leaves the storage as it was -/
def dropError {ε σ : Type} (s : σ) : Except ε σ → σ
  | .ok s' => s'
  | .error _ => s

/-- one configured staker -/
def stakerBuild (ed : ℕ) (s : Storage A B G) (x : Staker A) : Option (Storage A B G) :=
  if x.stake ≤ (s.account x.stash).free then
    let s := dropError s (bond ed x.stash x.controller x.stake s)
    match x.status with
    | .validator => some (dropError s (validate x.controller s))
    | _ => some s
  else none

/-- Staking's genesis builder -/
def stakingBuild (ed : ℕ) (cfg : StakingConfig A) (s : Storage A B G) : Option (Storage A B G) :=
  cfg.stakers.foldlM (stakerBuild ed) { s with
    validatorCount := cfg.validatorCount
    minimumValidatorCount := cfg.minimumValidatorCount
    invulnerables := cfg.invulnerables
    forceEra := cfg.forceEra }

/-! What Staking's builder can write -/

theorem bond_writes {ed : ℕ} {stash controller : A} {value : ℕ} {s t : Storage A B G}
    (h : bond ed stash controller value s = .ok t) : t = { s with bonded := t.bonded, ledger := t.ledger } := by
  unfold bond incConsumers at h
  split_ifs at h
  cases h
  rfl

theorem validate_writes {controller : A} {s t : Storage A B G} (h : validate controller s = .ok t) :
    t = { s with candidates := t.candidates } := by
  unfold validate at h
  cases hl : s.ledger controller with
  | none => rw [hl] at h; cases h
  | some l => rw [hl] at h; cases h; rfl

theorem dropError_inv {ε σ : Type} {P : σ → Prop} {s : σ} {e : Except ε σ} (hs : P s) (hok : ∀ t, e = .ok t → P t) :
    P (dropError s e) := by
  cases e with
  | error _ => exact hs
  | ok t => exact hok t rfl

/-- a staker's entry touches no more than who is bonded and who stands for election -/
theorem stakerBuild_writes {ed : ℕ} {s t : Storage A B G} {x : Staker A} (h : stakerBuild ed s x = some t) :
    t = { s with bonded := t.bonded, ledger := t.ledger, candidates := t.candidates } := by
  unfold stakerBuild at h
  split_ifs at h
  obtain ⟨u, hu, hbond⟩ : ∃ u, dropError s (bond ed x.stash x.controller x.stake s) = u ∧
      u = { s with bonded := u.bonded, ledger := u.ledger } :=
    ⟨_, rfl, dropError_inv (P := fun u : Storage A B G => u = { s with bonded := u.bonded, ledger := u.ledger })
      rfl fun _ => bond_writes⟩
  obtain ⟨v, hv, hval⟩ : ∃ v, dropError u (validate x.controller u) = v ∧ v = { u with candidates := v.candidates } :=
    ⟨_, rfl, dropError_inv (P := fun v : Storage A B G => v = { u with candidates := v.candidates })
      rfl fun _ => validate_writes⟩
  simp only [hu, hv] at h
  cases hx : x.status with
  | validator =>
    rw [hx] at h
    cases h
    rw [hval, hbond]
  | idle => rw [hx] at h; cases h; rw [hbond]
  | nominator _ => rw [hx] at h; cases h; rw [hbond]

theorem stakingBuild_writes {ed : ℕ} {cfg : StakingConfig A} {s t : Storage A B G}
    (h : stakingBuild ed cfg s = some t) :
    t = { s with
      validatorCount := t.validatorCount, minimumValidatorCount := t.minimumValidatorCount,
      invulnerables := t.invulnerables, forceEra := t.forceEra, bonded := t.bonded, ledger := t.ledger,
      candidates := t.candidates } := by
  unfold stakingBuild at h
  refine foldlM_inv (P := fun u : Storage A B G => u = { s with
      validatorCount := u.validatorCount, minimumValidatorCount := u.minimumValidatorCount,
      invulnerables := u.invulnerables, forceEra := u.forceEra, bonded := u.bonded, ledger := u.ledger,
      candidates := u.candidates }) ?_ h rfl
  intro u v x _ huv hu
  rw [stakerBuild_writes huv, hu]

end Staking

/-! ## Session: keys and genesis -/

section Session

variable {A B G : Type} [DecidableEq A] [DecidableEq B] [DecidableEq G]

/-- one key type of `inner_set_keys`: a key owned by somebody else is refused, a replaced key is given up -/
def setKeyOwner {K : Type} [DecidableEq K] (owner : K → Option A) (who : A) (old : Option K) (key : K) :
    Option (K → Option A) :=
  if (owner key).all (· = who) then
    if old = some key then some owner
    else
      let owner := match old with
        | none => owner
        | some k => Function.update owner k none
      some (Function.update owner key (some who))
  else none

/-- Session's `inner_set_keys`: Babe's key first, then Grandpa's -/
def innerSetKeys (who : A) (keys : SessionKeys B G) (s : Storage A B G) : Option (Storage A B G) := do
  let old := s.nextKeys who
  let babeOwner ← setKeyOwner s.babeOwner who (old.map SessionKeys.babe) keys.babe
  let grandpaOwner ← setKeyOwner s.grandpaOwner who (old.map SessionKeys.grandpa) keys.grandpa
  return { s with
    babeOwner := babeOwner
    grandpaOwner := grandpaOwner
    nextKeys := Function.update s.nextKeys who (some keys) }

/-- one configured key set: account, validator id, keys -/
def sessionKeyBuild (s : Storage A B G) (x : A × A × SessionKeys B G) : Option (Storage A B G) := do
  let s ← innerSetKeys x.2.1 x.2.2 s
  incConsumers x.1 s

/-- a key entry touches no more than the registered keys and their owners -/
theorem sessionKeyBuild_writes {s t : Storage A B G} {x : A × A × SessionKeys B G}
    (h : sessionKeyBuild s x = some t) :
    t = { s with nextKeys := t.nextKeys, babeOwner := t.babeOwner, grandpaOwner := t.grandpaOwner } := by
  unfold sessionKeyBuild innerSetKeys incConsumers at h
  simp only [Option.bind_eq_bind, Option.bind_eq_some_iff, Option.pure_def, Option.some.injEq] at h
  obtain ⟨u, ⟨babe, -, grandpa, -, rfl⟩, hu⟩ := h
  split_ifs at hu
  cases hu
  rfl

theorem foldlM_sessionKeyBuild_writes {keys : List (A × A × SessionKeys B G)} {s t : Storage A B G}
    (h : keys.foldlM sessionKeyBuild s = some t) :
    t = { s with nextKeys := t.nextKeys, babeOwner := t.babeOwner, grandpaOwner := t.grandpaOwner } := by
  refine foldlM_inv (P := fun u : Storage A B G => u = { s with
      nextKeys := u.nextKeys, babeOwner := u.babeOwner, grandpaOwner := u.grandpaOwner }) ?_ h rfl
  intro u v x _ huv hu
  rw [sessionKeyBuild_writes huv, hu]

/-- the start of session 0: its validators are the manager's, or else the `fallback`; session 1's keys are queued and
handed to Babe and Grandpa -/
def sessionStart [Inhabited B] [Inhabited G] (manager : SessionManager A B G) (fallback : List A) (s : Storage A B G) :
    Option (Storage A B G) := do
  let (elected0, s) := manager 0 s
  let validators0 := elected0.getD fallback
  guard (validators0 ≠ [])
  let (elected1, s) := manager 1 s
  let validators1 := elected1.getD validators0
  guard (validators1 ≠ [])
  let queued := validators1.map fun v => (v, (s.nextKeys v).getD default)
  let s ← babeBuild (queued.map fun x => x.2.babe) s
  let s ← grandpaBuild (queued.map fun x => x.2.grandpa) s
  return { s with sessionValidators := validators0, queuedKeys := queued }

/-- Session's genesis builder; the fallback is the list of its own configured validator ids -/
def sessionBuild [Inhabited B] [Inhabited G] (manager : SessionManager A B G) (keys : List (A × A × SessionKeys B G))
    (s : Storage A B G) : Option (Storage A B G) := do
  let s ← keys.foldlM sessionKeyBuild s
  sessionStart manager (keys.map fun x => x.2.1) s

end Session

end NodeTemplate.Substrate
