/-
Session and Staking of Substrate 3.0 after genesis: the rotation of sessions.

Documented behaviour, as executable definitions (see `Substrate.Storage`; `new_session` is in `Substrate.Validators`):
Session's `rotate_session`, at the end of session n. The queued validators take over, the session manager is asked for
session n + 2, and what it answers is queued; with no answer, the validators now in session are queued again. Babe's
authorities become the keys the new validators were queued with.

What else happens to the storage is not decided here, only bounded:
- `Rotates`: a rotation acts as documented on the items named there. It may forget exposures of eras that lie further back
  than Staking's history depth (`Forgets`). At a depth of 0 that includes the era the session now belongs to, if the era
  of the next one is another;
- `Keeps`: what blocks, calls and hooks do between two rotations. Sessions and eras are Session's and Staking's own and
  stay as they are; balances, stake, candidates, nominations and registered keys may change in any way.
-/
import Mathlib.Tactic
import NodeTemplate.Substrate.Validators

namespace NodeTemplate.Substrate

open NodeTemplate.Core

/-! ## Staking: planning a session -/

section Planning

variable {A B G : Type}

/-- what Staking elects from: who stands, for how many seats, with what stake, at which total issuance -/
structure StakingEntries (A : Type) where
  validatorCount : ℕ
  minimumValidatorCount : ℕ
  totalIssuance : ℕ
  bonded : A → Option A
  ledger : A → Option (StakingLedger A)
  candidates : Finset A

def Storage.entries (s : Storage A B G) : StakingEntries A :=
  ⟨s.validatorCount, s.minimumValidatorCount, s.totalIssuance, s.bonded, s.ledger, s.candidates⟩

/-- `Substrate.ownStake`, from the entries alone -/
def StakingEntries.ownStake (e : StakingEntries A) (v : A) : ℕ :=
  ((e.bonded v).bind e.ledger).elim 0 StakingLedger.active

theorem entries_ownStake (s : Storage A B G) (v : A) : s.entries.ownStake v = ownStake s v := rfl

variable [DecidableEq A]

/-- to identify the validators does not change them -/
theorem noteHistoricalRoot_newSessionExposed (elect : Election A B G) (queued : Submission A)
    (sessionsPerEra i : ℕ) (s : Storage A B G) :
    noteHistoricalRoot (newSessionExposed elect queued sessionsPerEra) i s =
      newSession elect queued sessionsPerEra i s := by
  unfold noteHistoricalRoot newSessionExposed
  rcases newSession elect queued sessionsPerEra i s with ⟨_ | l, t⟩
  · rfl
  · simp [Function.comp_def]

theorem newEra_entries (elect : Election A B G) (queued : Submission A) (i : ℕ) (s : Storage A B G) :
    (newEra elect queued i s).2.entries = s.entries := by
  simp only [newEra]
  cases tryDoElection elect queued (nextEra i s) <;> rfl

/-- planning a session leaves what Staking elects from alone -/
theorem newSession_entries (elect : Election A B G) (queued : Submission A) (sessionsPerEra i : ℕ)
    (s : Storage A B G) : (newSession elect queued sessionsPerEra i s).2.entries = s.entries := by
  simp only [newSession]
  cases s.currentEra with
  | none => exact newEra_entries elect queued i s
  | some era =>
    cases s.forceEra with
    | forceNew => exact newEra_entries elect queued i _
    | forceAlways => exact newEra_entries elect queued i s
    | forceNone => rfl
    | notForcing =>
      by_cases hlen : sessionsPerEra ≤ i - (s.erasStartSessionIndex era).getD 0
      · simp only [hlen, if_true]
        exact newEra_entries elect queued i s
      · simp only [hlen, if_false]

/-- an era that is not over yet goes on, and nobody is asked -/
theorem newSession_within (elect : Election A B G) (queued : Submission A) {sessionsPerEra i era start : ℕ}
    {s : Storage A B G} (hera : s.currentEra = some era) (hstart : s.erasStartSessionIndex era = some start)
    (hforce : s.forceEra = .notForcing) (hle : start ≤ i) (hi : i < start + sessionsPerEra) :
    newSession elect queued sessionsPerEra i s = (none, s) := by
  have hlen : ¬ sessionsPerEra ≤ i - start := by omega
  simp [newSession, hera, hstart, hforce, hlen]

/-- an era that is over is followed by the next -/
theorem newSession_over (elect : Election A B G) (queued : Submission A) {sessionsPerEra i era start : ℕ}
    {s : Storage A B G} (hera : s.currentEra = some era) (hstart : s.erasStartSessionIndex era = some start)
    (hforce : s.forceEra = .notForcing) (hi : start + sessionsPerEra ≤ i) :
    newSession elect queued sessionsPerEra i s = newEra elect queued i s := by
  have hlen : sessionsPerEra ≤ i - start := by omega
  simp [newSession, hera, hstart, hforce, hlen]

end Planning

/-! ## Session: rotation -/

section Rotation

variable {A B G : Type}

/-- the queued validators take over, and Babe works with the keys they were queued with -/
def takeOver (s : Storage A B G) : Storage A B G :=
  { s with
    sessionValidators := s.queuedKeys.map Prod.fst
    babeAuthorities := s.queuedKeys.map fun x => x.2.babe }

variable [Inhabited B] [Inhabited G]

/-- validators queued for the session after, with the keys they have registered now -/
def queueKeys (validators : List A) (s : Storage A B G) : Storage A B G :=
  { s with queuedKeys := validators.map fun v => (v, (s.nextKeys v).getD default) }

@[simp] theorem queueKeys_validators (validators : List A) (s : Storage A B G) :
    (queueKeys validators s).queuedKeys.map Prod.fst = validators := by
  simp [queueKeys, Function.comp_def]

/-- Session's `rotate_session` at the end of session `n` -/
def rotateSession (manager : SessionManager A B G) (n : ℕ) (s : Storage A B G) : Storage A B G :=
  let (planned, s) := manager (n + 2) (takeOver s)
  queueKeys (planned.getD s.sessionValidators) s

end Rotation

section Bounds

variable {A B G : Type}

/-- exposures are what they were, but for eras forgotten under a history depth: those more than `depth` behind the era
`current`, and any part of an era more than one behind it -/
def Forgets (depth current : ℕ) (old new : ℕ → A → Option (Exposure A)) : Prop :=
  ∀ era, new era = old era ∨ (era + depth < current ∧ new era = fun _ => none) ∨
    (era + 1 < current ∧ ∀ v, new era v = old era v ∨ new era v = none)

theorem Forgets.refl (depth current : ℕ) (x : ℕ → A → Option (Exposure A)) : Forgets depth current x x :=
  fun _ => Or.inl rfl

/-- the era `current` is never forgotten, and the one before it under a history depth of 0 only -/
theorem Forgets.recent {depth current : ℕ} {old new : ℕ → A → Option (Exposure A)} (h : Forgets depth current old new)
    {era : ℕ} (hera : current ≤ era + 1) :
    new era = old era ∨ depth = 0 ∧ era < current ∧ new era = fun _ => none := by
  rcases h era with h | ⟨hlt, h⟩ | ⟨hlt, -⟩
  · exact Or.inl h
  · exact Or.inr ⟨by omega, by omega, h⟩
  · omega

/-- what was never recorded is not there later -/
theorem Forgets.absent {depth current : ℕ} {old new : ℕ → A → Option (Exposure A)} (h : Forgets depth current old new)
    {era : ℕ} {v : A} (hold : old era v = none) : new era v = none := by
  rcases h era with h | ⟨-, h⟩ | ⟨-, h⟩
  · rw [h, hold]
  · rw [h]
  · rcases h v with h | h
    · rw [h, hold]
    · exact h

/-- `t` has the sessions and eras of `s`; the rest may differ. So it is with calls and hooks between two rotations, as
long as nobody touches `ForceEra`: neither `force_new_era` nor `force_new_era_always` nor `force_no_eras`. Staking itself
forces an era for an offence only, and this runtime reports none: it has no Offences pallet, and both consensus pallets
have `HandleEquivocation = ()`. `depth` is the history depth: to lower it forgets eras at once. -/
structure Keeps (depth : ℕ) (s t : Storage A B G) : Prop where
  currentEra : t.currentEra = s.currentEra
  started : ∀ era, s.currentEra = some era → t.erasStartSessionIndex era = s.erasStartSessionIndex era
  forceEra : t.forceEra = s.forceEra
  validators : t.sessionValidators = s.sessionValidators
  queued : t.queuedKeys = s.queuedKeys
  authorities : t.babeAuthorities = s.babeAuthorities
  exposures : Forgets depth (s.currentEra.getD 0) s.erasStakers t.erasStakers

/-- a rotation at the end of session `n` -/
def Rotates [Inhabited B] [Inhabited G] (depth : ℕ) (manager : SessionManager A B G) (n : ℕ)
    (s t : Storage A B G) : Prop :=
  Keeps depth (rotateSession manager n s) t

end Bounds

end NodeTemplate.Substrate
