/-
Sessions and eras of this runtime over whole runs of the chain.

The runtime sets `SessionManager = NoteHistoricalRoot<Self, Staking>` and `SessionsPerEra = 3`; Session and Staking
themselves are third-party code. `Chain` takes the rotation of sessions as a parameter over the opaque store of
`Framework`; its law says that a rotation acts on the visible items as documented (`Substrate.Rotates`). Two more items of
Staking matter here, the history depth and the nominations: the on-chain election depends on who nominates, and is the one
of genesis while nobody does. `reference` satisfies the law (`referenceChain`).

A run (`Chain.Run`) is any number of rotations with anything in between that leaves sessions and eras to Session and
Staking (`Substrate.Keeps`). Two parameters say what is known of it: `P`, at each rotation, of the election solution
submitted, if any, of the nominations, and of the entries Staking elects from; `H`, throughout, of the history depth. They
are `True` where nothing is assumed.

`run_sessions` is the one induction over such runs. `SessionInv Good` says, after n rotations: the era clock stands at
the era of the session to come (`EraClock`), era 0 and the eras to come hold no exposures, Babe has one authority for
each validator, and `Good` holds of the validators and exposures of the session now and of the one queued. `Good` is the
parameter: it has to survive an election without winners, and the loss of the exposures where the history depth may be 0,
and to follow from an election with winners.
-/
import Mathlib.Tactic
import NodeTemplate.Core.Interleave
import NodeTemplate.Substrate.Rotation
import NodeTemplate.Runtime.Genesis

namespace NodeTemplate.Runtime

open NodeTemplate.Core NodeTemplate.Substrate

/-! ## The era clock -/

/-- the era that session `n` belongs to -/
def eraOf (n : ℕ) : ℕ := n / sessionsPerEra

theorem eraOf_succ (n : ℕ) :
    eraOf (n + 1) = eraOf n ∧ n + 1 < sessionsPerEra * eraOf n + sessionsPerEra ∨
      eraOf (n + 1) = eraOf n + 1 ∧ n + 1 = sessionsPerEra * eraOf (n + 1) := by
  unfold eraOf sessionsPerEra
  omega

theorem eraOf_start_le (n : ℕ) : sessionsPerEra * eraOf n ≤ n := Nat.mul_div_le n sessionsPerEra

section Manager

variable {A B G : Type}

/-- after `n` rotations the current era is the one of session `n + 1`, the last session planned, and it starts with its
first session -/
structure EraClock (n : ℕ) (s : Storage A B G) : Prop where
  currentEra : s.currentEra = some (eraOf (n + 1))
  started : s.erasStartSessionIndex (eraOf (n + 1)) = some (sessionsPerEra * eraOf (n + 1))
  forceEra : s.forceEra = .notForcing

theorem EraClock.keeps {depth n : ℕ} {s t : Storage A B G} (hs : EraClock n s) (h : Keeps depth s t) : EraClock n t :=
  ⟨h.currentEra.trans hs.currentEra, (h.started _ hs.currentEra).trans hs.started, h.forceEra.trans hs.forceEra⟩

variable [DecidableEq A]

variable [Inhabited B] [Inhabited G]

/-- **What a rotation can do.** Within an era: the same validators again. At its end: the next era is opened, with the
winners of an election or, without winners, with the same validators again. -/
theorem rotateSession_cases (elect : Election A B G) (queued : Submission A) {n : ℕ} {s : Storage A B G}
    (hs : EraClock n s) :
    (eraOf (n + 2) = eraOf (n + 1) ∧ rotateSession (sessionManager elect queued) n s =
        queueKeys (s.queuedKeys.map Prod.fst) (takeOver s)) ∨
    (eraOf (n + 2) = eraOf (n + 1) + 1 ∧ n + 2 = sessionsPerEra * eraOf (n + 2) ∧
      ∃ u, u = nextEra (n + 2) (takeOver s) ∧
        ((tryDoElection elect queued u = none ∧
          rotateSession (sessionManager elect queued) n s = queueKeys (s.queuedKeys.map Prod.fst) u) ∨
        ∃ winners, tryDoElection elect queued u = some winners ∧
          rotateSession (sessionManager elect queued) n s =
            queueKeys (winners.map Prod.fst) (recordWinners winners u))) := by
  have hle := eraOf_start_le (n + 1)
  have hmanager : ∀ i t, sessionManager elect queued i t = newSession elect queued sessionsPerEra i t :=
    noteHistoricalRoot_newSessionExposed elect queued sessionsPerEra
  simp only [rotateSession, hmanager]
  rcases eraOf_succ (n + 1) with ⟨hsame, hlt⟩ | ⟨hnext, hstart⟩
  · refine Or.inl ⟨hsame, ?_⟩
    rw [newSession_within (s := takeOver s) elect queued hs.currentEra hs.started hs.forceEra (by omega) hlt]
    rfl
  · refine Or.inr ⟨hnext, hstart, nextEra (n + 2) (takeOver s), rfl, ?_⟩
    have hover : sessionsPerEra * eraOf (n + 1) + sessionsPerEra ≤ n + 2 := by
      rw [hstart, hnext, Nat.mul_add, Nat.mul_one]
    rw [newSession_over (s := takeOver s) elect queued hs.currentEra hs.started hs.forceEra hover, newEra]
    cases hout : tryDoElection elect queued (nextEra (n + 2) (takeOver s)) with
    | none => exact Or.inl ⟨rfl, rfl⟩
    | some winners => exact Or.inr ⟨winners, rfl, rfl⟩

/-- the session manager leaves Staking's entries alone -/
theorem rotateSession_entries (elect : Election A B G) (queued : Submission A) (n : ℕ) (s : Storage A B G) :
    (rotateSession (sessionManager elect queued) n s).entries = s.entries := by
  have hmanager := noteHistoricalRoot_newSessionExposed elect queued sessionsPerEra (n + 2) (takeOver s)
  simp only [rotateSession, sessionManager, hmanager]
  exact newSession_entries elect queued sessionsPerEra (n + 2) (takeOver s)

end Manager

/-! ## Runs -/

section Runs

variable {A B G : Type}

/-- the state after `n` rotations; `Good era l x`: the validators `l` and the exposures `x` of a session in `era` -/
structure SessionInv (Good : ℕ → List A → (A → Option (Exposure A)) → Prop) (n : ℕ) (s : Storage A B G) :
    Prop extends EraClock n s where
  authorities : s.babeAuthorities.length = s.sessionValidators.length
  first : ∀ v, s.erasStakers 0 v = none
  later : ∀ era v, eraOf (n + 1) < era → s.erasStakers era v = none
  now : Good (eraOf n) s.sessionValidators (s.erasStakers (eraOf n))
  next : Good (eraOf (n + 1)) (s.queuedKeys.map Prod.fst) (s.erasStakers (eraOf (n + 1)))

variable {Good : ℕ → List A → (A → Option (Exposure A)) → Prop}

/-- the time between two rotations keeps it: what may be forgotten under a history depth of 1 or more lies before the era
of the session now -/
theorem SessionInv.keeps {depth n : ℕ} {s t : Storage A B G}
    (hforget : depth = 0 → ∀ era l x, Good era l x → Good era l fun _ => none) (hs : SessionInv Good n s)
    (h : Keeps depth s t) : SessionInv Good n t := by
  have hcur : s.currentEra.getD 0 = eraOf (n + 1) := by rw [hs.currentEra]; rfl
  have hforgets := h.exposures
  rw [hcur] at hforgets
  have hnext : t.erasStakers (eraOf (n + 1)) = s.erasStakers (eraOf (n + 1)) := by
    rcases hforgets.recent (Nat.le_succ (eraOf (n + 1))) with heq | ⟨-, hlt, -⟩
    · exact heq
    · exact absurd hlt (lt_irrefl _)
  refine ⟨hs.toEraClock.keeps h, ?_, fun v => hforgets.absent (hs.first v),
    fun era v he => hforgets.absent (hs.later era v he), ?_, ?_⟩
  · rw [h.authorities, h.validators]
    exact hs.authorities
  · have hrecent : eraOf (n + 1) ≤ eraOf n + 1 := by
      rcases eraOf_succ n with ⟨he, -⟩ | ⟨he, -⟩ <;> omega
    rw [h.validators]
    rcases hforgets.recent hrecent with heq | ⟨hdepth, -, hbare⟩
    · rw [heq]
      exact hs.now
    · rw [hbare]
      exact hforget hdepth _ _ _ hs.now
  · rw [h.queued, hnext]
    exact hs.next

variable [DecidableEq A] [Inhabited B] [Inhabited G]

/-- who nominates whom -/
abbrev Nominations (A : Type) := A → Option (List A)

/-- one rotation; `P` holds of the submission and the nominations then stored and of what Staking elects from, `H` of the
history depth -/
def RotationStep (elect : Nominations A → Election A B G) (H : ℕ → Prop)
    (P : Submission A → Nominations A → StakingEntries A → Prop) (n : ℕ) (s t : Storage A B G) : Prop :=
  ∃ queued nominators depth, H depth ∧ P queued nominators s.entries ∧
    Rotates depth (sessionManager (elect nominators) queued) n s t

/-- anything between two rotations -/
def Elsewhere (H : ℕ → Prop) (s t : Storage A B G) : Prop := ∃ depth, H depth ∧ Keeps depth s t

/-- **One rotation.** -/
theorem rotateSession_sessionInv {elect : Election A B G} {queued : Submission A} {n : ℕ} {s : Storage A B G}
    (hfail : ∀ u : Storage A B G, u.entries = s.entries → tryDoElection elect queued u = none →
      ∀ era l x, Good era l x → Good (era + 1) l fun _ => none)
    (hwin : ∀ u : Storage A B G, u.entries = s.entries → ∀ winners, tryDoElection elect queued u = some winners →
      ∀ era, Good (era + 1) (winners.map Prod.fst) (ofList winners)) (hs : SessionInv Good n s) :
    SessionInv Good (n + 1) (rotateSession (sessionManager elect queued) n s) := by
  rcases rotateSession_cases elect queued hs.toEraClock with
    ⟨hsame, heq⟩ | ⟨hnext, hstart, u, rfl, ⟨hout, heq⟩ | ⟨winners, hout, heq⟩⟩ <;> rw [heq]
  · -- within the era nothing is opened or recorded
    refine ⟨⟨?_, ?_, hs.forceEra⟩, ?_, hs.first, ?_, hs.next, ?_⟩
    · exact hs.currentEra.trans (by rw [hsame])
    · rw [hsame]; exact hs.started
    · simp [queueKeys, takeOver]
    · rw [hsame]; exact hs.later
    · rw [hsame, queueKeys_validators]; exact hs.next
  all_goals
    have hopen : (takeOver s).currentEra.elim 0 (· + 1) = eraOf (n + 2) := by
      rw [hnext]
      show s.currentEra.elim 0 (· + 1) = _
      rw [hs.currentEra]
      rfl
    have hbare : s.erasStakers (eraOf (n + 2)) = fun _ => none := by
      funext v
      exact hs.later _ v (by omega)
  · -- no winners: the era has no exposures yet and gets none
    refine ⟨⟨?_, ?_, hs.forceEra⟩, ?_, hs.first, ?_, hs.next, ?_⟩
    · simp [queueKeys, nextEra, hopen]
    · simp [queueKeys, nextEra, hopen, hstart.symm]
    · simp [queueKeys, nextEra, takeOver]
    · intro era v he
      have he' : eraOf (n + 2) < era := he
      exact hs.later era v (by omega)
    · rw [queueKeys_validators]
      show Good (eraOf (n + 2)) _ (s.erasStakers (eraOf (n + 2)))
      rw [hbare, hnext]
      exact hfail (nextEra (n + 2) (takeOver s)) rfl hout _ _ _ hs.next
  · -- winners: their exposures are the era's first
    have hcur : (nextEra (n + 2) (takeOver s)).currentEra.getD 0 = eraOf (n + 2) := by simp [nextEra, hopen]
    have hrec : (recordWinners winners (nextEra (n + 2) (takeOver s))).erasStakers =
        Function.update s.erasStakers (eraOf (n + 2)) (ofList winners) := by
      unfold recordWinners
      rw [hcur]
      show Function.update s.erasStakers _ (insertAll (s.erasStakers (eraOf (n + 2))) winners) = _
      rw [hbare]
      rfl
    have hold : ∀ era, era ≠ eraOf (n + 2) →
        (recordWinners winners (nextEra (n + 2) (takeOver s))).erasStakers era = s.erasStakers era := by
      intro era he
      rw [hrec, Function.update_of_ne he]
    refine ⟨⟨?_, ?_, hs.forceEra⟩, ?_, ?_, ?_, ?_, ?_⟩
    · simp [queueKeys, recordWinners, nextEra, hopen]
    · simp [queueKeys, recordWinners, nextEra, hopen, hstart.symm]
    · simp [queueKeys, recordWinners, nextEra, takeOver]
    · intro v
      exact (congrFun (hold 0 (by omega)) v).trans (hs.first v)
    · intro era v he
      have he' : eraOf (n + 2) < era := he
      exact (congrFun (hold era (by omega)) v).trans (hs.later era v (by omega))
    · have hne : eraOf (n + 1) ≠ eraOf (n + 2) := by omega
      show Good (eraOf (n + 1)) (s.queuedKeys.map Prod.fst) _
      exact (hold _ hne).symm ▸ hs.next
    · rw [queueKeys_validators]
      show Good (eraOf (n + 2)) _ ((recordWinners winners (nextEra (n + 2) (takeOver s))).erasStakers _)
      rw [hrec, Function.update_self, hnext]
      exact hwin (nextEra (n + 2) (takeOver s)) rfl winners hout _

/-- **All runs.** -/
theorem run_sessions {elect : Nominations A → Election A B G} {H : ℕ → Prop}
    {P : Submission A → Nominations A → StakingEntries A → Prop}
    (hforget : H 0 → ∀ era l x, Good era l x → Good era l fun _ => none)
    (hfail : ∀ queued nominators s era l x, P queued nominators (Storage.entries s) →
      tryDoElection (elect nominators) queued s = none → Good era l x → Good (era + 1) l fun _ => none)
    (hwin : ∀ queued nominators s era winners, P queued nominators (Storage.entries s) →
      tryDoElection (elect nominators) queued s = some winners → Good (era + 1) (winners.map Prod.fst) (ofList winners))
    {s : Storage A B G} (hstart : SessionInv Good 0 s) {n : ℕ} {t : Storage A B G}
    (h : Run (RotationStep elect H P) (Elsewhere H) s n t) : SessionInv Good n t := by
  have hkeeps : ∀ n (t u : Storage A B G) depth, SessionInv Good n t → H depth → Keeps depth t u →
      SessionInv Good n u := by
    intro n t u depth ht hdepth hkeeps
    refine ht.keeps (fun h0 => hforget ?_) hkeeps
    rw [← h0]
    exact hdepth
  refine Run.inv hstart ?_ ?_ h
  · rintro n t u ht ⟨queued, nominators, depth, hdepth, hp, hrot⟩
    refine hkeeps (n + 1) _ u depth (rotateSession_sessionInv ?_ ?_ ht) hdepth hrot
    · intro v hv hout era l x
      exact hfail queued nominators v era l x (hv ▸ hp) hout
    · intro v hv winners hout era
      exact hwin queued nominators v era winners (hv ▸ hp) hout
  · rintro n t u ht ⟨depth, hdepth, hkeep⟩
    exact hkeeps n t u depth ht hdepth hkeep

end Runs

/-! ## Chains -/

section Chains

variable {A B G : Type} [DecidableEq A] [DecidableEq B] [DecidableEq G] [Inhabited B] [Inhabited G]

/-- the third-party side of a chain after genesis -/
structure Chain (F : Framework A B G) where
  /-- Staking's `HistoryDepth` and `Nominators` -/
  historyDepth : F.Store → ℕ
  nominators : F.Store → Nominations A
  /-- the on-chain election under given nominations -/
  elect : Nominations A → Election A B G
  elect_nobody : elect (fun _ => none) = F.elect
  rotate : Submission A → ℕ → F.Store → F.Store
  rotate_law : ∀ queued n st, Rotates (historyDepth st) (sessionManager (elect (nominators st)) queued) n (F.view st)
    (F.view (rotate queued n st))

/-- the documented rotation and nothing else: nobody nominates, and the history depth is Staking's default -/
def referenceChain (profile : Profile) (treasury : A) (elect : Election A B G) :
    Chain (reference profile treasury elect) where
  historyDepth _ := 84
  nominators _ _ := none
  elect _ := elect
  elect_nobody := rfl
  rotate queued n s := rotateSession (sessionManager elect queued) n s
  rotate_law _ _ _ := ⟨rfl, fun _ _ => rfl, rfl, rfl, rfl, rfl, Forgets.refl _ _ _⟩

/-- runs of a chain: rotations, at each of which `P` holds, and anything in between that leaves sessions and eras
alone; the history depth satisfies `H` throughout -/
def Chain.Run {F : Framework A B G} (C : Chain F) (H : ℕ → Prop)
    (P : Submission A → Nominations A → StakingEntries A → Prop) (st : F.Store) : ℕ → F.Store → Prop :=
  Core.Run
    (fun n s t => H (C.historyDepth s) ∧ ∃ queued, P queued (C.nominators s) (F.view s).entries ∧ t = C.rotate queued n s)
    (fun s t => H (C.historyDepth t) ∧ Keeps (C.historyDepth t) (F.view s) (F.view t)) st

/-- what is visible of a run of the chain is a run of the documented one -/
theorem Chain.Run.view {F : Framework A B G} {C : Chain F} {H : ℕ → Prop}
    {P : Submission A → Nominations A → StakingEntries A → Prop} {st st' : F.Store} {n : ℕ} (h : C.Run H P st n st') :
    Core.Run (RotationStep C.elect H P) (Elsewhere H) (F.view st) n (F.view st') := by
  refine Core.Run.map (f := F.view) ?_ (fun _ t hstep => ⟨C.historyDepth t, hstep⟩) h
  rintro n s t ⟨hdepth, queued, hp, rfl⟩
  exact ⟨queued, C.nominators s, C.historyDepth s, hdepth, hp, C.rotate_law queued n s⟩

/-- on the reference chain a run goes on as long as one likes, if `P` admits the entries it has come to -/
theorem referenceChain_run (profile : Profile) (treasury : A) (elect : Election A B G) {H : ℕ → Prop} (hH : H 84)
    {P : Submission A → Nominations A → StakingEntries A → Prop} {s t : Storage A B G} {m : ℕ}
    (h : (referenceChain profile treasury elect).Run H P s m t) (hp : P none (fun _ => none) t.entries) (n : ℕ) :
    ∃ u, (referenceChain profile treasury elect).Run H P s (m + n) u := by
  suffices hrun : ∃ u : Storage A B G, (referenceChain profile treasury elect).Run H P s (m + n) u ∧
      u.entries = t.entries by
    obtain ⟨u, hu, -⟩ := hrun
    exact ⟨u, hu⟩
  induction n with
  | zero => exact ⟨t, h, rfl⟩
  | succ n ih =>
    obtain ⟨u, hu, he⟩ := ih
    refine ⟨_, .own hu ⟨hH, none, ?_, rfl⟩, ?_⟩
    · show P none (fun _ => none) u.entries
      rwa [he]
    · exact (rotateSession_entries elect none (m + n) u).trans he

end Chains

end NodeTemplate.Runtime
