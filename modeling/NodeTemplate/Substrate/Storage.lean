/-
Genesis storage of the Substrate 3.0 pallets this runtime is built from, and the genesis builders of Balances, Babe,
Grandpa and Treasury.

The pallets are third-party code. What is written here is their documented behaviour on the storage items the chain
specification is about, as executable definitions; `Runtime.Framework` takes the real builders as a parameter and
assumes exactly this of them. `none` is a failed assertion: the chain does not start.

- System: an account exists while something provides for it (`providers`); `incConsumers` refuses an account nothing
  provides for.
- Balances: every endowed balance is at least the existential deposit, no account is endowed twice, and the total
  issuance is the sum of the endowments.
- Babe and Grandpa: authorities are initialised once.
- Treasury: the treasury's account is brought up to the existential deposit; what is added is issued.
-/
import Mathlib.Tactic
import NodeTemplate.Core.Arith
import NodeTemplate.Core.Loop

namespace NodeTemplate.Substrate

open NodeTemplate.Core

/-! ## Data -/

/-- `impl_opaque_keys! SessionKeys`: one key for each consensus pallet -/
structure SessionKeys (B G : Type) where
  babe : B
  grandpa : G
deriving DecidableEq, Repr, Inhabited

/-- what System and Balances hold for an account -/
structure AccountInfo where
  providers : ℕ
  free : ℕ
deriving DecidableEq, Repr, Inhabited

structure StakingLedger (A : Type) where
  stash : A
  total : ℕ
  active : ℕ
deriving DecidableEq, Repr

/-- the stake behind a validator in an era -/
structure Exposure (A : Type) where
  total : ℕ
  own : ℕ
  others : List (A × ℕ)
deriving DecidableEq, Repr

/-- `pallet_staking::Forcing` -/
inductive Forcing where
  | notForcing
  | forceNew
  | forceNone
  | forceAlways
deriving DecidableEq, Repr

/-- the storage items the chain specification is about; accounts `A`, Babe keys `B`, Grandpa keys `G` -/
structure Storage (A B G : Type) where
  sudoKey : Option A
  account : A → AccountInfo
  totalIssuance : ℕ
  babeAuthorities : List B
  grandpaAuthorities : List G
  /-- Session: registered keys, and who owns a key -/
  nextKeys : A → Option (SessionKeys B G)
  babeOwner : B → Option A
  grandpaOwner : G → Option A
  /-- Session: the validators of session 0, and the keys queued for session 1 -/
  sessionValidators : List A
  queuedKeys : List (A × SessionKeys B G)
  /-- Staking -/
  validatorCount : ℕ
  minimumValidatorCount : ℕ
  invulnerables : List A
  forceEra : Forcing
  bonded : A → Option A
  ledger : A → Option (StakingLedger A)
  /-- the keys of the `Validators` map: who stands for election -/
  candidates : Finset A
  currentEra : Option ℕ
  erasStartSessionIndex : ℕ → Option ℕ
  erasStakers : ℕ → A → Option (Exposure A)

/-- nothing is built yet: every item has its default -/
def Storage.empty {A B G : Type} : Storage A B G where
  sudoKey := none
  account := fun _ => ⟨0, 0⟩
  totalIssuance := 0
  babeAuthorities := []
  grandpaAuthorities := []
  nextKeys := fun _ => none
  babeOwner := fun _ => none
  grandpaOwner := fun _ => none
  sessionValidators := []
  queuedKeys := []
  validatorCount := 0
  minimumValidatorCount := 0
  invulnerables := []
  forceEra := .notForcing
  bonded := fun _ => none
  ledger := fun _ => none
  candidates := ∅
  currentEra := none
  erasStartSessionIndex := fun _ => none
  erasStakers := fun _ _ => none

section Builders

variable {A B G : Type} [DecidableEq A]

/-! ## System and Balances -/

/-- `frame_system::inc_consumers`: the count itself is of no interest here, only that the account must exist -/
def incConsumers (who : A) (s : Storage A B G) : Option (Storage A B G) :=
  if 0 < (s.account who).providers then some s else none

/-- set a free balance; an account that had none and gets some is provided for from now on -/
def setFree (who : A) (value : ℕ) (m : A → AccountInfo) : A → AccountInfo :=
  let a := m who
  Function.update m who ⟨if a.free = 0 ∧ value ≠ 0 then a.providers + 1 else a.providers, value⟩

/-- Balances' genesis builder, on the configured endowments -/
def balancesBuild (p : Profile) (ed : ℕ) (balances : List (A × ℕ)) (s : Storage A B G) : Option (Storage A B G) :=
  if (∀ e ∈ balances, ed ≤ e.2) ∧ (balances.map Prod.fst).Nodup then
    (p.sum 128 (balances.map Prod.snd)).map fun issued =>
      { s with totalIssuance := issued, account := balances.foldl (fun m e => setFree e.1 e.2 m) s.account }
  else none

/-- Balances touches the accounts and the issuance only -/
theorem balancesBuild_writes {p : Profile} {ed : ℕ} {balances : List (A × ℕ)} {s t : Storage A B G}
    (h : balancesBuild p ed balances s = some t) :
    t = { s with totalIssuance := t.totalIssuance, account := t.account } := by
  unfold balancesBuild at h
  split_ifs at h
  obtain ⟨issued, -, rfl⟩ := Option.map_eq_some_iff.1 h
  rfl

/-! ## Consensus authorities -/

/-- `initialize_authorities` of Babe and Grandpa: nothing for an empty list, else an assertion that it is the first -/
def initializeAuthorities {K : Type} (old new : List K) : Option (List K) :=
  if new = [] then some old
  else if old = [] then some new
  else none

def babeBuild (authorities : List B) (s : Storage A B G) : Option (Storage A B G) :=
  (initializeAuthorities s.babeAuthorities authorities).map fun l => { s with babeAuthorities := l }

def grandpaBuild (authorities : List G) (s : Storage A B G) : Option (Storage A B G) :=
  (initializeAuthorities s.grandpaAuthorities authorities).map fun l => { s with grandpaAuthorities := l }

/-! ## Treasury -/

/-- Treasury's genesis builder: create the treasury's account with the existential deposit, unless it has it -/
def treasuryBuild (ed : ℕ) (treasury : A) (s : Storage A B G) : Storage A B G :=
  let free := (s.account treasury).free
  if free < ed then
    { s with
      account := setFree treasury ed s.account
      totalIssuance := min (s.totalIssuance + (ed - free)) (2 ^ 128 - 1) }
  else s

theorem treasuryBuild_writes (ed : ℕ) (treasury : A) (s : Storage A B G) :
    treasuryBuild ed treasury s = { s with
      totalIssuance := (treasuryBuild ed treasury s).totalIssuance
      account := (treasuryBuild ed treasury s).account } := by
  by_cases h : (s.account treasury).free < ed
  · simp only [treasuryBuild, if_pos h]
  · simp only [treasuryBuild, if_neg h]

end Builders

end NodeTemplate.Substrate
