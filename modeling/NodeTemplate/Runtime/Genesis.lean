/-
The runtime's genesis: `construct_runtime!` (runtime/src/lib.rs), the configuration the genesis builders read, and the
build of a `GenesisConfig`.

`constructRuntime` is the declaration list with its parts, in order. A pallet declared with the part `Config` has a
section in `GenesisConfig` and a genesis builder; the builders run in declaration order, each on the storage the earlier
ones left (`buildStorage`).

PREMISE. The builders are third-party code (Substrate 3.0). `Framework` takes them as a parameter over an opaque store
of which only the items of `Substrate.Storage` are visible. Its one law, `build_law`, says that a builder acts on the
visible items as documented (`documentedBuild`), for configurations in which the sections this chain leaves empty are
empty. Nothing is assumed about the rest of the store. `reference` is the framework that is nothing but the documented
behaviour: the premise is satisfiable, and witnesses run on it.

`view_buildStorage`: the whole build acts on the visible items as the documented builders do, in the same order.
-/
import Mathlib.Tactic
import NodeTemplate.Runtime.Constants
import NodeTemplate.Substrate.Validators

namespace NodeTemplate.Runtime

open NodeTemplate.Core NodeTemplate.Substrate

/-! ## The declaration -/

inductive Pallet where
  | sudo
  | system
  | balances
  | indices
  | timestamp
  | transactionPayment
  | randomnessCollectiveFlip
  | authorship
  | babe
  | grandpa
  | session
  | staking
  | historical
  | council
  | technicalCommittee
  | technicalMembership
  | electionsPhragmen
  | treasury
  | bounties
  | tips
  | multisig
  | recovery
  | scheduler
  | proxy
  | utility
  | templateModule
deriving DecidableEq, Repr

/-- what a pallet contributes to the runtime -/
inductive Part where
  | module
  | call
  | storage
  | event
  | config
  | origin
  | inherent
  | validateUnsigned
deriving DecidableEq, Repr

def constructRuntime : List (Pallet × List Part) :=
  [(.sudo, [.module, .call, .config, .storage, .event]),
   (.system, [.module, .call, .config, .storage, .event]),
   (.balances, [.module, .call, .storage, .config, .event]),
   (.indices, [.module, .call, .storage, .config, .event]),
   (.timestamp, [.module, .call, .storage, .inherent]),
   (.transactionPayment, [.module, .storage]),
   (.randomnessCollectiveFlip, [.module, .call, .storage]),
   (.authorship, [.module, .call, .storage, .inherent]),
   (.babe, [.module, .call, .storage, .config, .validateUnsigned]),
   (.grandpa, [.module, .call, .storage, .config, .event, .validateUnsigned]),
   (.session, [.module, .call, .storage, .event, .config]),
   (.staking, [.module, .call, .config, .storage, .event]),
   (.historical, [.module]),
   (.council, [.module, .call, .storage, .origin, .event, .config]),
   (.technicalCommittee, [.module, .call, .storage, .origin, .event, .config]),
   (.technicalMembership, [.module, .call, .storage, .event, .config]),
   (.electionsPhragmen, [.module, .call, .storage, .event, .config]),
   (.treasury, [.module, .call, .storage, .config, .event]),
   (.bounties, [.module, .call, .storage, .event]),
   (.tips, [.module, .call, .storage, .event]),
   (.multisig, [.module, .call, .storage, .event]),
   (.recovery, [.module, .call, .storage, .event]),
   (.scheduler, [.module, .call, .storage, .event]),
   (.proxy, [.module, .call, .storage, .event]),
   (.utility, [.module, .call, .event]),
   (.templateModule, [.module, .call, .storage, .event])]

/-- the pallets of a declaration list that have a genesis builder, in the order the builders run -/
def genesisOrder (decls : List (Pallet × List Part)) : List Pallet :=
  (decls.filter fun d => .config ∈ d.2).map Prod.fst

/-! ## Configuration -/

/-- the genesis configuration, one section for each declared `Config` -/
structure GenesisConfig (A B G : Type) where
  systemCode : List UInt8
  sudoKey : A
  balances : List (A × ℕ)
  babeAuthorities : List B
  grandpaAuthorities : List G
  indices : List (ℕ × A)
  sessionKeys : List (A × A × SessionKeys B G)
  staking : StakingConfig A
  councilMembers : List A
  technicalCommitteeMembers : List A
  technicalMembershipMembers : List A
  electionsPhragmenMembers : List (A × ℕ)

/-- the sections this chain leaves empty are empty, and every configured staker is a validator -/
structure GenesisConfig.Plain {A B G : Type} (cfg : GenesisConfig A B G) : Prop where
  indices : cfg.indices = []
  council : cfg.councilMembers = []
  technicalCommittee : cfg.technicalCommitteeMembers = []
  technicalMembership : cfg.technicalMembershipMembers = []
  electionsPhragmen : cfg.electionsPhragmenMembers = []
  validators : ∀ x ∈ cfg.staking.stakers, x.status = .validator

/-- what the `Config` impls of this runtime set for the genesis builders -/
structure GenesisParams (A B G : Type) where
  existentialDeposit : ℕ
  sessionManager : SessionManager A B G

section SessionManager

variable {A B G : Type} [DecidableEq A]

/-- `pallet_session::Config::SessionManager`: `NoteHistoricalRoot<Self, Staking>`, `queued` being the election solution
then stored -/
def sessionManager (elect : Election A B G) (queued : Submission A) : SessionManager A B G :=
  noteHistoricalRoot (newSessionExposed elect queued sessionsPerEra)

/-- `pallet_balances::Config::ExistentialDeposit`, and the session manager when nothing is submitted yet -/
def genesisParams (elect : Election A B G) : GenesisParams A B G where
  existentialDeposit := existentialDeposit
  sessionManager := sessionManager elect none

/-! ## The session manager before there are candidates -/

/-- era 0 opened at session 0 -/
def openEra (s : Storage A B G) : Storage A B G :=
  { s with currentEra := some 0, erasStartSessionIndex := Function.update s.erasStartSessionIndex 0 (some 0) }

/-- no candidates, no election: era 0 is opened and there are no validators -/
theorem sessionManager_zero (elect : Election A B G) {s : Storage A B G} (hera : s.currentEra = none)
    (hc : s.candidates = ∅) : (genesisParams elect).sessionManager 0 s = (none, openEra s) := by
  have hcard : s.candidates.card < max s.minimumValidatorCount 1 := by rw [hc, Finset.card_empty]; omega
  simp [genesisParams, sessionManager, noteHistoricalRoot, newSessionExposed, newSession, newEra, nextEra, tryDoElection,
    doPhragmen, hera, hcard, openEra]

/-- one session into an era of three, nothing is elected either -/
theorem sessionManager_one (elect : Election A B G) {s : Storage A B G} (hf : s.forceEra = .notForcing) :
    (genesisParams elect).sessionManager 1 (openEra s) = (none, openEra s) := by
  simp [genesisParams, sessionManager, noteHistoricalRoot, newSessionExposed, newSession, openEra, hf, sessionsPerEra]

/-- what the builders before Staking leave of the items Session reads: no era, no candidates, no authorities -/
structure PreStaking (s : Storage A B G) : Prop where
  currentEra : s.currentEra = none
  erasStakers : s.erasStakers = fun _ _ => none
  candidates : s.candidates = ∅
  forceEra : s.forceEra = .notForcing
  babeAuthorities : s.babeAuthorities = []
  grandpaAuthorities : s.grandpaAuthorities = []

/-- session 0 started with the fallback validators -/
def startFallback [Inhabited B] [Inhabited G] (fallback : List A) (s : Storage A B G) : Storage A B G :=
  { openEra s with
    sessionValidators := fallback
    queuedKeys := fallback.map fun v => (v, (s.nextKeys v).getD default)
    babeAuthorities := fallback.map fun v => ((s.nextKeys v).getD default).babe
    grandpaAuthorities := fallback.map fun v => ((s.nextKeys v).getD default).grandpa }

/-- **The silent fallback.** Before Staking's builder has run, Session starts with the validators of its own list. -/
theorem sessionStart_fallback [Inhabited B] [Inhabited G] (elect : Election A B G) (fallback : List A)
    {s : Storage A B G} (h : PreStaking s) :
    sessionStart (genesisParams elect).sessionManager fallback s =
      if fallback ≠ [] then some (startFallback fallback s) else none := by
  have h0 := sessionManager_zero elect h.currentEra h.candidates
  have h1 := sessionManager_one elect h.forceEra
  have hb : (openEra s).babeAuthorities = [] := h.babeAuthorities
  have hg : (openEra s).grandpaAuthorities = [] := h.grandpaAuthorities
  have hk : (openEra s).nextKeys = s.nextKeys := rfl
  rw [sessionStart]
  simp only [h0, h1, Option.getD_none]
  by_cases hf : fallback = []
  · simp [hf]
  · simp [hf, babeBuild, grandpaBuild, initializeAuthorities, hb, hg, hk, startFallback, Function.comp_def]

/-! ## The session manager with candidates -/

/-- candidates enough and an election: era 0 is opened with the winners' exposures -/
theorem sessionManager_zero_elected (elect : Election A B G) {s : Storage A B G} (hera : s.currentEra = none)
    {winners : List (A × Exposure A)} (h : doPhragmen elect (openEra s) = some winners) :
    (genesisParams elect).sessionManager 0 s = (some (winners.map Prod.fst), { openEra s with
      erasStakers := Function.update s.erasStakers 0 (insertAll (s.erasStakers 0) winners) }) := by
  unfold openEra at h
  simp [genesisParams, sessionManager, noteHistoricalRoot, newSessionExposed, newSession, newEra, nextEra, tryDoElection,
    recordWinners, hera, h, openEra, Function.comp_def]

/-- **Session with an election.** Where Staking has candidates to elect, session 0 starts with the winners, and era 0
holds their exposures. -/
theorem sessionStart_elected [Inhabited B] [Inhabited G] (elect : Election A B G) (fallback : List A)
    {s : Storage A B G} (hera : s.currentEra = none) (hexp : s.erasStakers = fun _ _ => none)
    (hforce : s.forceEra = .notForcing) (hbabe : s.babeAuthorities = []) (hgrandpa : s.grandpaAuthorities = [])
    {winners : List (A × Exposure A)} (h : doPhragmen elect (openEra s) = some winners) (hne : winners ≠ []) :
    ∃ t, sessionStart (genesisParams elect).sessionManager fallback s = some t ∧
      t.sessionValidators = winners.map Prod.fst ∧ t.erasStakers 0 = ofList winners := by
  have h0 := sessionManager_zero_elected elect hera h
  set u : Storage A B G := { s with
    erasStakers := Function.update s.erasStakers 0 (insertAll (s.erasStakers 0) winners) } with hu
  have h1 := sessionManager_one elect (s := u) hforce
  have hopen : { openEra s with
      erasStakers := Function.update s.erasStakers 0 (insertAll (s.erasStakers 0) winners) } = openEra u := rfl
  have hbabe' : (openEra u).babeAuthorities = [] := hbabe
  have hgrandpa' : (openEra u).grandpaAuthorities = [] := hgrandpa
  rw [sessionStart, h0, hopen]
  simp only [h1, Option.getD_some, Option.getD_none]
  simp only [hne, babeBuild, grandpaBuild, initializeAuthorities, hbabe', hgrandpa', List.map_eq_nil_iff, ne_eq,
    not_false_eq_true, guard, if_true, if_false, Option.bind_eq_bind, Option.bind_some, Option.pure_def,
    Option.map_some]
  refine ⟨_, rfl, rfl, ?_⟩
  show Function.update s.erasStakers 0 (insertAll (s.erasStakers 0) winners) 0 = ofList winners
  rw [Function.update_self, hexp]
  rfl
end SessionManager

section Framework

variable {A B G : Type} [DecidableEq A] [DecidableEq B] [DecidableEq G] [Inhabited B] [Inhabited G]

/-- documented behaviour of one pallet's genesis builder -/
def documentedBuild (profile : Profile) (treasury : A) (params : GenesisParams A B G) (cfg : GenesisConfig A B G)
    (s : Storage A B G) : Pallet → Option (Storage A B G)
  | .sudo => some { s with sudoKey := some cfg.sudoKey }
  | .balances => balancesBuild profile params.existentialDeposit cfg.balances s
  | .babe => babeBuild cfg.babeAuthorities s
  | .grandpa => grandpaBuild cfg.grandpaAuthorities s
  | .session => sessionBuild params.sessionManager cfg.sessionKeys s
  | .staking => stakingBuild params.existentialDeposit cfg.staking s
  | .treasury => some (treasuryBuild params.existentialDeposit treasury s)
  | _ => some s

/-- the third-party side of a genesis build -/
structure Framework (A B G : Type) [DecidableEq A] [DecidableEq B] [DecidableEq G] [Inhabited B] [Inhabited G] where
  /-- the whole storage, and its items that are visible here -/
  Store : Type
  empty : Store
  view : Store → Storage A B G
  /-- the profile the node is compiled with -/
  profile : Profile
  /-- the account derived from `TreasuryModuleId` -/
  treasury : A
  /-- sequential Phragmen, with the exposures of the winners, while nobody nominates: genesis makes no nominator -/
  elect : Election A B G
  build : GenesisParams A B G → GenesisConfig A B G → Store → Pallet → Option Store
  view_empty : view empty = Storage.empty
  build_law : ∀ params cfg s p, cfg.Plain →
    (build params cfg s p).map view = documentedBuild profile treasury params cfg (view s) p

/-- the documented behaviour and nothing else -/
def reference (profile : Profile) (treasury : A) (elect : Election A B G) : Framework A B G where
  Store := Storage A B G
  empty := .empty
  view := id
  profile := profile
  treasury := treasury
  elect := elect
  build := documentedBuild profile treasury
  view_empty := rfl
  build_law _ _ _ _ _ := Option.map_id_apply

/-! ## The build -/

/-- build the storage of a genesis configuration: the builders of the declared pallets, in declaration order -/
def Framework.buildStorage (F : Framework A B G) (decls : List (Pallet × List Part)) (cfg : GenesisConfig A B G) :
    Option F.Store :=
  (genesisOrder decls).foldlM (F.build (genesisParams F.elect) cfg) F.empty

/-- the same with the documented builders -/
def documentedStorage (profile : Profile) (treasury : A) (elect : Election A B G) (decls : List (Pallet × List Part))
    (cfg : GenesisConfig A B G) : Option (Storage A B G) :=
  (genesisOrder decls).foldlM (documentedBuild profile treasury (genesisParams elect) cfg) .empty

/-- **The build refines its documented form**, for every declaration order -/
theorem view_buildStorage (F : Framework A B G) (decls : List (Pallet × List Part)) (cfg : GenesisConfig A B G)
    (h : cfg.Plain) :
    (F.buildStorage decls cfg).map F.view = documentedStorage F.profile F.treasury F.elect decls cfg := by
  rw [Framework.buildStorage, documentedStorage, ← F.view_empty]
  exact foldlM_view (fun s p _ => F.build_law _ cfg s p h) F.empty

end Framework

end NodeTemplate.Runtime
