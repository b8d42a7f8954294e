/-
Starting the node (node/src/service.rs): `new_partial`, `new_full`, `new_light`.

The three functions put third-party components together: each line builds one out of the earlier ones, and `?` leaves
the function at the first that fails. They are embedded as `Core.Script`s over the calls they make (`Op`), in the order
and with the arguments of the source; what a call returns is a handle that only later calls read, and is left out. The
world decides which of the fallible calls fail (`fallible`: those followed by `?`).

Results, for every configuration and every world:
- `newNode_follows`: the code follows the plan of its configuration (`nodePlan`), and with a remote keystore no plan at
  all: it is refused before anything is built, except by a light client, which has no such check;
- `node_runs_plan`: so every execution is a beginning of that plan, and the node is returned exactly if the network was
  started, which is the last thing done;
- `node_duties`: what a node ever does for consensus, also on the way to a failure. Only an authority starts BABE; only a
  full node or an authority with GRANDPA not disabled runs the voter, and only an authority's voter gets the keystore; a
  light client can author nothing.
-/
import Mathlib.Tactic
import NodeTemplate.Core.Plan

namespace NodeTemplate.Node

open NodeTemplate.Core

/-! ## Configuration -/

/-- `sc_service::Role` -/
inductive Role where
  | full
  | light
  | authority
deriving DecidableEq, Repr

def Role.isAuthority : Role → Bool
  | .authority => true
  | _ => false

/-- a set of peers of the network, beyond the default one -/
inductive PeersSet where
  | grandpa
  | named (protocol : String)
deriving DecidableEq, Repr

/-- the fields of `sc_service::Configuration` that the code reads itself -/
structure Configuration where
  keystoreRemote : Option String
  role : Role
  forceAuthoring : Bool
  disableGrandpa : Bool
  offchainWorkerEnabled : Bool
  nodeName : String
  extraSets : List PeersSet
deriving DecidableEq, Repr

/-! ## Calls -/

inductive CanAuthorWith where
  | nativeVersion
  | never
deriving DecidableEq, Repr

/-- the RPC methods of node/src/rpc.rs, or none -/
inductive RpcExtensions where
  | createFull
  | unit
deriving DecidableEq, Repr

/-- `sc_finality_grandpa::Config`; the duration is in milliseconds, a keystore is there or not -/
structure GrandpaConfig where
  gossipDuration : ℕ
  justificationPeriod : ℕ
  name : Option String
  observerEnabled : Bool
  keystore : Bool
  isAuthority : Bool
deriving DecidableEq, Repr

/-- `crate::cli::Subcommand` -/
inductive Subcommand where
  | key
  | buildSpec
  | checkBlock
  | exportBlocks
  | exportState
  | importBlocks
  | purgeChain
  | revert
  | benchmark
deriving DecidableEq, Repr

/-- the calls into third-party code, in the words of the source -/
inductive Op where
  | newFullParts
  | newLightParts
  | newFullPool (isAuthority : Bool)
  | newLightPool
  | grandpaBlockImport
  | babeConfig
  | babeBlockImport
  | babeImportQueue (canAuthorWith : CanAuthorWith)
  | buildNetwork (extraSets : List PeersSet) (onDemand : Bool)
  | buildOffchainWorkers
  | spawnTasks (rpcExtensions : RpcExtensions) (onDemand remoteBlockchain : Bool)
  | startBabe (forceAuthoring : Bool)
  | runGrandpaVoter (config : GrandpaConfig)
  | spawnBlocking (name : String)
  | startNetwork
  | createRunner
  | runCommand (subcommand : Subcommand)
  | runUntilExit (essential : List String)
deriving DecidableEq, Repr

/-- the calls that return a `Result` -/
def Op.fallible : Op → Bool
  | .newFullPool _ | .newLightPool | .buildOffchainWorkers | .spawnBlocking _ | .startNetwork => false
  | _ => true

/-- `sc_service::Error`: `Other` with its message, or what a component reported -/
inductive ServiceError (E : Type) where
  | other (message : String)
  | component (e : E)
deriving DecidableEq, Repr

abbrev Service (E : Type) := Script Op E Op.fallible (ServiceError E)

variable {E : Type}

/-- a call of a component, with `?` where it can fail -/
def build (op : Op) : Service E Unit := Script.call (fun _ => .component) op

/-- the names of the essential tasks spawned so far; one that ends takes the node down -/
abbrev TaskManager := List String

def TaskManager.spawnBlocking (taskManager : TaskManager) (name : String) : Service E TaskManager := do
  build (.spawnBlocking name)
  return taskManager ++ [name]

/-! ## The source -/

def newPartial (config : Configuration) : Service E TaskManager :=
  if config.keystoreRemote.isSome then
    Script.fail (.other "Remote Keystores are not supported.")
  else do
    build .newFullParts
    build (.newFullPool config.role.isAuthority)
    build .grandpaBlockImport
    build .babeConfig
    build .babeBlockImport
    build (.babeImportQueue .nativeVersion)
    return []

/-- the GRANDPA configuration of `new_full`; a node that does not take part in consensus gets no keystore -/
def grandpaConfig (role : Role) (name : String) : GrandpaConfig where
  gossipDuration := 333
  justificationPeriod := 512
  name := some name
  observerEnabled := false
  keystore := role.isAuthority
  isAuthority := role.isAuthority

/-- `if config.offchain_worker.enabled`, in `new_full` and `new_light` -/
def offchainWorkers (config : Configuration) : Service E Unit :=
  if config.offchainWorkerEnabled then build .buildOffchainWorkers else pure ()

/-- `if role.is_authority()` of `new_full`: BABE, as an essential task -/
def authoring (role : Role) (forceAuthoring : Bool) (taskManager : TaskManager) : Service E TaskManager :=
  if role.isAuthority then do
    build (.startBabe forceAuthoring)
    taskManager.spawnBlocking "babe"
  else return taskManager

/-- `if enable_grandpa` of `new_full`: the full GRANDPA voter, as an essential task -/
def voting (enableGrandpa : Bool) (config : GrandpaConfig) (taskManager : TaskManager) : Service E TaskManager :=
  if enableGrandpa then do
    build (.runGrandpaVoter config)
    taskManager.spawnBlocking "grandpa-voter"
  else return taskManager

def newFull (config : Configuration) : Service E TaskManager := do
  let taskManager ← newPartial config
  let role := config.role
  let forceAuthoring := config.forceAuthoring
  let name := config.nodeName
  let enableGrandpa := !config.disableGrandpa
  let config := { config with extraSets := config.extraSets ++ [PeersSet.grandpa] }
  build (.buildNetwork config.extraSets false)
  offchainWorkers config
  build (.spawnTasks .createFull false false)
  let taskManager ← authoring role forceAuthoring taskManager
  let taskManager ← voting enableGrandpa (grandpaConfig role name) taskManager
  build .startNetwork
  return taskManager

def newLight (config : Configuration) : Service E TaskManager := do
  build .newLightParts
  let config := { config with extraSets := config.extraSets ++ [PeersSet.grandpa] }
  build .newLightPool
  build .grandpaBlockImport
  build .babeConfig
  build .babeBlockImport
  build (.babeImportQueue .never)
  build (.buildNetwork config.extraSets true)
  offchainWorkers config
  build (.spawnTasks .unit true true)
  build .startNetwork
  return []

/-- the choice of command.rs between the two -/
def newNode (config : Configuration) : Service E TaskManager :=
  match config.role with
  | .light => newLight config
  | _ => newFull config

/-! ## Plans -/

def partialPlan (config : Configuration) : List Op :=
  [.newFullParts, .newFullPool config.role.isAuthority, .grandpaBlockImport, .babeConfig, .babeBlockImport,
    .babeImportQueue .nativeVersion]

/-- what an authority adds to a full node -/
def babePlan (config : Configuration) : List Op :=
  if config.role.isAuthority then [.startBabe config.forceAuthoring, .spawnBlocking "babe"] else []

def grandpaPlan (config : Configuration) : List Op :=
  if config.disableGrandpa then []
  else [.runGrandpaVoter (grandpaConfig config.role config.nodeName), .spawnBlocking "grandpa-voter"]

def offchainPlan (config : Configuration) : List Op :=
  if config.offchainWorkerEnabled then [.buildOffchainWorkers] else []

def fullPlan (config : Configuration) : List Op :=
  partialPlan config ++ .buildNetwork (config.extraSets ++ [.grandpa]) false :: (offchainPlan config ++
    .spawnTasks .createFull false false :: (babePlan config ++ (grandpaPlan config ++ [.startNetwork])))

def lightParts (config : Configuration) : List Op :=
  [.newLightParts, .newLightPool, .grandpaBlockImport, .babeConfig, .babeBlockImport, .babeImportQueue .never,
    .buildNetwork (config.extraSets ++ [.grandpa]) true]

def lightPlan (config : Configuration) : List Op :=
  lightParts config ++ (offchainPlan config ++ [.spawnTasks .unit true true, .startNetwork])

def nodePlan (config : Configuration) : List Op :=
  match config.role with
  | .light => lightPlan config
  | _ => fullPlan config

/-- the essential tasks of a full node -/
def essentialTasks (config : Configuration) : TaskManager :=
  (if config.role.isAuthority then ["babe"] else []) ++ if config.disableGrandpa then [] else ["grandpa-voter"]

/-! ## The code follows its plan -/

/-- how `new_partial`, `new_full` and `new_light` report the error of a component -/
def componentError (_ : Op) : E → ServiceError E := .component

theorem newPartial_follows {config : Configuration} (h : config.keystoreRemote = none) :
    Script.Follows componentError (newPartial config : Service E TaskManager) (partialPlan config) [] := by
  unfold newPartial
  rw [h]
  exact .andThen (.andThen (.andThen (.andThen (.andThen (.andThen (.pure _ _))))))

theorem spawnBlocking_follows (taskManager : TaskManager) (name : String) :
    Script.Follows componentError (taskManager.spawnBlocking name : Service E TaskManager) [.spawnBlocking name]
      (taskManager ++ [name]) :=
  .andThen (.pure _ _)

theorem offchainWorkers_follows (config : Configuration) :
    Script.Follows componentError (offchainWorkers config : Service E Unit) (offchainPlan config) () := by
  unfold offchainWorkers offchainPlan
  cases config.offchainWorkerEnabled with
  | false => exact .pure _ _
  | true => exact .call _ _

theorem authoring_follows (config : Configuration) (taskManager : TaskManager) :
    Script.Follows componentError (authoring config.role config.forceAuthoring taskManager : Service E TaskManager)
      (babePlan config) (taskManager ++ if config.role.isAuthority then ["babe"] else []) := by
  unfold authoring babePlan
  cases config.role.isAuthority with
  | false => exact (Script.Follows.pure _ taskManager).of_eq rfl (List.append_nil _).symm
  | true => exact .andThen (spawnBlocking_follows taskManager "babe")

theorem voting_follows (config : Configuration) (taskManager : TaskManager) :
    Script.Follows componentError
      (voting (!config.disableGrandpa) (grandpaConfig config.role config.nodeName) taskManager :
        Service E TaskManager)
      (grandpaPlan config) (taskManager ++ if config.disableGrandpa then [] else ["grandpa-voter"]) := by
  unfold voting grandpaPlan
  cases config.disableGrandpa with
  | false => exact .andThen (spawnBlocking_follows taskManager "grandpa-voter")
  | true => exact (Script.Follows.pure _ taskManager).of_eq rfl (List.append_nil _).symm

theorem newFull_follows {config : Configuration} (h : config.keystoreRemote = none) :
    Script.Follows componentError (newFull config : Service E TaskManager) (fullPlan config)
      (essentialTasks config) := by
  refine (newPartial_follows h).bind (.andThen ((offchainWorkers_follows config).bind (.andThen ?_)))
  exact (authoring_follows config []).bind ((voting_follows config _).bind (.andThen (.pure _ _)))

theorem newLight_follows (config : Configuration) :
    Script.Follows componentError (newLight config : Service E TaskManager) (lightPlan config) [] := by
  refine .andThen (.andThen (.andThen (.andThen (.andThen (.andThen (.andThen ?_))))))
  exact (offchainWorkers_follows config).bind (.andThen (.andThen (.pure _ _)))

/-! ## Every execution -/

/-- `new_partial`'s message for a configured remote keystore -/
def remoteKeystores : String := "Remote Keystores are not supported."

/-- a remote keystore is refused by every node but a light client -/
def Refused (config : Configuration) : Prop := config.role ≠ .light ∧ config.keystoreRemote.isSome

def nodeTasks (config : Configuration) : TaskManager := if config.role = .light then [] else essentialTasks config

theorem newPartial_refused {config : Configuration} (h : config.keystoreRemote.isSome) :
    (newPartial config : Service E TaskManager) = Script.fail (.other remoteKeystores) := by
  unfold newPartial
  rw [if_pos h]
  rfl

theorem newNode_refused {config : Configuration} (h : Refused config) :
    (newNode config : Service E TaskManager) = Script.fail (.other remoteKeystores) := by
  have hfull : (newFull config : Service E TaskManager) = Script.fail (.other remoteKeystores) := by
    unfold newFull
    rw [newPartial_refused h.2]
    rfl
  unfold newNode
  cases hrole : config.role with
  | light => exact absurd hrole h.1
  | full => exact hfull
  | authority => exact hfull

theorem newNode_follows {config : Configuration} (h : ¬ Refused config) :
    Script.Follows componentError (newNode config : Service E TaskManager) (nodePlan config) (nodeTasks config) := by
  have hnone : config.role ≠ .light → config.keystoreRemote = none := by
    intro hrole
    cases hk : config.keystoreRemote with
    | none => rfl
    | some url => exact absurd ⟨hrole, by rw [hk]; rfl⟩ h
  unfold newNode nodePlan nodeTasks
  cases hrole : config.role with
  | light => exact newLight_follows config
  | full => exact newFull_follows (hnone (by rw [hrole]; decide))
  | authority => exact newFull_follows (hnone (by rw [hrole]; decide))

/-- starting the network is the last step of a plan, and no other -/
theorem nodePlan_last (config : Configuration) :
    ∃ steps, nodePlan config = steps ++ [.startNetwork] ∧ Op.startNetwork ∉ steps := by
  have hoff : Op.startNetwork ∉ offchainPlan config := by
    unfold offchainPlan
    split_ifs <;> simp
  have hbabe : Op.startNetwork ∉ babePlan config := by
    unfold babePlan
    split_ifs <;> simp
  have hgrandpa : Op.startNetwork ∉ grandpaPlan config := by
    unfold grandpaPlan
    split_ifs <;> simp
  have hfull : ∃ steps, fullPlan config = steps ++ [.startNetwork] ∧ Op.startNetwork ∉ steps := by
    refine ⟨partialPlan config ++ .buildNetwork (config.extraSets ++ [.grandpa]) false :: (offchainPlan config ++
      .spawnTasks .createFull false false :: (babePlan config ++ grandpaPlan config)), ?_, ?_⟩
    · simp [fullPlan]
    · simp [partialPlan, hoff, hbabe, hgrandpa]
  unfold nodePlan
  cases config.role with
  | full => exact hfull
  | authority => exact hfull
  | light =>
    refine ⟨lightParts config ++ (offchainPlan config ++ [.spawnTasks .unit true true]), ?_, ?_⟩
    · simp [lightPlan]
    · simp [lightParts, hoff]

/-- **Every execution.** A remote keystore is refused before anything is called. Otherwise the node goes through its plan,
to the end, or to the first call that fails, one that can. And the network is started exactly if the node is returned. -/
theorem node_runs_plan (config : Configuration) (w : World Op E Op.fallible) :
    (Refused config ∧ newNode config w [] = (.error (.other remoteKeystores), []) ∨
      ¬ Refused config ∧ newNode config w [] = (.ok (nodeTasks config), nodePlan config) ∨
      ¬ Refused config ∧ ∃ p op q e, nodePlan config = p ++ op :: q ∧ op.fallible = true ∧ w.error p op = some e ∧
        newNode config w [] = (.error (.component e), p)) ∧
    (Op.startNetwork ∈ (newNode config w []).2 ↔ ∃ taskManager, (newNode config w []).1 = .ok taskManager) := by
  by_cases href : Refused config
  · have hout : newNode config w [] = (.error (.other remoteKeystores), []) := by
      rw [newNode_refused href]
      rfl
    refine ⟨Or.inl ⟨href, hout⟩, ?_⟩
    rw [hout]
    simp
  · obtain ⟨steps, hlast, hnot⟩ := nodePlan_last config
    rcases (newNode_follows href).outcome w with hok | ⟨p, op, q, e, hplan, he, herr⟩
    · refine ⟨Or.inr (Or.inl ⟨href, hok⟩), ?_⟩
      rw [hok, hlast]
      simp
    · have hfallible : op.fallible = true := by
        by_contra hf
        rw [w.infallible p op (by simpa using hf)] at he
        cases he
      refine ⟨Or.inr (Or.inr ⟨href, p, op, q, e, hplan, hfallible, he, herr⟩), ?_⟩
      -- a beginning that leaves a call out leaves the last one out
      have hp : p <+: steps := by
        have hpre : p ++ [op] <+: steps ++ [.startNetwork] := by
          rw [← hlast, hplan]
          exact ⟨q, by simp⟩
        rcases List.prefix_concat_iff.1 hpre with heq | hpre
        · obtain ⟨rfl, -⟩ := List.append_singleton_inj.1 heq
          exact List.prefix_refl _
        · exact (List.prefix_append p [op]).trans hpre
      have hout : Op.startNetwork ∉ p := fun h => hnot (hp.subset h)
      rw [herr]
      simp [hout]

/-! ## Duties -/

/-- what a call of a node says about its configuration -/
def Allowed (config : Configuration) : Op → Prop
  | .newFullParts => config.role ≠ .light ∧ config.keystoreRemote = none
  | .newLightParts => config.role = .light
  | .babeImportQueue canAuthorWith => canAuthorWith = .never ↔ config.role = .light
  | .buildNetwork extraSets onDemand =>
    extraSets = config.extraSets ++ [.grandpa] ∧ (onDemand = true ↔ config.role = .light)
  | .buildOffchainWorkers => config.offchainWorkerEnabled = true
  | .spawnTasks rpcExtensions _ _ => rpcExtensions = .unit ↔ config.role = .light
  | .startBabe forceAuthoring => config.role = .authority ∧ forceAuthoring = config.forceAuthoring
  | .runGrandpaVoter c =>
    config.role ≠ .light ∧ config.disableGrandpa = false ∧ c = grandpaConfig config.role config.nodeName
  | .createRunner | .runCommand _ | .runUntilExit _ => False
  | _ => True

theorem offchainPlan_allowed (config : Configuration) : ∀ op ∈ offchainPlan config, Allowed config op := by
  unfold offchainPlan
  split_ifs with henabled
  · simp [Allowed, henabled]
  · simp

theorem babePlan_allowed (config : Configuration) : ∀ op ∈ babePlan config, Allowed config op := by
  unfold babePlan
  cases hrole : config.role with
  | authority => simp [Role.isAuthority, Allowed, hrole]
  | full => simp [Role.isAuthority]
  | light => simp [Role.isAuthority]

theorem grandpaPlan_allowed {config : Configuration} (hrole : config.role ≠ .light) :
    ∀ op ∈ grandpaPlan config, Allowed config op := by
  unfold grandpaPlan
  split_ifs with hdis
  · simp
  · simp [Allowed, hrole, hdis]

theorem fullPlan_allowed {config : Configuration} (hrole : config.role ≠ .light)
    (hkeystore : config.keystoreRemote = none) : ∀ op ∈ fullPlan config, Allowed config op := by
  have hparts : ∀ op ∈ partialPlan config, Allowed config op := by
    simp [partialPlan, Allowed, hrole, hkeystore]
  simp only [fullPlan, List.forall_mem_append, List.forall_mem_cons]
  refine ⟨hparts, ?_, offchainPlan_allowed config, ?_, babePlan_allowed config, grandpaPlan_allowed hrole, ?_, ?_⟩
  · simp [Allowed, hrole]
  · simp [Allowed, hrole]
  · exact trivial
  · simp

theorem lightPlan_allowed {config : Configuration} (hrole : config.role = .light) :
    ∀ op ∈ lightPlan config, Allowed config op := by
  simp only [lightPlan, List.forall_mem_append]
  refine ⟨?_, offchainPlan_allowed config, ?_⟩
  · simp [lightParts, Allowed, hrole]
  · simp [Allowed, hrole]

theorem nodePlan_allowed {config : Configuration} (h : ¬ Refused config) :
    ∀ op ∈ nodePlan config, Allowed config op := by
  have hfull : config.role ≠ .light → ∀ op ∈ fullPlan config, Allowed config op := by
    intro hrole
    refine fullPlan_allowed hrole ?_
    simpa [Refused, hrole] using h
  unfold nodePlan
  cases hrole : config.role with
  | light => exact lightPlan_allowed hrole
  | full => exact hfull (by rw [hrole]; decide)
  | authority => exact hfull (by rw [hrole]; decide)

/-- **Duties.** Every call a node ever makes, whether it comes up or fails on the way, is one its configuration allows: only
an authority starts BABE, nobody votes with GRANDPA disabled, only an authority's voter has the keystore, the GRANDPA
peers are joined all the same, and a light client neither authors nor votes. The essential tasks of a node that is
returned are those of its duties. -/
theorem node_duties (config : Configuration) (w : World Op E Op.fallible) :
    (∀ op ∈ (newNode config w []).2, Allowed config op) ∧
    ∀ taskManager, (newNode config w []).1 = .ok taskManager →
      ("babe" ∈ taskManager ↔ config.role = .authority) ∧
      ("grandpa-voter" ∈ taskManager ↔ config.role ≠ .light ∧ config.disableGrandpa = false) := by
  by_cases href : Refused config
  · rw [newNode_refused href]
    refine ⟨fun op hop => ?_, fun taskManager h => ?_⟩
    · cases hop
    · cases h
  · have hfollows := newNode_follows (E := E) href
    refine ⟨fun op hop => nodePlan_allowed href op ((hfollows.prefix_of w).subset hop), fun taskManager h => ?_⟩
    rcases hfollows.outcome w with hok | ⟨p, op, q, e, -, -, herr⟩
    · rw [hok] at h
      cases h
      unfold nodeTasks essentialTasks
      cases config.role <;> cases config.disableGrandpa <;> simp [Role.isAuthority]
    · rw [herr] at h
      cases h

end NodeTemplate.Node
