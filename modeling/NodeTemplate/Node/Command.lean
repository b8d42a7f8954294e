/-
The command line (node/src/command.rs): `run`.

Every subcommand but `key` first makes a runner, which gives the configuration. Five of them need a client and take it
from `new_partial`; without a subcommand the node itself is started, light or full by its role.

Results, for every subcommand, configuration and world:
- `run_follows`: `run` follows the plan of the command (`commandPlan`), unless it is refused: benchmarks without the
  feature, and a remote keystore wherever `new_partial` is used;
- `remote_keystore_refused`: the latter exactly there, with nothing but the runner made. `key`, `build-spec`,
  `purge-chain`, `benchmark` and a light client do not look at it;
- `goes_online_iff`: `run` goes online (builds or starts the network, starts BABE, votes, serves RPC) exactly where it starts
  a node and gets as far as building the network, or where it gets to a command whose own run does. The latter is
  third-party code, a parameter;
- `subcommands_offline`: so no subcommand does, if no command's own run does.
-/
import Mathlib.Tactic
import NodeTemplate.Node.Service

namespace NodeTemplate.Node

open NodeTemplate.Core

/-- `sc_cli::Error`: a service error, a complaint about the input, or anything else -/
inductive CliError (E : Type) where
  | service (e : ServiceError E)
  | input (message : String)
  | cli (e : E)
deriving DecidableEq, Repr

abbrev Command (E : Type) := Script Op E Op.fallible (CliError E)

variable {E : Type}

/-- how the error of a call reaches the user: those of the node's components as service errors -/
def cliError : Op → E → CliError E
  | .createRunner, e => .cli e
  | .runCommand _, e => .cli e
  | .runUntilExit _, e => .cli e
  | _, e => .service (.component e)

/-- `Err("…".into())` of the benchmark subcommand -/
def benchmarkDisabled : String :=
  "Benchmarking wasn't enabled when building the node. You can enable it with `--features runtime-benchmarks`."

/-- `runner.sync_run`: the command alone -/
def syncRun (subcommand : Subcommand) : Command E Unit := do
  Script.call cliError .createRunner
  Script.call cliError (.runCommand subcommand)

/-- `runner.async_run`: the command on what `new_partial` gives -/
def asyncRun (subcommand : Subcommand) (config : Configuration) : Command E Unit := do
  Script.call cliError .createRunner
  let _ ← (newPartial config).mapError .service
  Script.call cliError (.runCommand subcommand)

/-- `run`; `runtimeBenchmarks` is the feature the node is compiled with, `config` the configuration the runner gives -/
def run (runtimeBenchmarks : Bool) (config : Configuration) : Option Subcommand → Command E Unit
  | some .key => Script.call cliError (.runCommand .key)
  | some .buildSpec => syncRun .buildSpec
  | some .checkBlock => asyncRun .checkBlock config
  | some .exportBlocks => asyncRun .exportBlocks config
  | some .exportState => asyncRun .exportState config
  | some .importBlocks => asyncRun .importBlocks config
  | some .purgeChain => syncRun .purgeChain
  | some .revert => asyncRun .revert config
  | some .benchmark => if runtimeBenchmarks then syncRun .benchmark else Script.fail (.input benchmarkDisabled)
  | none => do
    Script.call cliError .createRunner
    let taskManager ← (newNode config).mapError .service
    Script.call cliError (.runUntilExit taskManager)

/-! ## Plans -/

/-- the commands that go through `new_partial` -/
def needsClient : Subcommand → Bool
  | .checkBlock | .exportBlocks | .exportState | .importBlocks | .revert => true
  | _ => false

def subcommandPlan (config : Configuration) (subcommand : Subcommand) : List Op :=
  (if subcommand = .key then [] else [.createRunner]) ++
    ((if needsClient subcommand then partialPlan config else []) ++ [.runCommand subcommand])

def commandPlan (config : Configuration) : Option Subcommand → List Op
  | some subcommand => subcommandPlan config subcommand
  | none => .createRunner :: (nodePlan config ++ [.runUntilExit (nodeTasks config)])

/-- where a remote keystore is looked at -/
def LooksAtKeystore (config : Configuration) : Option Subcommand → Prop
  | some subcommand => needsClient subcommand = true
  | none => config.role ≠ .light

/-! ## `run` follows its plan -/

/-- the calls of the service, as opposed to the command line's own -/
def Op.ofService : Op → Bool
  | .createRunner | .runCommand _ | .runUntilExit _ => false
  | _ => true

theorem cliError_ofService {op : Op} (h : op.ofService = true) (e : E) :
    CliError.service (componentError op e) = cliError op e := by
  cases op with
  | createRunner => cases h
  | runCommand _ => cases h
  | runUntilExit _ => cases h
  | _ => rfl

theorem partialPlan_ofService (config : Configuration) : ∀ op ∈ partialPlan config, op.ofService = true := by
  simp [partialPlan, Op.ofService]

theorem Allowed.ofService {config : Configuration} {op : Op} (h : Allowed config op) : op.ofService = true := by
  cases op with
  | createRunner => exact absurd h id
  | runCommand _ => exact absurd h id
  | runUntilExit _ => exact absurd h id
  | _ => rfl

theorem syncRun_follows (subcommand : Subcommand) :
    Script.Follows cliError (syncRun subcommand : Command E Unit) [.createRunner, .runCommand subcommand] () :=
  .andThen (.call _ _)

theorem asyncRun_follows (subcommand : Subcommand) {config : Configuration} (h : config.keystoreRemote = none) :
    Script.Follows cliError (asyncRun subcommand config : Command E Unit)
      (.createRunner :: (partialPlan config ++ [.runCommand subcommand])) () := by
  have hparts : Script.Follows cliError ((newPartial config).mapError CliError.service : Command E TaskManager)
      (partialPlan config) [] :=
    (newPartial_follows h).mapError fun op hop => cliError_ofService (partialPlan_ofService config op hop)
  exact .andThen (hparts.bind (f := fun _ => Script.call cliError (.runCommand subcommand)) (.call _ _))

theorem nodeRun_follows {config : Configuration} (h : ¬ Refused config) (runtimeBenchmarks : Bool) :
    Script.Follows cliError (run runtimeBenchmarks config none : Command E Unit) (commandPlan config none) () := by
  have hnode : Script.Follows cliError ((newNode config).mapError CliError.service : Command E TaskManager)
      (nodePlan config) (nodeTasks config) :=
    (newNode_follows h).mapError fun op hop => cliError_ofService (nodePlan_allowed h op hop).ofService
  exact .andThen (hnode.bind (f := fun taskManager => Script.call cliError (.runUntilExit taskManager)) (.call _ _))

/-- **`run` follows its plan**, unless it is refused -/
theorem run_follows {runtimeBenchmarks : Bool} {config : Configuration} {subcommand : Option Subcommand}
    (hbench : subcommand = some .benchmark → runtimeBenchmarks = true)
    (hkeystore : LooksAtKeystore config subcommand → config.keystoreRemote = none) :
    Script.Follows cliError (run runtimeBenchmarks config subcommand : Command E Unit) (commandPlan config subcommand)
      () := by
  cases subcommand with
  | none =>
    refine nodeRun_follows ?_ runtimeBenchmarks
    rintro ⟨hrole, hsome⟩
    rw [hkeystore hrole] at hsome
    cases hsome
  | some subcommand =>
    cases subcommand with
    | key => exact .call _ _
    | buildSpec => exact syncRun_follows .buildSpec
    | checkBlock => exact asyncRun_follows .checkBlock (hkeystore rfl)
    | exportBlocks => exact asyncRun_follows .exportBlocks (hkeystore rfl)
    | exportState => exact asyncRun_follows .exportState (hkeystore rfl)
    | importBlocks => exact asyncRun_follows .importBlocks (hkeystore rfl)
    | purgeChain => exact syncRun_follows .purgeChain
    | revert => exact asyncRun_follows .revert (hkeystore rfl)
    | benchmark =>
      rw [hbench rfl]
      exact syncRun_follows .benchmark

/-! ## Results -/

theorem asyncRun_refused (subcommand : Subcommand) {config : Configuration} (h : config.keystoreRemote.isSome) :
    (asyncRun subcommand config : Command E Unit) =
      Script.call cliError .createRunner >>= fun _ => Script.fail (.service (.other remoteKeystores)) := by
  unfold asyncRun
  rw [newPartial_refused h]
  rfl

/-- with a remote keystore, what looks at it stops after the runner -/
theorem run_refused {runtimeBenchmarks : Bool} {config : Configuration} {subcommand : Option Subcommand}
    (hlooks : LooksAtKeystore config subcommand) (h : config.keystoreRemote.isSome) :
    (run runtimeBenchmarks config subcommand : Command E Unit) =
      Script.call cliError .createRunner >>= fun _ => Script.fail (.service (.other remoteKeystores)) := by
  cases subcommand with
  | none =>
    unfold run
    rw [newNode_refused ⟨hlooks, h⟩]
    rfl
  | some subcommand =>
    cases subcommand with
    | checkBlock => exact asyncRun_refused _ h
    | exportBlocks => exact asyncRun_refused _ h
    | exportState => exact asyncRun_refused _ h
    | importBlocks => exact asyncRun_refused _ h
    | revert => exact asyncRun_refused _ h
    | _ => exact absurd hlooks Bool.false_ne_true

/-- **What `run` can do.** It refuses a remote keystore, refuses benchmarks that are not compiled in, or follows its plan. -/
theorem run_cases (runtimeBenchmarks : Bool) (config : Configuration) (subcommand : Option Subcommand) :
    ((LooksAtKeystore config subcommand ∧ config.keystoreRemote.isSome) ∧
      (run runtimeBenchmarks config subcommand : Command E Unit) =
        Script.call cliError .createRunner >>= fun _ => Script.fail (.service (.other remoteKeystores))) ∨
    ¬ (LooksAtKeystore config subcommand ∧ config.keystoreRemote.isSome) ∧
      ((run runtimeBenchmarks config subcommand : Command E Unit) = Script.fail (.input benchmarkDisabled) ∨
        Script.Follows cliError (run runtimeBenchmarks config subcommand : Command E Unit)
          (commandPlan config subcommand) ()) := by
  by_cases href : LooksAtKeystore config subcommand ∧ config.keystoreRemote.isSome
  · exact Or.inl ⟨href, run_refused href.1 href.2⟩
  · have hnone : LooksAtKeystore config subcommand → config.keystoreRemote = none := by
      intro hlooks
      by_contra hsome
      exact href ⟨hlooks, Option.isSome_iff_ne_none.2 hsome⟩
    refine Or.inr ⟨href, ?_⟩
    by_cases hbench : subcommand = some .benchmark → runtimeBenchmarks = true
    · exact Or.inr (run_follows hbench hnone)
    · obtain ⟨rfl, hfeature⟩ := Classical.not_imp.1 hbench
      obtain rfl : runtimeBenchmarks = false := by simpa using hfeature
      exact Or.inl rfl

/-- a plan's calls never report the message of the keystore check -/
theorem cliError_ne_remoteKeystores (op : Op) (e : E) : cliError op e ≠ .service (.other remoteKeystores) := by
  cases op <;> simp [cliError]

theorem followed_ne_remoteKeystores {x : Command E Unit} {plan : List Op} (h : Script.Follows cliError x plan ())
    (w : World Op E Op.fallible) : (x w []).1 ≠ .error (.service (.other remoteKeystores)) := by
  rcases h.outcome w with hok | ⟨p, op, q, e, -, -, herr⟩
  · rw [hok]
    exact fun h => by cases h
  · rw [herr]
    intro h
    exact cliError_ne_remoteKeystores op e (Except.error.inj h)

/-- **A remote keystore.** `run` refuses it exactly where it is configured, the command goes through `new_partial` or starts
a node that is not light, and the runner could be made; and then the runner is all that was made. -/
theorem remote_keystore_refused (runtimeBenchmarks : Bool) (config : Configuration) (subcommand : Option Subcommand)
    (w : World Op E Op.fallible) :
    ((run runtimeBenchmarks config subcommand w []).1 = .error (.service (.other remoteKeystores)) ↔
      LooksAtKeystore config subcommand ∧ config.keystoreRemote.isSome ∧ w.error [] .createRunner = none) ∧
    ((run runtimeBenchmarks config subcommand w []).1 = .error (.service (.other remoteKeystores)) →
      (run runtimeBenchmarks config subcommand w []).2 = [.createRunner]) := by
  rcases run_cases (E := E) runtimeBenchmarks config subcommand with ⟨href, heq⟩ | ⟨href, hrest⟩
  · rw [heq]
    cases hrun : w.error [] Op.createRunner with
    | none => simp [Bind.bind, Script.call, Script.fail, hrun, href.1, href.2]
    | some e => simp [Bind.bind, Script.call, hrun, cliError]
  · have hne : (run runtimeBenchmarks config subcommand w []).1 ≠ .error (.service (.other remoteKeystores)) := by
      rcases hrest with heq | hfollows
      · rw [heq]
        exact fun h => by cases h
      · exact followed_ne_remoteKeystores hfollows w
    exact ⟨⟨fun h => absurd h hne, fun h => absurd ⟨h.1, h.2.1⟩ href⟩, fun h => absurd h hne⟩

/-! ## Going online -/

/-- the calls that bring a node online or let it take part in consensus; `own` are the commands whose own run does -/
def Op.online (own : Subcommand → Bool) : Op → Bool
  | .buildNetwork _ _ | .buildOffchainWorkers | .spawnTasks _ _ _ | .startBabe _ | .runGrandpaVoter _
  | .spawnBlocking _ | .startNetwork | .runUntilExit _ => true
  | .runCommand subcommand => own subcommand
  | _ => false

/-- premise on the third-party side of the commands: none goes online by itself -/
def OwnRunsOffline (own : Subcommand → Bool) : Prop := ∀ subcommand, own subcommand = false

/-- what it takes to go online -/
def WentOnline (own : Subcommand → Bool) (calls : List Op) : Option Subcommand → Prop
  | none => ∃ extraSets onDemand, .buildNetwork extraSets onDemand ∈ calls
  | some subcommand => own subcommand = true ∧ .runCommand subcommand ∈ calls

theorem commandPlan_of_looksAtKeystore {config : Configuration} {subcommand : Option Subcommand}
    (h : LooksAtKeystore config subcommand) : [.createRunner] <+: commandPlan config subcommand := by
  cases subcommand with
  | none => exact ⟨_, rfl⟩
  | some subcommand =>
    cases subcommand with
    | key => exact absurd h Bool.false_ne_true
    | _ => exact ⟨_, rfl⟩

/-- whatever happens, `run` makes a beginning of its plan -/
theorem run_begins (runtimeBenchmarks : Bool) (config : Configuration) (subcommand : Option Subcommand)
    (w : World Op E Op.fallible) : (run runtimeBenchmarks config subcommand w []).2 <+: commandPlan config subcommand := by
  rcases run_cases (E := E) runtimeBenchmarks config subcommand with ⟨href, heq⟩ | ⟨-, heq | hfollows⟩
  · rw [heq]
    cases hrun : w.error [] Op.createRunner with
    | none =>
      simp only [Bind.bind, Script.call, Script.fail, hrun]
      exact commandPlan_of_looksAtKeystore href.1
    | some e =>
      simp only [Bind.bind, Script.call, hrun]
      exact List.nil_prefix
  · rw [heq]
    exact List.nil_prefix
  · exact hfollows.prefix_of w

/-- a node's plan is offline up to the network -/
theorem nodePlan_network (own : Subcommand → Bool) (config : Configuration) :
    ∃ before extraSets onDemand rest, commandPlan config none = before ++ .buildNetwork extraSets onDemand :: rest ∧
      ∀ op ∈ before, op.online own = false := by
  have hfull : ∃ before extraSets onDemand rest, fullPlan config = before ++ .buildNetwork extraSets onDemand :: rest ∧
      ∀ op ∈ before, op.online own = false :=
    ⟨partialPlan config, _, _, _, rfl, by simp [partialPlan, Op.online]⟩
  have hlight : ∃ before extraSets onDemand rest, lightPlan config = before ++ .buildNetwork extraSets onDemand :: rest ∧
      ∀ op ∈ before, op.online own = false :=
    ⟨[.newLightParts, .newLightPool, .grandpaBlockImport, .babeConfig, .babeBlockImport, .babeImportQueue .never], _, _, _,
      rfl, by simp [Op.online]⟩
  have hnode : ∃ before extraSets onDemand rest, nodePlan config = before ++ .buildNetwork extraSets onDemand :: rest ∧
      ∀ op ∈ before, op.online own = false := by
    unfold nodePlan
    cases config.role with
    | light => exact hlight
    | full => exact hfull
    | authority => exact hfull
  obtain ⟨before, extraSets, onDemand, rest, hplan, hbefore⟩ := hnode
  refine ⟨.createRunner :: before, extraSets, onDemand, rest ++ [.runUntilExit (nodeTasks config)], ?_, ?_⟩
  · simp [commandPlan, hplan]
  · rw [List.forall_mem_cons]
    exact ⟨rfl, hbefore⟩

/-- before the command itself, a subcommand's plan is offline -/
theorem subcommandPlan_command (own : Subcommand → Bool) (config : Configuration) (subcommand : Subcommand) :
    ∃ before, subcommandPlan config subcommand = before ++ [.runCommand subcommand] ∧
      ∀ op ∈ before, op.online own = false := by
  refine ⟨_, (List.append_assoc _ _ _).symm, ?_⟩
  cases subcommand <;> simp [needsClient, partialPlan, Op.online]

/-- **Who goes online.** In every execution, failed ones included: a node exactly if it gets as far as building the network, a
subcommand exactly if it gets to the command and the command's own run goes online. -/
theorem goes_online_iff (own : Subcommand → Bool) (runtimeBenchmarks : Bool) (config : Configuration)
    (subcommand : Option Subcommand) (w : World Op E Op.fallible) :
    (∃ op ∈ (run runtimeBenchmarks config subcommand w []).2, op.online own = true) ↔
      WentOnline own (run runtimeBenchmarks config subcommand w []).2 subcommand := by
  have hbegins := run_begins runtimeBenchmarks config subcommand w
  set calls := (run runtimeBenchmarks config subcommand w []).2
  cases subcommand with
  | none =>
    obtain ⟨before, extraSets, onDemand, rest, hplan, hbefore⟩ := nodePlan_network own config
    rw [hplan] at hbegins
    constructor
    · rintro ⟨op, hop, honline⟩
      rcases Script.Follows.reached_or_before hbegins with hreached | hshort
      · exact ⟨extraSets, onDemand, hreached⟩
      · rw [hbefore op (hshort.subset hop)] at honline
        cases honline
    · rintro ⟨extraSets, onDemand, hmem⟩
      exact ⟨_, hmem, rfl⟩
  | some subcommand =>
    obtain ⟨before, hplan, hbefore⟩ := subcommandPlan_command own config subcommand
    change calls <+: subcommandPlan config subcommand at hbegins
    rw [hplan] at hbegins
    constructor
    · rintro ⟨op, hop, honline⟩
      have hcommand : op = .runCommand subcommand := by
        rcases List.mem_append.1 (hbegins.subset hop) with h | h
        · rw [hbefore op h] at honline
          cases honline
        · exact List.mem_singleton.1 h
      subst hcommand
      exact ⟨honline, hop⟩
    · rintro ⟨hown, hmem⟩
      exact ⟨_, hmem, hown⟩

/-- **Offline.** Where no command's own run goes online, `run` makes a beginning of its plan, and goes online exactly if no
subcommand is given and it gets as far as building the network. -/
theorem subcommands_offline {own : Subcommand → Bool} (hown : OwnRunsOffline own) (runtimeBenchmarks : Bool)
    (config : Configuration) (subcommand : Option Subcommand) (w : World Op E Op.fallible) :
    (run runtimeBenchmarks config subcommand w []).2 <+: commandPlan config subcommand ∧
    ((∃ op ∈ (run runtimeBenchmarks config subcommand w []).2, op.online own = true) ↔
      subcommand = none ∧ ∃ extraSets onDemand,
        .buildNetwork extraSets onDemand ∈ (run runtimeBenchmarks config subcommand w []).2) := by
  refine ⟨run_begins runtimeBenchmarks config subcommand w, ?_⟩
  rw [goes_online_iff]
  cases subcommand with
  | none => simp [WentOnline]
  | some subcommand => simp [WentOnline, hown subcommand]

/-- a full node's configuration, and a world in which nothing fails -/
def plainConfig : Configuration := ⟨none, .full, false, false, true, "node", []⟩

def allGoesWell : World Op Unit Op.fallible := ⟨fun _ _ => none, fun _ _ _ => rfl⟩

/-- `revert` gets through and stays offline; without a subcommand the node goes online -/
theorem revert_offline :
    (¬ ∃ op ∈ (run false plainConfig (some .revert) allGoesWell []).2, op.online (fun _ => false) = true) ∧
    ∃ op ∈ (run false plainConfig none allGoesWell []).2, op.online (fun _ => false) = true := by
  have hown : OwnRunsOffline fun _ => false := fun _ => rfl
  refine ⟨fun h => ?_, ?_⟩
  · cases ((subcommands_offline hown false plainConfig (some .revert) allGoesWell).2.1 h).1
  · exact (subcommands_offline hown false plainConfig none allGoesWell).2.2 ⟨rfl, [.grandpa], false, by decide⟩

end NodeTemplate.Node
