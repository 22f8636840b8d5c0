import Mathlib
import TestTransform.Config.Settings

/-
Building a host's settings, stage by stage.

`resolveProject` chooses the project file (`projectPath`), reads it (`projectFile`), reads the
compiler options from the file's `compilerOptions` with any inline overrides merged over them
(`projectRaw`), fills in the default target, the output directory for JavaScript and the forced
options (`finishOptions`), loads the references, and lists the project's inputs when they are
asked for and a file was read. `Settings.withEnvCodes` reads the tool's options, the project,
the diagnostics policy, the compiler module, the stringify pattern (`stringifyPattern`) and the
test rules, and assembles the settings from them (`Settings.assemble`).

Both are written with join points in the arms of their choices. `resolveProject_eq` and
`withEnvCodes_eq` state them as their stages, one after the other, and `resolveProject_eq_ok` and
`withEnvCodes_eq_ok` say what a successful run is made of. Properties of the project and of the
settings are proved from these, without opening the two functions again.
-/

namespace TestTransform

/-! ## Steps of `Except` -/

theorem except_bind_eq_ok {ε α β : Type} {x : Except ε α} {f : α → Except ε β} {b : β} :
    (x >>= f) = .ok b ↔ ∃ a, x = .ok a ∧ f a = .ok b := by
  cases x with
  | error e => simp [bind, Except.bind]
  | ok a => simp [bind, Except.bind]

theorem except_ok_bind {ε α β : Type} (a : α) (f : α → Except ε β) : (Except.ok a >>= f) = f a :=
  rfl

/-- What every step of a fold in `Except` keeps holds of what the whole fold returns. -/
theorem except_foldlM_invariant {ε α β : Type} (P : β → Prop) {f : β → α → Except ε β}
    (hf : ∀ b a b', P b → f b a = .ok b' → P b') :
    ∀ (l : List α) {b b' : β}, P b → l.foldlM f b = .ok b' → P b'
  | [], _, _, hb, h => by
    cases h
    exact hb
  | a :: l, b, _, hb, h => by
    rw [List.foldlM_cons] at h
    obtain ⟨c, hc, h⟩ := except_bind_eq_ok.mp h
    exact except_foldlM_invariant P hf l (hf b a c hb hc) h

theorem except_mapError_eq_ok {ε ε' α : Type} {x : Except ε α} {g : ε → ε'} {a : α} :
    x.mapError g = .ok a ↔ x = .ok a := by
  cases x <;> simp [Except.mapError]

theorem except_ok_of_isOk {ε α : Type} {x : Except ε α} (h : x.isOk = true) : ∃ a, x = .ok a := by
  cases x with
  | ok a => exact ⟨a, rfl⟩
  | error e => cases h

/-- A run that succeeds gives its value with the state it leaves. -/
theorem run_ok_of_isOk {ε α σ : Type} {p : Except ε α × σ} (h : p.1.isOk = true) :
    ∃ a s, p = (.ok a, s) := by
  obtain ⟨a, ha⟩ := except_ok_of_isOk h
  exact ⟨a, p.2, Prod.ext ha rfl⟩

namespace Config

/-! ## The stages -/

/-- The project file a host reads: none when the configuration turns it off, the file it names
when that exists, and otherwise the one found from the root. -/
def projectPath (store : FileStore) (h : HostConfig) (source : Option TsConfigSource) :
    Except ConfigError (Option Path) :=
  match source with
  | some (.toggle false) => pure none
  | some (.path p) =>
    let path := h.resolvePath p
    if store.hasFile path then pure (some path) else throw (.tsconfigNotFound path)
  | _ => pure (findProjectFile store h.rootDir)

/-- The project file read, or the empty one when there is none. -/
def projectFile (store : FileStore) : Option Path → Except ConfigError TsConfig
  | some p => TsConfig.read store p
  | none => pure (default : TsConfig)

/-- The compiler options as written: the file's, with inline overrides merged over them. -/
def projectRaw (h : HostConfig) (source : Option TsConfigSource) (file : TsConfig) :
    List (String × Json.Value) :=
  match source with
  | some (.inline overrides) =>
    TsConfig.mergeOptions file.compilerOptions (TsConfig.absolutize h.rootDir overrides)
  | _ => file.compilerOptions

/-- The options read, with the default target, the output directory for JavaScript and the
forced options. -/
def finishOptions (root : Path) (o : CompilerOptions) : CompilerOptions :=
  let o := if o.target.isNone then { o with target := some Target.default } else o
  let o := if o.allowsJs && o.outDir.isNone then { o with outDir := some (root / allowJsOutDir) }
    else o
  o.applyForced

theorem projectPath_off (store : FileStore) (h : HostConfig) :
    projectPath store h (some (.toggle false)) = .ok none := rfl

theorem projectFile_none (store : FileStore) : projectFile store none = .ok default := rfl

/-- Finishing the options keeps the options passed on as they were read. -/
@[simp] theorem finishOptions_other (root : Path) (o : CompilerOptions) :
    (finishOptions root o).other = o.other := by
  unfold finishOptions
  dsimp only
  split <;> split <;> rfl

/-! ## The reader as its stages -/

theorem resolveProject_eq (store : FileStore) (h : HostConfig) (source : Option TsConfigSource)
    (withFileNames : Bool) :
    resolveProject store h source withFileNames = (do
      let path ← projectPath store h source
      let file ← projectFile store path
      let o ← (CompilerOptions.ofValue (.obj (projectRaw h source file))).mapError
        (fun f => ConfigError.invalidOption "compilerOptions" f.message)
      let options := finishOptions h.rootDir o
      let references ← file.references.mapM (ProjectReference.load store)
      let fileNames ←
        (if withFileNames && path.isSome then file.fileNames store options.outDir else pure [])
      pure ⟨path, options, fileNames, references⟩ : Except ConfigError ResolvedProject) := by
  unfold resolveProject projectPath projectFile
  -- the reader's join points sit in the arms of its choices: settle whether the inputs are
  -- asked for, where the project file comes from, and whether it is there
  cases withFileNames <;> rcases source with _ | ⟨_ | _⟩ | p | overrides
  all_goals first
    | rfl
    | (cases findProjectFile store h.rootDir <;> rfl)
    | (by_cases hp : store.hasFile (h.resolvePath p) = true <;>
        simp only [hp, ↓reduceIte, Bool.false_eq_true] <;> rfl)

/-- A successful reading is made of successful stages, and gives what they give. -/
theorem resolveProject_eq_ok {store : FileStore} {h : HostConfig} {source : Option TsConfigSource}
    {withFileNames : Bool} {P : ResolvedProject}
    (hP : resolveProject store h source withFileNames = .ok P) :
    ∃ file o, projectPath store h source = .ok P.path ∧ projectFile store P.path = .ok file ∧
      CompilerOptions.ofValue (.obj (projectRaw h source file)) = .ok o ∧
      P.options = finishOptions h.rootDir o ∧
      file.references.mapM (ProjectReference.load store) = .ok P.references ∧
      (if withFileNames && P.path.isSome then file.fileNames store P.options.outDir
        else pure []) = .ok P.fileNames := by
  rw [resolveProject_eq] at hP
  obtain ⟨path, hpath, hP⟩ := except_bind_eq_ok.mp hP
  obtain ⟨file, hfile, hP⟩ := except_bind_eq_ok.mp hP
  obtain ⟨o, ho, hP⟩ := except_bind_eq_ok.mp hP
  obtain ⟨refs, hrefs, hP⟩ := except_bind_eq_ok.mp hP
  obtain ⟨names, hnames, hP⟩ := except_bind_eq_ok.mp hP
  cases hP
  exact ⟨file, o, hpath, hfile, except_mapError_eq_ok.mp ho, rfl, hrefs, hnames⟩

/-! ## The settings as their stages -/

open Pattern

namespace Settings

/-- The pattern of the files whose text is exported as a string, compiled. -/
def stringifyPattern (tool : ToolOptions) : Except ConfigError (Option Regex) :=
  match tool.stringifyContentPathRegex with
  | some p =>
    (Regex.compile p).map some |>.mapError (ConfigError.invalidRegex "stringifyContentPathRegex")
  | none => pure none

/-- The settings from what each stage read. -/
def assemble (h : HostConfig) (tool : ToolOptions) (project : ResolvedProject) (policy : Policy)
    (info : ModuleInfo) (stringify : Option Regex) (tests : TestRules) : Settings :=
  { host := h, tsconfigPath := project.path, options := project.options,
    fileNames := project.fileNames, references := project.references, policy := policy,
    isolated := tool.isolatedModules, useEsm := tool.useEsm,
    compilerName := tool.compiler.getD defaultCompiler, compilerVersion := info.version,
    cacheDirectory := h.cacheDirectory.map (fun d => h.resolvePath d.text),
    stringify := stringify, tests := tests }

theorem withEnvCodes_eq (h : HostConfig) (store : FileStore) (modules : Registry)
    (codes : List Nat) :
    withEnvCodes h store modules codes = (do
      let tool ← h.toolOptions
      let project ← resolveProject store h tool.tsconfig (!tool.isolatedModules)
      let policy ← Policy.ofSetting tool.diagnostics codes
      let info ← modules.resolve (tool.compiler.getD defaultCompiler)
      let stringify ← stringifyPattern tool
      let tests ← TestRules.ofHost h
      pure (assemble h tool project policy info stringify tests) :
        Except ConfigError Settings) := by
  unfold withEnvCodes stringifyPattern
  -- the stringify pattern is read in a join point: settle it under the stages before it
  refine bind_congr fun tool => bind_congr fun project => bind_congr fun policy => ?_
  refine bind_congr fun info => ?_
  cases tool.stringifyContentPathRegex <;> rfl

/-- Settings that build are assembled from stages that all succeed. -/
theorem withEnvCodes_eq_ok {h : HostConfig} {store : FileStore} {modules : Registry}
    {codes : List Nat} {S : Settings} (hS : withEnvCodes h store modules codes = .ok S) :
    ∃ tool project policy info stringify tests, h.toolOptions = .ok tool ∧
      resolveProject store h tool.tsconfig (!tool.isolatedModules) = .ok project ∧
      Policy.ofSetting tool.diagnostics codes = .ok policy ∧
      modules.resolve (tool.compiler.getD defaultCompiler) = .ok info ∧
      stringifyPattern tool = .ok stringify ∧ TestRules.ofHost h = .ok tests ∧
      S = assemble h tool project policy info stringify tests := by
  rw [withEnvCodes_eq] at hS
  obtain ⟨tool, htool, hS⟩ := except_bind_eq_ok.mp hS
  obtain ⟨project, hproject, hS⟩ := except_bind_eq_ok.mp hS
  obtain ⟨policy, hpolicy, hS⟩ := except_bind_eq_ok.mp hS
  obtain ⟨info, hinfo, hS⟩ := except_bind_eq_ok.mp hS
  obtain ⟨stringify, hstringify, hS⟩ := except_bind_eq_ok.mp hS
  obtain ⟨tests, htests, hS⟩ := except_bind_eq_ok.mp hS
  exact ⟨tool, project, policy, info, stringify, tests, htool, hproject, hpolicy, hinfo,
    hstringify, htests, (Except.ok.inj hS).symm⟩

end Settings

end Config

end TestTransform
