import TestTransform.Proofs.Transformers

/-
Turning on isolated modules.

A host configuration `h'` that differs from `h` only in its globals, where the tool's options
are those of `h` with `isolatedModules` turned on, gives the settings of `h` with the isolated
flag set and no project inputs listed: the project file is read the same way, only its file
list is left unread.
-/

namespace TestTransform

open Config Compiler

namespace Config

/-- Reading the project file looks at the host's root only. -/
theorem resolveProject_globals (store : FileStore) (h : HostConfig) (g : List (String × Json.Value))
    (source : Option TsConfigSource) (withFileNames : Bool) :
    resolveProject store { h with globals := g } source withFileNames =
      resolveProject store h source withFileNames := rfl

/-- Leaving the project's file list unread keeps everything else it reads. -/
theorem resolveProject_without_fileNames {store : FileStore} {h : HostConfig}
    {source : Option TsConfigSource} {P : ResolvedProject}
    (hP : resolveProject store h source true = .ok P) :
    resolveProject store h source false = .ok { P with fileNames := [] } := by
  obtain ⟨file, o, hpath, hfile, ho, hopts, hrefs, -⟩ := resolveProject_eq_ok hP
  have hread : (CompilerOptions.ofValue (.obj (projectRaw h source file))).mapError
      (fun f => ConfigError.invalidOption "compilerOptions" f.message) = .ok o :=
    except_mapError_eq_ok.mpr ho
  -- the same stages give the same values; only the inputs are left unlisted
  simp only [resolveProject_eq, hpath, hfile, hread, hrefs, except_ok_bind, Bool.false_and,
    Bool.false_eq_true, ↓reduceIte]
  rw [← hopts]
  rfl

theorem TestRules.ofHost_globals (h : HostConfig) (g : List (String × Json.Value)) :
    TestRules.ofHost { h with globals := g } = TestRules.ofHost h := rfl

theorem HostConfig.resolvePath_globals (h : HostConfig) (g : List (String × Json.Value)) :
    ({ h with globals := g } : HostConfig).resolvePath = h.resolvePath := rfl

/-! ## Hosts with the default options -/

/-- An empty options object reads. -/
theorem CompilerOptions.ofValue_empty_ok : ∃ O, CompilerOptions.ofValue (.obj []) = .ok O :=
  except_ok_of_isOk (by decide +kernel)

/-- Without a project file, the project's options are read from an empty object and it
references no other project. -/
theorem resolveProject_of_no_file {store : FileStore} {h : HostConfig}
    (hfind : findProjectFile store h.rootDir = none) (withFileNames : Bool) :
    ∃ P, resolveProject store h none withFileNames = .ok P ∧ P.references = [] := by
  obtain ⟨O, hO⟩ := CompilerOptions.ofValue_empty_ok
  have hopts : (default : TsConfig).compilerOptions = [] := rfl
  have hrefs : (default : TsConfig).references = [] := rfl
  unfold resolveProject
  simp only [hfind, pure_bind, hopts, hO, Except.mapError, hrefs, List.mapM_nil, Option.isSome_none,
    Bool.and_false, Bool.false_eq_true, ↓reduceIte]
  exact ⟨_, rfl, rfl⟩

/-- Without a project file the project reads nothing else from the files. -/
theorem resolveProject_no_file_congr {store₁ store₂ : FileStore} {h : HostConfig}
    (h₁ : findProjectFile store₁ h.rootDir = none) (h₂ : findProjectFile store₂ h.rootDir = none)
    (withFileNames : Bool) :
    resolveProject store₁ h none withFileNames = resolveProject store₂ h none withFileNames := by
  have hrefs : (default : TsConfig).references = [] := rfl
  unfold resolveProject
  simp only [h₁, h₂, pure_bind, hrefs, List.mapM_nil, Option.isSome_none, Bool.and_false,
    Bool.false_eq_true, ↓reduceIte]

/-- Settings whose tool options name no project file, built where the root holds none, are the
same whatever else the files hold. -/
theorem Settings.build_congr_store {h : HostConfig} {o : ToolOptions} (ho : h.toolOptions = .ok o)
    (hnone : o.tsconfig = none) {store₁ store₂ : FileStore}
    (h₁ : findProjectFile store₁ h.rootDir = none) (h₂ : findProjectFile store₂ h.rootDir = none)
    (modules : Registry) (env : Option String) :
    Settings.build h store₁ modules env = Settings.build h store₂ modules env := by
  simp only [Settings.build, Settings.withEnvCodes, ho, except_ok_bind, hnone,
    resolveProject_no_file_congr h₁ h₂]

/-- A host with the default tool options and no project file builds, with no referenced
projects, when the default compiler is registered and its test globs read. -/
theorem Settings.build_of_defaults {h : HostConfig} {store : FileStore} {modules : Registry}
    (htool : h.toolOptions = .ok ToolOptions.default) (hfind : findProjectFile store h.rootDir = none)
    {info : ModuleInfo} (hreg : modules.resolve defaultCompiler = .ok info) {tests : TestRules}
    (htests : TestRules.ofHost h = .ok tests) :
    ∃ S, Settings.build h store modules none = .ok S ∧ S.references = [] := by
  obtain ⟨P, hP, hrefs⟩ := resolveProject_of_no_file hfind true
  unfold Settings.build Settings.withEnvCodes
  simp only [Settings.envCodes, pure_bind, htool, except_ok_bind, ToolOptions.default, Bool.not_false,
    Option.getD_none]
  rw [hP, except_ok_bind, show Policy.ofSetting none [] = .ok _ from rfl, except_ok_bind, hreg,
    except_ok_bind]
  simp only [htests, except_ok_bind]
  exact ⟨_, rfl, hrefs⟩

/-- The default host at a root builds in a workspace with no files and the default compiler. -/
theorem Settings.build_ofRoot :
    ∃ S, Settings.build (HostConfig.ofRoot ⟨"/p"⟩) FileStore.emptyMemory
      ⟨[⟨"typescript", "5.0.0"⟩]⟩ none = .ok S := by
  obtain ⟨tests, htests⟩ :=
    except_ok_of_isOk (show (TestRules.ofHost (HostConfig.ofRoot ⟨"/p"⟩)).isOk = true by decide +kernel)
  obtain ⟨S, hS, -⟩ := Settings.build_of_defaults
    (show (HostConfig.ofRoot ⟨"/p"⟩).toolOptions = .ok ToolOptions.default from rfl)
    (show findProjectFile FileStore.emptyMemory (HostConfig.ofRoot ⟨"/p"⟩).rootDir = none by decide +kernel)
    (show Registry.resolve ⟨[⟨"typescript", "5.0.0"⟩]⟩ defaultCompiler = .ok ⟨"typescript", "5.0.0"⟩ from rfl)
    htests
  exact ⟨S, hS⟩

namespace Settings

/-- Turning on isolated modules in the tool's options gives the same settings, isolated and
with no project inputs listed. -/
theorem withEnvCodes_isolated {h : HostConfig} {o : ToolOptions} (ho : h.toolOptions = .ok o)
    (hfull : o.isolatedModules = false) {g : List (String × Json.Value)}
    (ho' : ({ h with globals := g } : HostConfig).toolOptions = .ok { o with isolatedModules := true })
    {store : FileStore} {modules : Registry} {codes : List Nat} {S : Settings}
    (hS : withEnvCodes h store modules codes = .ok S) :
    withEnvCodes { h with globals := g } store modules codes =
        .ok { S with host := { h with globals := g }, isolated := true, fileNames := [] } ∧
      S.isolated = false := by
  obtain ⟨tool, project, policy, info, stringify, tests, htool, hproject, hpolicy, hinfo, hstringify,
    htests, rfl⟩ := withEnvCodes_eq_ok hS
  rw [ho, Except.ok.injEq] at htool
  subst htool
  rw [hfull] at hproject
  have hstringify' : stringifyPattern { o with isolatedModules := true } = .ok stringify :=
    hstringify
  refine ⟨?_, hfull⟩
  -- the project is read without its inputs; the policy, the compiler module, the stringify
  -- pattern and the test rules are read alike
  rw [withEnvCodes_eq, ho', except_ok_bind]
  dsimp only
  rw [Bool.not_true, resolveProject_globals, resolveProject_without_fileNames hproject,
    except_ok_bind, hpolicy, except_ok_bind, hinfo, except_ok_bind, hstringify', except_ok_bind,
    TestRules.ofHost_globals, htests, except_ok_bind]
  rfl

theorem withEnvCodes_host {h : HostConfig} {store : FileStore} {modules : Registry}
    {codes : List Nat} {S : Settings} (hS : withEnvCodes h store modules codes = .ok S) : S.host = h := by
  obtain ⟨_, _, _, _, _, _, -, -, -, -, -, -, rfl⟩ := withEnvCodes_eq_ok hS
  rfl

theorem build_host {h : HostConfig} {store : FileStore} {modules : Registry} {env : Option String}
    {S : Settings} (hS : build h store modules env = .ok S) : S.host = h := by
  unfold build at hS
  obtain ⟨codes, -, hS⟩ := except_bind_eq_ok.mp hS
  exact withEnvCodes_host hS

theorem build_isolated {h : HostConfig} {o : ToolOptions} (ho : h.toolOptions = .ok o)
    (hfull : o.isolatedModules = false) {g : List (String × Json.Value)}
    (ho' : ({ h with globals := g } : HostConfig).toolOptions = .ok { o with isolatedModules := true })
    {store : FileStore} {modules : Registry} {env : Option String} {S : Settings}
    (hS : build h store modules env = .ok S) :
    build { h with globals := g } store modules env =
        .ok { S with host := { h with globals := g }, isolated := true, fileNames := [] } ∧
      S.isolated = false := by
  unfold build at hS ⊢
  obtain ⟨codes, hcodes, hS⟩ := except_bind_eq_ok.mp hS
  rw [hcodes, except_ok_bind]
  exact withEnvCodes_isolated ho hfull ho' hS

/-- Whether diagnostics raise a fault depends on the policy alone; the settings' other fields
change only the text of the fault. -/
theorem passes_of_policy {S S' : Settings} (hp : S'.policy = S.policy) {ds : List Diagnostic}
    {file : Path} (h : S.Passes ds file) : S'.Passes ds file := by
  intro store
  obtain ⟨ws, hws⟩ := h store
  refine ⟨ws, ?_⟩
  unfold raiseDiagnostics shouldReport at hws ⊢
  rw [hp]
  dsimp only at hws ⊢
  by_cases hr : (!S.policy.shouldReport file) = true
  · rw [if_pos hr] at hws ⊢
    exact hws
  · rw [if_neg hr] at hws ⊢
    split at hws
    · cases hws
    · rw [if_neg ‹_›]
      exact hws

end Settings

end Config

namespace Transformer

variable {S : Settings} {H : HostConfig}

-- the isolated settings read the root, the stringify pattern and the options of `S`
theorem isolated_rootDir (hroot : H.rootDir = S.rootDir) :
    ({ S with host := H, isolated := true, fileNames := [] } : Settings).rootDir = S.rootDir := hroot

theorem isolated_shouldStringify :
    ({ S with host := H, isolated := true, fileNames := [] } : Settings).shouldStringify =
      S.shouldStringify := rfl

theorem isolated_allowsJs :
    ({ S with host := H, isolated := true, fileNames := [] } : Settings).allowsJs = S.allowsJs := rfl

/-- A file reaches the compiler alike for settings that differ only in the isolated flag, the
host (with the same root) and the project's inputs. -/
theorem reachesCompiler_isolated (hroot : H.rootDir = S.rootDir) (p : Path) :
    ReachesCompiler { S with host := H, isolated := true, fileNames := [] } p ↔ ReachesCompiler S p := by
  unfold ReachesCompiler
  rw [isolated_rootDir hroot, isolated_shouldStringify, isolated_allowsJs]

/-- Outside the referenced projects, the isolated settings give the same transformation. -/
theorem transformOutput_isolated (hroot : H.rootDir = S.rootDir)
    (store : FileStore) (fallback : Option Fallback) (source : String) (p : Path)
    (t : TransformOptions) (href : S.referenceFor (Path.resolve S.rootDir p) = none) :
    transformOutput store { S with host := H, isolated := true, fileNames := [] } fallback source p t =
      transformOutput store S fallback source p t := by
  -- without a reference, both compilers give the emit with the same options
  have hexp : expectedOutput store { S with host := H, isolated := true, fileNames := [] } source
      (Path.resolve S.rootDir p) t = expectedOutput store S source (Path.resolve S.rootDir p) t := by
    rw [expectedOutput_of_no_reference t href,
      expectedOutput_of_no_reference (S := { S with host := H, isolated := true, fileNames := [] }) t href]
    rfl
  unfold transformOutput kindOutput compiledOutput
  dsimp only
  rw [isolated_rootDir hroot, isolated_shouldStringify, isolated_allowsJs, hexp]

end Transformer

/-- A file outside the referenced projects that a worker transforms with a type-checking
compiler, after any history, is transformed the same by a worker in isolated mode, after any
history, with the same files: for a host configuration whose tool options differ only in
turning `isolatedModules` on. -/
theorem isolated_process_of_checked_process {T T' : Transformer} (hT : T.Reachable)
    (hT' : T'.Reachable) {w : Workspace} {h : HostConfig} {o : ToolOptions}
    (ho : h.toolOptions = .ok o) (hfull : o.isolatedModules = false) {g : List (String × Json.Value)}
    (ho' : ({ h with globals := g } : HostConfig).toolOptions = .ok { o with isolatedModules := true })
    (hc : T.Current w h) (hc' : T'.Current w { h with globals := g }) {S : Settings}
    (hS : Settings.build h w.store w.registry w.envIgnore = .ok S) (source : String) (p : Path)
    (href : S.referenceFor (Path.resolve S.rootDir p) = none) (t : TransformOptions)
    {out : Transformed} (hrun : ((Transformer.process source p h t).run.run (w, T)).1 = .ok out) :
    ∃ σ, (Transformer.process source p { h with globals := g } t).run.run (w, T') = (.ok out, σ) := by
  obtain ⟨hS', hiso⟩ := Settings.build_isolated ho hfull ho' hS
  have hroot : ({ h with globals := g } : HostConfig).rootDir = S.rootDir := by
    rw [Settings.rootDir, Settings.build_host hS]
  obtain ⟨hout, hpass⟩ := Transformer.process_output hT.sound
    (Transformer.settingsAt_ok_of_current hc hS) source p t hrun
  refine Transformer.process_of_isolated hT'.sound (Transformer.settingsAt_ok_of_current hc' hS') rfl
    source p t ?_ (fun hreach _ => ?_)
  · rw [Transformer.transformOutput_isolated hroot _ _ _ _ _ href]
    exact hout
  · -- the isolated settings check the syntax with the same policy, at the same path
    have hpass' := hpass hiso ((Transformer.reachesCompiler_isolated hroot p).mp hreach)
    rw [Transformer.isolated_rootDir hroot]
    refine Settings.passes_of_policy ?_ hpass'
    rfl

/-- A TypeScript file with a checked declaration at the root of a host with the default
options: a fresh worker compiles it, and a fresh isolated one gives the same output. -/
theorem isolated_typescript_file :
    ∃ out σ, ((Transformer.process "export const a: number = 1;\n" ⟨"/p/a.ts"⟩ (HostConfig.ofRoot ⟨"/p"⟩)
        ⟨false, false⟩).run.run
      (⟨.memory [(⟨"/p/a.ts"⟩, ⟨"export const a: number = 1;\n", 0⟩)] 0,
        [Standin.Module.ofVersion "typescript" "5.0.0"], [], none, none, []⟩, Transformer.empty)).1 = .ok out ∧
    (Transformer.process "export const a: number = 1;\n" ⟨"/p/a.ts"⟩
        { HostConfig.ofRoot ⟨"/p"⟩ with
          globals := [("ts-jest", .obj [("isolatedModules", .bool true)])] } ⟨false, false⟩).run.run
      (⟨.memory [(⟨"/p/a.ts"⟩, ⟨"export const a: number = 1;\n", 0⟩)] 0,
        [Standin.Module.ofVersion "typescript" "5.0.0"], [], none, none, []⟩, Transformer.empty) =
      (.ok out, σ) := by
  -- the checked worker compiles the file: the declared type is the literal's
  obtain ⟨out, hrun⟩ := except_ok_of_isOk (show ((Transformer.process "export const a: number = 1;\n"
      ⟨"/p/a.ts"⟩ (HostConfig.ofRoot ⟨"/p"⟩) ⟨false, false⟩).run.run
      (⟨.memory [(⟨"/p/a.ts"⟩, ⟨"export const a: number = 1;\n", 0⟩)] 0,
        [Standin.Module.ofVersion "typescript" "5.0.0"], [], none, none, []⟩, Transformer.empty)).1.isOk = true
    by decide +kernel)
  -- the host builds: default tool options, no project file, a registered compiler and the
  -- default test globs
  obtain ⟨tests, htests⟩ :=
    except_ok_of_isOk (show (TestRules.ofHost (HostConfig.ofRoot ⟨"/p"⟩)).isOk = true by decide +kernel)
  obtain ⟨S, hS, hrefs⟩ := Settings.build_of_defaults
    (show (HostConfig.ofRoot ⟨"/p"⟩).toolOptions = .ok ToolOptions.default from rfl)
    (show findProjectFile (.memory [(⟨"/p/a.ts"⟩, ⟨"export const a: number = 1;\n", 0⟩)] 0)
      (HostConfig.ofRoot ⟨"/p"⟩).rootDir = none by decide +kernel)
    (show Registry.resolve ⟨[⟨"typescript", "5.0.0"⟩]⟩ defaultCompiler = .ok ⟨"typescript", "5.0.0"⟩ from rfl)
    htests
  obtain ⟨σ, hσ⟩ := isolated_process_of_checked_process
    (g := [("ts-jest", .obj [("isolatedModules", .bool true)])]) .empty .empty rfl rfl rfl
    (Transformer.current_empty _ _) (Transformer.current_empty _ _) hS _ _
    (by simp [Settings.referenceFor, hrefs]) _ hrun
  exact ⟨out, σ, hrun, hσ⟩

end TestTransform
