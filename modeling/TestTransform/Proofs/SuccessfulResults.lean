import TestTransform.Proofs.Modes
import TestTransform.Proofs.PassedOptions
import TestTransform.Proofs.StableKeys

/-
What a successful call gives, whatever came before it.

Whether a call succeeds may depend on what the worker did before: a type-checking compiler that
hands back a stored output skips the type check and the check of the recorded dependents, and
the files a compiler has loaded, through earlier compiles or import walks, decide what its type
check sees (`history_decides_failure`). What a successful call gives does not. A compile that
succeeds gives the fresh emit of its content with the call's options
(`compile_fails_or_fresh_emit`); a transformation that succeeds gives `transformOutput` of the
files, the settings, the next transformer, the source, the path and the call's options
(`process_fails_or_history_free`).

So a cache key covers what a successful transformation reads, save two things: of the call's
options the output reads the ES-module switch, which the key leaves out, and in an isolated
project a file of a referenced project takes the built output on disk, which the key does not
read. Outside those, two successful calls with equal keys give one output, at any two moments
and on any two workers holding one copy of the settings, unless the hash gives one key for two
different sequences of parts (`equal_keys_same_output_or_collision`).
-/

namespace TestTransform

open Config Compiler Standin

/-! ## Compiles -/

namespace Compiler
namespace CheckedCompiler

/-- The compilers reached from a fresh one by compiles and module lookups, over workspaces that
may change between calls. -/
inductive Reaches (S : Settings) : CheckedCompiler → Prop
  | start (store : FileStore) : Reaches S (start S store)
  | compile {c : CheckedCompiler} (w : Workspace) (content : String) (path : Path)
      (t : TransformOptions) :
      Reaches S c → Reaches S ((compile S content path t).run.run (w, c)).2.2
  | resolvedModules {c : CheckedCompiler} (w : Workspace) (content : String) (path : Path) :
      Reaches S c → Reaches S ((resolvedModules S content path).run.run (w, c)).2.2

theorem Reaches.sound {S : Settings} (hS : S.options.PassesOnUntyped) {c : CheckedCompiler}
    (hc : Reaches S c) : Sound S c := by
  induction hc with
  | start store => exact sound_start S store
  | compile w content path t _ ih => exact (compile_spec hS ih w content path t).1
  | resolvedModules w content path _ ih => exact resolvedModules_sound ih w content path

/-- A compile on a reached compiler either fails or gives the fresh emit of its content with the
call's options, for content that passes the syntactic check. This holds also when the output is
one stored by an earlier compile: what such a reuse skips can only turn a failure into a success,
never change the output. -/
theorem compile_fails_or_fresh_emit {h : HostConfig} {store : FileStore} {modules : Registry}
    {env : Option String} {S : Settings} (hS : Settings.build h store modules env = .ok S)
    {c : CheckedCompiler} (hc : Reaches S c) (w : Workspace) (content : String) {path : Path}
    {x : String} (hx : path.normalize.extension = some x) (t : TransformOptions) :
    (∃ e, ((compile S content path t).run.run (w, c)).1 = .error e) ∨
      (((compile S content path t).run.run (w, c)).1 =
          .ok (emitted content path.normalize (S.optionsFor t)) ∧
        S.SyntaxPasses content path.normalize) := by
  have hpasses := Settings.build_passesOnUntyped hS
  cases hr : ((compile S content path t).run.run (w, c)).1 with
  | error e => exact .inl ⟨e, rfl⟩
  | ok o =>
    obtain ⟨hsel, hsyntax⟩ := (compile_spec hpasses (hc.sound hpasses) w content path t).2 o hr
    rw [selectOutput_emitFor hx] at hsel
    cases hsel
    exact .inr ⟨rfl, hsyntax⟩

/-- A fresh compiler for the default settings of a project at /p compiles a script twice: the
first compile stores its output, which the second hands back without checking again. -/
theorem compile_fails_or_fresh_emit_reused :
    ∃ S c, Settings.build (HostConfig.ofRoot ⟨"/p"⟩) FileStore.emptyMemory
        ⟨[⟨"typescript", "5.0.0"⟩]⟩ none = .ok S ∧
      c = ((compile S "export const a: number = 1;\n" ⟨"/p/a.ts"⟩ ⟨false, false⟩).run.run
        (⟨FileStore.emptyMemory, [Module.ofVersion "typescript" "5.0.0"], [], none, none, []⟩,
          start S FileStore.emptyMemory)).2.2 ∧
      (c.host.files.output? ⟨"/p/a.ts"⟩ c.host.projectVersion).isSome = true ∧
      ((∃ e, ((compile S "export const a: number = 1;\n" ⟨"/p/a.ts"⟩ ⟨false, false⟩).run.run
          (⟨FileStore.emptyMemory, [Module.ofVersion "typescript" "5.0.0"], [], none, none, []⟩,
            c)).1 = .error e) ∨
        (((compile S "export const a: number = 1;\n" ⟨"/p/a.ts"⟩ ⟨false, false⟩).run.run
          (⟨FileStore.emptyMemory, [Module.ofVersion "typescript" "5.0.0"], [], none, none, []⟩,
            c)).1 =
            .ok (emitted "export const a: number = 1;\n" (Path.normalize ⟨"/p/a.ts"⟩)
              (S.optionsFor ⟨false, false⟩)) ∧
          S.SyntaxPasses "export const a: number = 1;\n" (Path.normalize ⟨"/p/a.ts"⟩))) := by
  obtain ⟨S, hS⟩ := Settings.build_ofRoot
  -- evaluated on the settings the host builds: the first compile leaves its output stored
  have hstored : ((Settings.build (HostConfig.ofRoot ⟨"/p"⟩) FileStore.emptyMemory
      ⟨[⟨"typescript", "5.0.0"⟩]⟩ none).map (fun S =>
        let c := ((compile S "export const a: number = 1;\n" ⟨"/p/a.ts"⟩ ⟨false, false⟩).run.run
          (⟨FileStore.emptyMemory, [Module.ofVersion "typescript" "5.0.0"], [], none, none, []⟩,
            start S FileStore.emptyMemory)).2.2
        (c.host.files.output? ⟨"/p/a.ts"⟩ c.host.projectVersion).isSome)).toOption = some true := by
    decide +kernel
  rw [hS] at hstored
  exact ⟨S, _, hS, rfl, Option.some.inj hstored, compile_fails_or_fresh_emit hS (.compile _ _ _ _ (.start _)) _ _
    (show (Path.normalize ⟨"/p/a.ts"⟩).extension = some "ts" by decide +kernel) _⟩

end CheckedCompiler
end Compiler

/-! ## Transformations -/

namespace Transformer

/-- A transformation on a reachable worker whose copy of the settings is current either fails or
gives the output of the files, the settings, the next transformer, the source, the path and the
call's options: none of the earlier calls on the worker shows in a result that succeeds. -/
theorem process_fails_or_history_free {T : Transformer} (hT : Reachable T) {w : Workspace}
    {h : HostConfig} (hc : T.Current w h) {S : Settings}
    (hS : Settings.build h w.store w.registry w.envIgnore = .ok S) (source : String) (p : Path)
    (t : TransformOptions) :
    (∃ e, ((process source p h t).run.run (w, T)).1 = .error e) ∨
      ∃ o, transformOutput w.store S w.fallback source p t = some o ∧
        ((process source p h t).run.run (w, T)).1 = .ok o := by
  cases hr : ((process source p h t).run.run (w, T)).1 with
  | error e => exact .inl ⟨e, rfl⟩
  | ok o => exact .inr ⟨o, (process_output hT.sound (settingsAt_ok_of_current hc hS) source p t hr).1, rfl⟩

/-- The worker of a project at /p after the key of /p/a.ts, whose import walk has loaded the
declaration file /p/g.d.ts: a transformation of /p/b.ts, which names the global that file
declares, fails or gives `transformOutput`. -/
theorem process_fails_or_history_free_after_key :
    let w : Workspace := ⟨.memory [(⟨"/p/a.ts"⟩, ⟨"import \"./g\";\n", 0⟩),
        (⟨"/p/b.ts"⟩, ⟨"export const x = __G__;\n", 0⟩),
        (⟨"/p/g.d.ts"⟩, ⟨"declare const __G__: number;\n", 0⟩)] 0,
      [Module.ofVersion "typescript" "5.0.0"], [], none, none, []⟩
    let h := HostConfig.ofRoot ⟨"/p"⟩
    let T := ((cacheKeyFor "import \"./g\";\n" ⟨"/p/a.ts"⟩ h ⟨false, false⟩).run.run (w, empty)).2.2
    ∃ S, Settings.build h w.store w.registry w.envIgnore = .ok S ∧
      ((∃ e, ((process "export const x = __G__;\n" ⟨"/p/b.ts"⟩ h ⟨false, false⟩).run.run (w, T)).1 =
          .error e) ∨
        ∃ o, transformOutput w.store S w.fallback "export const x = __G__;\n" ⟨"/p/b.ts"⟩
            ⟨false, false⟩ = some o ∧
          ((process "export const x = __G__;\n" ⟨"/p/b.ts"⟩ h ⟨false, false⟩).run.run (w, T)).1 =
            .ok o) := by
  intro w h T
  obtain ⟨S, hS⟩ := except_ok_of_isOk
    (show (Settings.build h w.store w.registry w.envIgnore).isOk = true by decide +kernel)
  -- the key keeps the settings the fresh worker built from these files
  have hcur : T.Current w h :=
    (settingsAt_cacheKeyFor (settingsAt_ok_of_current (current_empty w h) hS) _ _ _ w).trans
      (congrArg (Except.mapError TransformError.config) hS).symm
  exact ⟨S, hS, process_fails_or_history_free (.cacheKeyFor w _ _ h _ .empty) hcur hS _ _ _⟩

/-- What came before decides whether a transformation fails. A fresh worker fails /p/b.ts, which
names a global declared only in /p/g.d.ts; a worker that first computed the key of /p/a.ts,
whose walk of the imports loads /p/g.d.ts into the compiler, succeeds on it with the same files. -/
theorem history_decides_failure :
    let w : Workspace := ⟨.memory [(⟨"/p/a.ts"⟩, ⟨"import \"./g\";\n", 0⟩),
        (⟨"/p/b.ts"⟩, ⟨"export const x = __G__;\n", 0⟩),
        (⟨"/p/g.d.ts"⟩, ⟨"declare const __G__: number;\n", 0⟩)] 0,
      [Module.ofVersion "typescript" "5.0.0"], [], none, none, []⟩
    let h := HostConfig.ofRoot ⟨"/p"⟩
    let T := ((cacheKeyFor "import \"./g\";\n" ⟨"/p/a.ts"⟩ h ⟨false, false⟩).run.run (w, empty)).2.2
    ((process "export const x = __G__;\n" ⟨"/p/b.ts"⟩ h ⟨false, false⟩).run.run (w, empty)).1.isOk = false ∧
      ((process "export const x = __G__;\n" ⟨"/p/b.ts"⟩ h ⟨false, false⟩).run.run (w, T)).1.isOk = true := by
  intro w h T
  decide +kernel

/-- The options a compile is given read the call's options only through the ES-module switch. -/
theorem optionsFor_esm (S : Settings) {t₁ t₂ : TransformOptions}
    (hesm : t₁.supportsStaticEsm = t₂.supportsStaticEsm) : S.optionsFor t₁ = S.optionsFor t₂ := by
  simp only [Settings.optionsFor, hesm]

/-- So does the output of a transformation. -/
theorem transformOutput_esm (store : FileStore) (S : Settings) (fallback : Option Fallback)
    (source : String) (p : Path) {t₁ t₂ : TransformOptions}
    (hesm : t₁.supportsStaticEsm = t₂.supportsStaticEsm) :
    transformOutput store S fallback source p t₁ = transformOutput store S fallback source p t₂ := by
  unfold transformOutput kindOutput compiledOutput expectedOutput
  rw [optionsFor_esm S hesm]

/-- Outside the referenced projects the output reads nothing from the files. -/
theorem transformOutput_of_no_reference (store₁ store₂ : FileStore) {S : Settings}
    (fallback : Option Fallback) (source : String) {p : Path}
    (href : S.referenceFor (Path.resolve S.rootDir p) = none) (t : TransformOptions) :
    transformOutput store₁ S fallback source p t = transformOutput store₂ S fallback source p t := by
  unfold transformOutput kindOutput compiledOutput
  dsimp only
  rw [expectedOutput_of_no_reference t href, expectedOutput_of_no_reference t href]

/-- The output reads the path only as resolved against the root. -/
theorem transformOutput_resolve (store : FileStore) (S : Settings) (fallback : Option Fallback)
    (source : String) {p₁ p₂ : Path} (hp : Path.resolve S.rootDir p₁ = Path.resolve S.rootDir p₂)
    (t : TransformOptions) :
    transformOutput store S fallback source p₁ t = transformOutput store S fallback source p₂ t := by
  unfold transformOutput
  rw [hp]

/-- Two next transformers of one name that both pass a result on give the same output: one that
fails never does. -/
theorem afterFallback_agree {f₁ f₂ : Option Fallback}
    (hname : f₁.map Fallback.name = f₂.map Fallback.name) {r : Option Transformed}
    {o₁ o₂ : Transformed} (h₁ : afterFallback f₁ r = some o₁) (h₂ : afterFallback f₂ r = some o₂) :
    o₁ = o₂ := by
  cases r with
  | none => rcases f₁ with _ | _ | _ <;> cases h₁
  | some r =>
    rcases f₁ with _ | ⟨n₁⟩ | ⟨n₁, m₁⟩ <;> rcases f₂ with _ | ⟨n₂⟩ | ⟨n₂, m₂⟩ <;>
      simp_all [afterFallback]

theorem transformOutput_fallback {store : FileStore} {S : Settings} {f₁ f₂ : Option Fallback}
    (hname : f₁.map Fallback.name = f₂.map Fallback.name) {source : String} {p : Path}
    {t : TransformOptions} {o₁ o₂ : Transformed} (h₁ : transformOutput store S f₁ source p t = some o₁)
    (h₂ : transformOutput store S f₂ source p t = some o₂) : o₁ = o₂ := by
  unfold transformOutput at h₁ h₂
  dsimp only at h₁ h₂
  split_ifs at h₁ h₂
  · exact (Option.some.inj h₁).symm.trans (Option.some.inj h₂)
  · exact (Option.some.inj h₁).symm.trans (Option.some.inj h₂)
  · exact afterFallback_agree hname h₁ h₂

/-- Cache keys cover what a successful transformation reads, short of the ES-module switch and
of the built outputs of referenced projects. Take two calls at two moments whose files may
differ, on workers with any history that hold one copy of the settings, for a file outside the
referenced projects and with one ES-module switch. When the keys they compute are equal and both
transformations succeed, the outputs are equal, unless the key's hash gives one value for two
different sequences of parts: equal parts mean one source, one resolved path and one next
transformer, and the output reads nothing else from the call or, outside the referenced
projects, from the files. -/
theorem equal_keys_same_output_or_collision {T₁ T₂ : Transformer} (hT₁ : Reachable T₁)
    (hT₂ : Reachable T₂) {w₁ w₂ : Workspace} {h : HostConfig} {S : Settings}
    (hS₁ : T₁.settingsAt w₁ h = .ok S) (hS₂ : T₂.settingsAt w₂ h = .ok S) {source₁ source₂ : String}
    {p₁ p₂ : Path} (href : S.referenceFor (Path.resolve S.rootDir p₁) = none)
    {t₁ t₂ : TransformOptions} (hesm : t₁.supportsStaticEsm = t₂.supportsStaticEsm)
    {key₁ key₂ : String} {σ₁ σ₂ : Workspace × Transformer}
    (hk₁ : (cacheKeyFor source₁ p₁ h t₁).run.run (w₁, T₁) = (.ok key₁, σ₁))
    (hk₂ : (cacheKeyFor source₂ p₂ h t₂).run.run (w₂, T₂) = (.ok key₂, σ₂)) (hkey : key₁ = key₂)
    {o₁ o₂ : Transformed} (ho₁ : ((process source₁ p₁ h t₁).run.run (w₁, T₁)).1 = .ok o₁)
    (ho₂ : ((process source₂ p₂ h t₂).run.run (w₂, T₂)).1 = .ok o₂) :
    o₁ = o₂ ∨ ∃ ms₁ ms₂,
      key₁ = Hash.ofParts ((keyInputs S source₁ p₁ t₁ ms₁).parts (w₁.fallback.map Fallback.name)) ∧
        key₂ = Hash.ofParts ((keyInputs S source₂ p₂ t₂ ms₂).parts (w₂.fallback.map Fallback.name)) ∧
        (keyInputs S source₁ p₁ t₁ ms₁).parts (w₁.fallback.map Fallback.name) ≠
          (keyInputs S source₂ p₂ t₂ ms₂).parts (w₂.fallback.map Fallback.name) ∧
        Hash.ofParts ((keyInputs S source₁ p₁ t₁ ms₁).parts (w₁.fallback.map Fallback.name)) =
          Hash.ofParts ((keyInputs S source₂ p₂ t₂ ms₂).parts (w₂.fallback.map Fallback.name)) := by
  obtain ⟨ms₁, hkey₁⟩ := cacheKeyFor_eq_ofParts hS₁ hk₁
  obtain ⟨ms₂, hkey₂⟩ := cacheKeyFor_eq_ofParts hS₂ hk₂
  by_cases hparts : (keyInputs S source₁ p₁ t₁ ms₁).parts (w₁.fallback.map Fallback.name) =
      (keyInputs S source₂ p₂ t₂ ms₂).parts (w₂.fallback.map Fallback.name)
  case neg =>
    -- different parts behind one key: the hash collides on them
    exact .inr ⟨ms₁, ms₂, hkey₁, hkey₂, hparts, hkey₁.symm.trans (hkey.trans hkey₂)⟩
  left
  -- equal parts: one next transformer's name, one source and one resolved path
  obtain ⟨hname, hinputs⟩ := Hash.KeyInputs.parts_eq hparts
  have hsource : source₁ = source₂ := congrArg Hash.KeyInputs.source hinputs
  have hpath : Path.resolve S.rootDir p₁ = Path.resolve S.rootDir p₂ :=
    congrArg Path.mk (congrArg Hash.KeyInputs.path hinputs)
  have h₁ := (process_output hT₁.sound hS₁ source₁ p₁ t₁ ho₁).1
  have h₂ := (process_output hT₂.sound hS₂ source₂ p₂ t₂ ho₂).1
  have h₁' : transformOutput w₂.store S w₁.fallback source₂ p₂ t₂ = some o₁ := by
    calc transformOutput w₂.store S w₁.fallback source₂ p₂ t₂
        = transformOutput w₂.store S w₁.fallback source₁ p₁ t₁ := by
          rw [hsource, transformOutput_resolve _ _ _ _ hpath, transformOutput_esm _ _ _ _ _ hesm]
      _ = transformOutput w₁.store S w₁.fallback source₁ p₁ t₁ :=
          transformOutput_of_no_reference _ _ _ _ href _
      _ = some o₁ := h₁
  exact transformOutput_fallback hname h₁' h₂

/-- A script at the root of an isolated project, transformed by fresh workers before and after a
second file is written: both moments give one key, and the theorem gives one output. -/
theorem equal_keys_after_new_file :
    let h := { HostConfig.ofRoot ⟨"/p"⟩ with
      globals := [("ts-jest", .obj [("isolatedModules", .bool true)])] }
    let w₁ : Workspace := ⟨.memory [(⟨"/p/a.ts"⟩, ⟨"export const a = 1;\n", 0⟩)] 0,
      [Module.ofVersion "typescript" "5.0.0"], [], none, none, []⟩
    let w₂ : Workspace := { w₁ with store := .memory [(⟨"/p/a.ts"⟩, ⟨"export const a = 1;\n", 0⟩),
      (⟨"/p/b.ts"⟩, ⟨"export const b = 2;\n", 1⟩)] 1 }
    let source := "export const a = 1;\n"
    ∃ S key o₁ o₂ σ₁ σ₂, Settings.build h w₁.store w₁.registry w₁.envIgnore = .ok S ∧
      (cacheKeyFor source ⟨"/p/a.ts"⟩ h ⟨false, false⟩).run.run (w₁, empty) = (.ok key, σ₁) ∧
      (cacheKeyFor source ⟨"/p/a.ts"⟩ h ⟨false, false⟩).run.run (w₂, empty) = (.ok key, σ₂) ∧
      ((process source ⟨"/p/a.ts"⟩ h ⟨false, false⟩).run.run (w₁, empty)).1 = .ok o₁ ∧
      ((process source ⟨"/p/a.ts"⟩ h ⟨false, false⟩).run.run (w₂, empty)).1 = .ok o₂ ∧
      (o₁ = o₂ ∨ ∃ ms₁ ms₂,
        key = Hash.ofParts ((keyInputs S source ⟨"/p/a.ts"⟩ ⟨false, false⟩ ms₁).parts
            (w₁.fallback.map Fallback.name)) ∧
          key = Hash.ofParts ((keyInputs S source ⟨"/p/a.ts"⟩ ⟨false, false⟩ ms₂).parts
            (w₂.fallback.map Fallback.name)) ∧
          (keyInputs S source ⟨"/p/a.ts"⟩ ⟨false, false⟩ ms₁).parts (w₁.fallback.map Fallback.name) ≠
            (keyInputs S source ⟨"/p/a.ts"⟩ ⟨false, false⟩ ms₂).parts (w₂.fallback.map Fallback.name) ∧
          Hash.ofParts ((keyInputs S source ⟨"/p/a.ts"⟩ ⟨false, false⟩ ms₁).parts
              (w₁.fallback.map Fallback.name)) =
            Hash.ofParts ((keyInputs S source ⟨"/p/a.ts"⟩ ⟨false, false⟩ ms₂).parts
              (w₂.fallback.map Fallback.name))) := by
  intro h w₁ w₂ source
  -- the host names no project file and the root holds none at either moment, so both moments
  -- build the same settings
  obtain ⟨S, hS⟩ := except_ok_of_isOk
    (show (Settings.build h w₁.store w₁.registry w₁.envIgnore).isOk = true by decide +kernel)
  have hS₂ : Settings.build h w₂.store w₂.registry w₂.envIgnore = .ok S := by
    rw [← hS]
    exact Settings.build_congr_store (o := { ToolOptions.default with isolatedModules := true })
      rfl rfl (by decide +kernel) (by decide +kernel) _ _
  have hiso : S.isolated = true := by
    have hb : ((Settings.build h w₁.store w₁.registry w₁.envIgnore).toOption.map Settings.isolated) =
        some true := by decide +kernel
    rw [hS] at hb
    exact Option.some.inj hb
  have href : S.referenceFor (Path.resolve S.rootDir ⟨"/p/a.ts"⟩) = none := by
    have hb : ((Settings.build h w₁.store w₁.registry w₁.envIgnore).toOption.map
        (fun S => (S.referenceFor (Path.resolve S.rootDir ⟨"/p/a.ts"⟩)).isNone)) = some true := by
      decide +kernel
    rw [hS] at hb
    exact Option.isNone_iff_eq_none.mp (Option.some.inj hb)
  have hcur₁ : empty.settingsAt w₁ h = .ok S := settingsAt_ok_of_current (current_empty w₁ h) hS
  have hcur₂ : empty.settingsAt w₂ h = .ok S := settingsAt_ok_of_current (current_empty w₂ h) hS₂
  -- isolated keys read no file: both moments give the key of the settings and the call
  obtain ⟨σ₁, hk₁⟩ : ∃ σ, (cacheKeyFor source ⟨"/p/a.ts"⟩ h ⟨false, false⟩).run.run (w₁, empty) =
      (.ok (Hash.ofParts ((keyInputs S source ⟨"/p/a.ts"⟩ ⟨false, false⟩ []).parts none)), σ) :=
    cacheKeyFor_isolated hcur₁ hiso
  obtain ⟨σ₂, hk₂⟩ : ∃ σ, (cacheKeyFor source ⟨"/p/a.ts"⟩ h ⟨false, false⟩).run.run (w₂, empty) =
      (.ok (Hash.ofParts ((keyInputs S source ⟨"/p/a.ts"⟩ ⟨false, false⟩ []).parts none)), σ) :=
    cacheKeyFor_isolated hcur₂ hiso
  -- the script goes to the isolated compiler, whose output is the emit of its text: it exists
  -- at the first moment, is the same at the second, and the braces of the text pair up
  have hsome : ((Settings.build h w₁.store w₁.registry w₁.envIgnore).toOption.map (fun S =>
      (transformOutput w₁.store S none source ⟨"/p/a.ts"⟩ ⟨false, false⟩).isSome)) = some true := by
    decide +kernel
  rw [hS] at hsome
  obtain ⟨o, ho⟩ := Option.isSome_iff_exists.mp (Option.some.inj hsome)
  have hpass : ∀ path, S.SyntaxPasses source path := fun path =>
    Settings.syntaxPasses_of_balanced S path (by decide)
  obtain ⟨_, hp₁⟩ := process_of_isolated sound_empty hcur₁ hiso source ⟨"/p/a.ts"⟩ ⟨false, false⟩ ho
    (fun _ _ => hpass _)
  obtain ⟨_, hp₂⟩ := process_of_isolated sound_empty hcur₂ hiso source ⟨"/p/a.ts"⟩ ⟨false, false⟩
    ((transformOutput_of_no_reference w₂.store w₁.store none source href _).trans ho)
    (fun _ _ => hpass _)
  have ho₁ : ((process source ⟨"/p/a.ts"⟩ h ⟨false, false⟩).run.run (w₁, empty)).1 = .ok o := by
    rw [hp₁]
  have ho₂ : ((process source ⟨"/p/a.ts"⟩ h ⟨false, false⟩).run.run (w₂, empty)).1 = .ok o := by
    rw [hp₂]
  exact ⟨S, _, o, o, σ₁, σ₂, hS, hk₁, hk₂, ho₁, ho₂,
    equal_keys_same_output_or_collision .empty .empty hcur₁ hcur₂ href rfl hk₁ hk₂ rfl ho₁ ho₂⟩

end Transformer

end TestTransform
