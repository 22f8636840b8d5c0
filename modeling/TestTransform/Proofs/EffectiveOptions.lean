import TestTransform.Proofs.TableLookup
import TestTransform.Proofs.ExtendsUnfolding
import TestTransform.Proofs.Modes

/-
The compiler options that settings hand to a compile.

Building settings finds the project file in effect (none when the tool turns the search off or
none is found), merges the inline overrides over that file's options key by key, their path
options made absolute against the root directory, and reads the result as typed options. The
language level then defaults to ES2015 when none is named, JavaScript output goes below the
root when JavaScript is allowed and no output directory is named, and the options the
transform depends on are forced. A compile call changes the module system only: the ES module
kind configured (ESNext when none is) with the interop switches on, when the tool asks for ES
modules and the call can run them, and CommonJS otherwise.

Main statement: `effective_compiler_options`.
-/

namespace TestTransform

/-- Changing the values of an object's members, each by its key, changes a look-up's answer the
same way. -/
theorem Json.Value.get?_obj_map (g : String → Json.Value → Json.Value)
    (ms : List (String × Json.Value)) (k : String) :
    (Json.Value.obj (ms.map fun e => (e.1, g e.1 e.2))).get? k =
      ((Json.Value.obj ms).get? k).map (g k) := by
  simp only [Json.Value.get?_obj, ← List.map_reverse, List.find?_map, Function.comp_def]
  cases h : ms.reverse.find? (·.1 == k) with
  | none => rfl
  | some e =>
    have hk : e.1 = k := by simpa using List.find?_some h
    simp [hk]

namespace Config

open Json

/-- The options a tsconfig source sets inline: those of an object, none otherwise. -/
def TsConfigSource.overrides : Option TsConfigSource → List (String × Value)
  | some (.inline ms) => ms
  | _ => []

/-- An inline option's value as merged: a text made absolute against `root` when `k` names a path
option, any other value as given. -/
def pathValue (root : Path) (k : String) : Value → Value
  | .str s => if pathOptions.contains k then .str (Path.resolve root ⟨s⟩).text else .str s
  | v => v

theorem absolutize_eq (root : Path) (ms : List (String × Value)) :
    TsConfig.absolutize root ms = ms.map fun e => (e.1, pathValue root e.1 e.2) := by
  unfold TsConfig.absolutize
  congr 1
  funext e
  obtain ⟨k, v⟩ := e
  cases v <;> try rfl
  simp only [pathValue]
  split <;> rfl

/-! ## Raw options -/

/-- A merge answers each key with the later options' value, else with the earlier ones'. -/
theorem mergeOptions_get? (earlier later : List (String × Value)) (k : String) :
    (Value.obj (TsConfig.mergeOptions earlier later)).get? k =
      ((Value.obj later).get? k).or ((Value.obj earlier).get? k) := by
  rw [TsConfig.mergeOptions, Value.get?_sortMembers]
  simp only [Value.get?_obj, List.reverse_append, List.find?_append]
  cases (later.reverse.find? (·.1 == k)) <;> simp

/-- A project file's options come out of a merge, so they are sorted by key. -/
theorem read_options_sorted {store : FileStore} {path : Path} {c : TsConfig}
    (h : TsConfig.read store path = .ok c) : Table.Sorted c.compilerOptions := by
  unfold TsConfig.read at h
  cases hr : TsConfig.readFrom store (store.paths.length + 1) path.normalize [] with
  | error e => simp [hr, Except.map] at h
  | ok r =>
    have hc : r.1 = c := by simpa [hr, Except.map] using h
    subst hc
    rw [TsConfig.readFrom_succ] at hr
    split at hr
    · cases hr
    · obtain ⟨d, -, hr⟩ := except_bind_eq_ok.mp hr
      obtain ⟨bases, -, hr⟩ := except_bind_eq_ok.mp hr
      cases hr
      exact sortMembers_sorted _

/-- The options in effect before typing: the project file's, with the overrides of the source
merged over them key by key and their path options made absolute against `root`. -/
def RawOptions (root : Path) (source : Option TsConfigSource) (file raw : List (String × Value)) :
    Prop :=
  Table.Sorted raw ∧ ∀ k, (Value.obj raw).get? k =
    (((Value.obj (TsConfigSource.overrides source)).get? k).map (pathValue root k)).or
      ((Value.obj file).get? k)

theorem TsConfigSource.overrides_of_not_inline {source : Option TsConfigSource}
    (h : ∀ ms, source = some (.inline ms) → False) : TsConfigSource.overrides source = [] := by
  unfold TsConfigSource.overrides
  split
  · exact absurd rfl (h _)
  · rfl

theorem rawOptions_of_not_inline {root : Path} {source : Option TsConfigSource}
    {file : List (String × Value)} (hsorted : Table.Sorted file)
    (hsource : ∀ ms, source = some (.inline ms) → False) :
    RawOptions root source file file := by
  refine ⟨hsorted, fun k => ?_⟩
  simp [TsConfigSource.overrides_of_not_inline hsource]

theorem rawOptions_inline (root : Path) (file ms : List (String × Value)) :
    RawOptions root (some (.inline ms)) file
      (TsConfig.mergeOptions file (TsConfig.absolutize root ms)) :=
  ⟨sortMembers_sorted _, fun k => by
    rw [mergeOptions_get?, absolutize_eq, Value.get?_obj_map]
    rfl⟩

/-! ## Typed options -/

/-- Typed options after the defaults and the forced values. -/
def finished (root : Path) (o : CompilerOptions) : CompilerOptions :=
  { o with
    target := o.target.or (some Target.default)
    outDir := if o.allowsJs && o.outDir.isNone then some (root / allowJsOutDir) else o.outDir
    sourceMap := some true, inlineSourceMap := some false, inlineSources := some true
    declaration := some false, noEmit := some false, removeComments := some false
    out := none, outFile := none, composite := none, declarationDir := none
    declarationMap := none, emitDeclarationOnly := none, sourceRoot := none
    tsBuildInfoFile := none }

/-- The default language level goes in before the output directory and the forced options, and
neither of those touches it. -/
theorem finish_eq (root : Path) (o : CompilerOptions) : finishOptions root o = finished root o := by
  obtain ⟨target, module, allowJs, esModuleInterop, allowSynthetic, sourceMap, inlineSourceMap,
    inlineSources, declaration, declarationMap, declarationDir, emitDeclarationOnly, composite,
    noEmit, removeComments, outDir, rootDir, outFile, out, sourceRoot, tsBuildInfoFile, other⟩ := o
  -- the defaults read only `target`, `allowJs` and `outDir`
  cases target <;> cases outDir <;> rcases allowJs with _ | ⟨_ | _⟩ <;> rfl

/-- The project file in effect and the options it gives. -/
structure ProjectOptions (store : FileStore) (source : Option TsConfigSource) (path : Option Path)
    (file : List (String × Value)) : Prop where
  off : source = some (.toggle false) → path = none
  none_of_none : path = none → file = []
  read_of_some : ∀ p, path = some p → ∃ c, TsConfig.read store p = .ok c ∧ file = c.compilerOptions

theorem resolveProject_options {store : FileStore} {h : HostConfig} {source : Option TsConfigSource}
    {withFileNames : Bool} {P : ResolvedProject}
    (hP : resolveProject store h source withFileNames = .ok P) :
    ∃ file raw o, ProjectOptions store source P.path file ∧ RawOptions h.rootDir source file raw ∧
      CompilerOptions.ofValue (.obj raw) = .ok o ∧ P.options = finished h.rootDir o := by
  obtain ⟨file, o, hpath, hfile, ho, hopts, -, -⟩ := resolveProject_eq_ok hP
  -- the project file in effect, and the sorted options it gives
  have hproject : ProjectOptions store source P.path file.compilerOptions := by
    refine ⟨fun hs => ?_, fun hnone => ?_, fun p hp => ⟨file, ?_, rfl⟩⟩
    · rw [hs, projectPath_off] at hpath
      exact (Except.ok.inj hpath).symm
    · rw [hnone, projectFile_none] at hfile
      rw [← Except.ok.inj hfile]
      rfl
    · rw [hp] at hfile
      exact hfile
  have hsorted : Table.Sorted file.compilerOptions := by
    cases hp : P.path with
    | none =>
      rw [hproject.none_of_none hp]
      exact List.Pairwise.nil
    | some p =>
      obtain ⟨c, hc, hfc⟩ := hproject.read_of_some p hp
      rw [hfc]
      exact read_options_sorted hc
  have hraw : RawOptions h.rootDir source file.compilerOptions (projectRaw h source file) := by
    unfold projectRaw
    split
    · exact rawOptions_inline h.rootDir _ _
    · exact rawOptions_of_not_inline hsorted ‹_›
  exact ⟨file.compilerOptions, projectRaw h source file, o, hproject, hraw, ho,
    hopts.trans (finish_eq h.rootDir o)⟩

namespace Settings

theorem withEnvCodes_project {h : HostConfig} {store : FileStore} {modules : Registry}
    {codes : List Nat} {s : Settings} (hs : withEnvCodes h store modules codes = .ok s) :
    ∃ tool P, h.toolOptions = .ok tool ∧ resolveProject store h tool.tsconfig (!tool.isolatedModules) = .ok P ∧
      s.tsconfigPath = P.path ∧ s.options = P.options ∧ s.useEsm = tool.useEsm := by
  obtain ⟨tool, P, _, _, _, _, htool, hP, -, -, -, -, rfl⟩ := withEnvCodes_eq_ok hs
  exact ⟨tool, P, htool, hP, rfl, rfl, rfl⟩

/-- A compile call keeps every option but the module system, which is the configured ES module
kind (ESNext when none is) with the interop switches on when the tool asks for ES modules and
the call can run them, and CommonJS otherwise. -/
theorem optionsFor_eq (s : Settings) (t : TransformOptions) :
    s.optionsFor t =
      if s.useEsm && t.supportsStaticEsm then
        { s.options with module := some ((s.options.module.filter ModuleKind.isEsModule).getD .esnext)
                         esModuleInterop := some true, allowSyntheticDefaultImports := some true }
      else { s.options with module := some .commonjs } := by
  unfold optionsFor CompilerOptions.forModuleSystem
  split
  · cases hm : s.options.module with
    | none => rfl
    | some m => cases he : m.isEsModule <;> simp [Option.filter, he]
  · rfl

end Settings

/-! ## Main statement -/

/-- The compiler options of settings built for a host: the options of the project file in effect
(none when the tool turns the search off or none is found), with the inline overrides merged
over them key by key and their path options made absolute against the root, read as typed
options; then the language level defaulted to ES2015 when absent, the output directory set below
the root when JavaScript is allowed and none is named, and the forced options applied. A compile
call changes only the module system and, for ES modules, the interop switches. -/
theorem effective_compiler_options {h : HostConfig} {store : FileStore} {modules : Registry}
    {env : Option String} {s : Settings} (hs : Settings.build h store modules env = .ok s) :
    ∃ (tool : ToolOptions) (file raw : List (String × Value)) (o : CompilerOptions),
      h.toolOptions = .ok tool ∧ ProjectOptions store tool.tsconfig s.tsconfigPath file ∧
      RawOptions h.rootDir tool.tsconfig file raw ∧ CompilerOptions.ofValue (.obj raw) = .ok o ∧
      s.options = finished h.rootDir o ∧ s.useEsm = tool.useEsm ∧
      ∀ t : TransformOptions, s.optionsFor t =
        if tool.useEsm && t.supportsStaticEsm then
          { s.options with module := some ((o.module.filter ModuleKind.isEsModule).getD .esnext)
                           esModuleInterop := some true, allowSyntheticDefaultImports := some true }
        else { s.options with module := some .commonjs } := by
  unfold Settings.build at hs
  obtain ⟨codes, -, hs⟩ := except_bind_eq_ok.mp hs
  obtain ⟨tool, P, htool, hP, hpath, hoptions, hesm⟩ := Settings.withEnvCodes_project hs
  obtain ⟨file, raw, o, hproject, hraw, ho, hfinished⟩ := resolveProject_options hP
  refine ⟨tool, file, raw, o, htool, hpath ▸ hproject, hraw, ho, hoptions.trans hfinished, hesm,
    fun t => ?_⟩
  -- the module the options carry into a call is the one read: finishing keeps it
  have hmodule : s.options.module = o.module := by rw [hoptions, hfinished]; rfl
  rw [Settings.optionsFor_eq, hesm, hmodule]

/-- A project at /p whose project file extends a base allowing JavaScript, with the output
directory overridden inline: the settings allow JavaScript, keep the override made absolute, and
hold finished typed options. -/
theorem extended_project_options_finished :
    let h : HostConfig := { HostConfig.ofRoot ⟨"/p"⟩ with
      globals := [("ts-jest", .obj [("tsconfig", .obj [("outDir", .str "dist")])])] }
    let store : FileStore := .memory [(⟨"/p/tsconfig.json"⟩, ⟨"\x7b\"extends\": \"./base.json\"\x7d", 0⟩),
      (⟨"/p/base.json"⟩, ⟨"\x7b\"compilerOptions\": \x7b\"allowJs\": true\x7d\x7d", 0⟩)] 0
    ∃ s, Settings.build h store ⟨[⟨"typescript", "5.0.0"⟩]⟩ none = .ok s ∧
      s.options.allowsJs = true ∧ s.options.outDir.map Path.text = some "/p/dist" ∧
      ∃ o, s.options = finished h.rootDir o := by
  intro h store
  obtain ⟨s, hS⟩ := except_ok_of_isOk (show (Settings.build h store ⟨[⟨"typescript", "5.0.0"⟩]⟩
    none).isOk = true by decide +kernel)
  have hfacts := show (Settings.build h store ⟨[⟨"typescript", "5.0.0"⟩]⟩ none).toOption.map
      (fun s => (s.options.allowsJs, s.options.outDir.map Path.text)) = some (true, some "/p/dist") by
    decide +kernel
  rw [hS] at hfacts
  obtain ⟨-, -, -, o, -, -, -, -, hfinished, -⟩ := effective_compiler_options hS
  exact ⟨s, hS, congrArg Prod.fst (Option.some.inj hfacts), congrArg Prod.snd (Option.some.inj hfacts),
    o, hfinished⟩

end Config
end TestTransform
