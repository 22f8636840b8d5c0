/-
Sessions: the transformer end to end over one workspace.

A session seeds a store with files, registers one stand-in compiler module per name, and runs
steps in order. Workers are transformers sharing the workspace, so they share the files, the
modules' counters and the reported diagnostics, while each keeps its own settings and
compilers; a step names its worker, and a worker is made on first use. Compilers can also be
made directly from a worker's settings and kept under a name.

Every step is answered by its result, the diagnostics reported during it, the modules'
counters after it and, with a recording transformer after compilation, the calls it made
during the step.
-/
import TestTransform.Api.Store
import TestTransform.Api.Failure
import TestTransform.Api.Table
import TestTransform.Api.Diagnostics
import TestTransform.Transform

namespace TestTransform
namespace Api

open Json Config Compiler

/-- A session's state. -/
structure Session where
  workspace : Workspace
  workers : List (Nat × Transformer)
  /-- compilers made directly, by name, with the settings they were made from -/
  compilers : List (String × (Settings × Compiler.Instance))

/-- The members of a step's result. -/
abbrev Members := List (String × Value)

namespace Session

def worker (ss : Session) (k : Nat) : Transformer := (ss.workers.lookup k).getD Transformer.empty

def setWorker (ss : Session) (k : Nat) (t : Transformer) : Session :=
  { ss with workers := (k, t) :: ss.workers.filter (·.1 != k) }

/-- Runs a transformer step on worker `k`: the members of its result, and the session after. -/
def onWorker {α : Type} (ss : Session) (k : Nat) (m : Transforming α) (f : α → Value) :
    Members × Session :=
  let (r, (w, t)) := (m.run).run (ss.workspace, ss.worker k)
  let ss := { ss.setWorker k t with workspace := w }
  match r with
  | .ok a => ([("ok", f a)], ss)
  | .error e => (transformMembers e, ss)

end Session

def statsValue (s : Standin.Stats) : Value :=
  .obj [("emits", nat s.emits), ("program_builds", nat s.programBuilds),
    ("program_files", paths s.programFiles), ("semantic_checks", nat s.semanticChecks),
    ("transpiles", nat s.transpiles)]

def modulesStats (ms : List Standin.Module) : Value :=
  .obj (Value.sortMembers (ms.map (fun m => (m.name, statsValue m.stats))))

/-- The per-call options of a step; both are off when not given. -/
def transformOf (v : Value) : TransformOptions :=
  ⟨(v.get? "instrument" >>= Value.asBool?).getD false,
   (v.get? "supportsStaticESM" >>= Value.asBool?).getD false⟩

def transformField (step : Value) : TransformOptions :=
  transformOf ((step.get? "transform").getD (.obj []))

/-- The host of a step: the record of its object's compact text. -/
def hostOf (step : Value) : Except ConfigError HostConfig :=
  HostConfig.ofJson ((step.get? "host").getD .null).compact

def diagnosticsPolicyValue (p : Policy) : Value :=
  .obj [("enabled", bool p.enabled), ("ignore_codes", .arr (p.ignoreCodes.map nat)),
    ("path_regex", optText (p.pathRegex.map (·.source))), ("pretty", bool p.pretty),
    ("throws", bool p.throws)]

def referenceSummary (r : ProjectReference) : Value :=
  .obj [("config_path", path r.configPath), ("out_dir", optPath r.outDir), ("root_dir", path r.rootDir)]

/-- What the settings say of one path. -/
def pathView (s : Settings) (p : Path) : Value :=
  .obj [("is_test_file", bool (s.isTestFile p)), ("path", path p),
    ("reference", optPath ((s.referenceFor p).map ProjectReference.configPath)),
    ("report", bool (s.shouldReport p)), ("stringify", bool (s.shouldStringify p))]

/-- The view of a worker's settings, with what the step asks for besides; raising diagnostics
reports the ones that remain. -/
def settingsView (s : Settings) (w : Workspace) (step : Value) : Decoding (Value × Workspace) := do
  let base : Members := [
    ("allow_js", bool s.allowsJs), ("cache_directory", optPath s.cacheDirectory),
    ("cache_key", .str s.cacheKey), ("compiler_name", .str s.compilerName),
    ("compiler_options", s.options.toValue), ("compiler_version", .str s.compilerVersion),
    ("cwd", path s.cwd), ("diagnostics", diagnosticsPolicyValue s.policy),
    ("file_names", paths s.fileNames), ("isolated", bool s.isolated),
    ("references", .arr (s.references.map referenceSummary)), ("root_dir", path s.rootDir),
    ("tsconfig_path", optPath s.tsconfigPath), ("use_esm", bool s.useEsm)]
  let optionsFor : Members := match step.get? "transform" with
    | some t => [("options_for", (s.optionsFor (transformOf t)).toValue)]
    | none => []
  let listed := ((← texts step "paths").map Path.mk).map (pathView s)
  let pathsPart : Members := match step.get? "paths" with
    | some _ => [("paths", .arr listed)]
    | none => []
  let (raisePart, w) ← match step.get? "raise" with
    | some r => do
      let ds ← (list r "diagnostics").mapM diagnostic
      match s.raiseDiagnostics w.store ds ⟨← text r "file"⟩ with
      | .ok warnings => pure ([("raise", Value.str "ok")], w.report warnings)
      | .error (message, codes) =>
        pure ([("raise", .obj [("codes", .arr (codes.map nat)), ("error", .str "TsError"),
          ("message", .str (CompileError.diagnostics message codes).message)])], w)
    | none => pure ([], w)
  let debugPart : Members := if flag step "debug"
    then [("debug", .str s.describe), ("host", .str s.host.canonical)] else []
  pure (.obj (Value.sortMembers (base ++ optionsFor ++ pathsPart ++ raisePart ++ debugPart)), w)

/-- The content a step gives, or the stored content at its path as given, or nothing. -/
def sourceOf (w : Workspace) (step : Value) (p : Path) : Decoding String := do
  match ← text? step "source" with
  | some s => pure s
  | none => pure ((w.store.read p).toOption.getD "")

/-- Runs a compile step on a compiler made directly. -/
def onCompiler {α : Type} (ss : Session) (id : String)
    (f : Settings → ExceptT CompileError (StateM (Workspace × Compiler.Instance)) α) (g : α → Value) :
    Members × Session :=
  match ss.compilers.lookup id with
  | none => (refusalMembers ("no compiler '" ++ id ++ "'"), ss)
  | some (s, inst) =>
    let (r, (w, inst)) := ((f s).run).run (ss.workspace, inst)
    let ss := { ss with workspace := w,
                        compilers := ss.compilers.map (fun (k, e) => if k == id then (k, (s, inst)) else (k, e)) }
    match r with
    | .ok a => ([("ok", g a)], ss)
    | .error e => (compileMembers e, ss)
where
  refusalMembers (message : String) : Members := [("error", .str "DriverError"), ("message", .str message)]

/-- One session step: the members of its result, and the session after it. -/
def sessionStep (ss : Session) (step : Value) : Decoding (Members × Session) := do
  let op ← text step "op"
  let k ← natural? step "worker" 0
  let w := ss.workspace
  let done (ss : Session) : Decoding (Members × Session) := pure ([("ok", .null)], ss)
  let withStore (store : FileStore) : Session := { ss with workspace := { w with store := store } }
  match op with
  | "process" =>
    let p : Path := ⟨← text step "path"⟩
    let source ← sourceOf w step p
    match hostOf step with
    | .error e => pure (configMembers e, ss)
    | .ok h =>
      pure (ss.onWorker k (Transformer.process source p h (transformField step))
        (fun r => .obj [("code", .str r.code), ("map", optText r.map)]))
  | "cache_key" | "cache_key_for" =>
    let p : Path := ⟨← text step "path"⟩
    let source ← sourceOf w step p
    let t := transformField step
    if op == "cache_key" then
      let serialized ← match step.get? "serialized" with
        | some (.str s) => pure s
        | _ => pure ((step.get? "host").getD .null).compact
      pure (ss.onWorker k (Transformer.cacheKey source p serialized t) Value.str)
    else
      match hostOf step with
      | .error e => pure (configMembers e, ss)
      | .ok h => pure (ss.onWorker k (Transformer.cacheKeyFor source p h t) Value.str)
  | "config" =>
    match hostOf step with
    | .error e => pure (configMembers e, ss)
    | .ok h =>
      let (r, (w, t)) := ((Transformer.settingsFor h).run).run (w, ss.worker k)
      let ss := { ss.setWorker k t with workspace := w }
      match r with
      | .error e => pure (transformMembers e, ss)
      | .ok s =>
        let (v, w) ← settingsView s ss.workspace step
        pure ([("ok", v)], { ss with workspace := w })
  | "write_file" =>
    match w.store.write ⟨← text step "path"⟩ (← text step "content") with
    | .ok store => done (withStore store)
    | .error e => pure ([("error", .str "io"), ("message", .str e.message)], ss)
  | "touch" => done (withStore (w.store.touch ⟨← text step "path"⟩))
  | "remove_file" =>
    match w.store.remove ⟨← text step "path"⟩ with
    | .ok store => done (withStore store)
    | .error e => pure ([("error", .str "io"), ("message", .str e.message)], ss)
  | "read_file" => pure ([("ok", optText (w.store.read ⟨← text step "path"⟩).toOption)], ss)
  | "read_graph" =>
    let file := Path.mk (← text step "cache_dir") / Hash.graphFileName
    pure ([("ok", optText (w.store.read file).toOption)], ss)
  | "list_files" =>
    match w.store.listFiles ⟨← text step "dir"⟩ with
    | .ok ps => pure ([("ok", paths ps)], ss)
    | .error e => pure ([("error", .str "io"), ("message", .str e.message)], ss)
  | "skip_emit" =>
    let p : Path := ⟨← text step "path"⟩
    pure ([("ok", .null)], { ss with workspace := { w with modules := w.modules.map (·.skipEmit p) } })
  | "paths" => pure ([("ok", paths w.store.paths)], ss)
  | "compiler_new" =>
    let id := (← text? step "id").getD "0"
    match hostOf step with
    | .error e => pure (configMembers e, ss)
    | .ok h =>
      let (r, (w, t)) := ((Transformer.settingsFor h).run).run (w, ss.worker k)
      let ss := { ss.setWorker k t with workspace := w }
      match r with
      | .error e => pure (transformMembers e, ss)
      | .ok s =>
        let entry := (id, (s, Compiler.Instance.start s w.store))
        pure ([("ok", .null)], { ss with compilers := entry :: ss.compilers.filter (·.1 != id) })
  | "compile" =>
    let id := (← text? step "id").getD "0"
    let p : Path := ⟨← text step "path"⟩
    let source ← sourceOf w step p
    let t := transformField step
    pure (onCompiler ss id (fun s => Compiler.Instance.compile s source p t) (fun o => outputValue o))
  | "resolved_modules" =>
    let id := (← text? step "id").getD "0"
    let p : Path := ⟨← text step "path"⟩
    let source ← sourceOf w step p
    pure (onCompiler ss id (fun s => Compiler.Instance.resolvedModules s source p) paths)
  | _ => throw ("unknown session step '" ++ op ++ "'")

/-- A step's answer: its result with the diagnostics and calls since `before`, and the
counters. -/
def stepAnswer (result : Members) (w : Workspace) (before : Nat × Nat) : Value :=
  let calls : Members := match w.fallback with
    | some (.recording _) =>
      [("fallback_calls", .arr ((w.calls.drop before.2).map (fun (p, i) => .arr [path p, bool i])))]
    | _ => []
  .obj (Value.sortMembers (result ++ calls ++
    [("diagnostics", .arr ((w.reported.drop before.1).map Diagnostic.toValue)),
     ("stats", modulesStats w.modules)]))

/-- The steps' answers, in order. -/
def runSession (ss : Session) (steps : List Value) : List Value :=
  (steps.foldl (fun (acc : List Value × Session) step =>
    let ss := acc.2
    let before := (ss.workspace.reported.length, ss.workspace.calls.length)
    let (result, ss) := match sessionStep ss step with
      | .ok r => r
      | .error m => ([("error", .str "DriverError"), ("message", .str m)], ss)
    (stepAnswer result ss.workspace before :: acc.1, ss)) ([], ss)).1.reverse

/-- The compiler modules of a session: one per name given, or the default one. -/
def modulesOf (req : Value) : List Standin.Module :=
  match req.get? "compilers" with
  | some (.obj ms) => ms.map (fun (name, v) => Standin.Module.ofVersion name ((v.asString?).getD ""))
  | _ => [Standin.Module.ofVersion "typescript" "5.4.5-fake"]

def fallbackOf (req : Value) : Option Fallback :=
  match req.get? "fallback" with
  | some f =>
    match f.get? "name", f.get? "fail" with
    | some (.str n), some (.str m) => some (.failing n m)
    | some (.str n), _ => some (.recording n)
    | _, _ => none
  | none => none

/-- `session`: the answers of the steps over a freshly seeded workspace. -/
def session (req : Value) : Decoding Value := do
  let files ← filesOf req
  let store ← files.foldlM (fun s (p, c) => match s.write p c with
    | .ok s => .ok s
    | .error e => .error ("cannot write " ++ p.text ++ ": " ++ e.message)) FileStore.emptyMemory
  let skipped := (← texts req "skip_emit").map Path.mk
  let modules := (modulesOf req).map (fun m => skipped.foldl Standin.Module.skipEmit m)
  let w : Workspace := ⟨store, modules, [], ← text? req "env_ignore", fallbackOf req, []⟩
  pure (ok (.arr (runSession ⟨w, [], []⟩ (list req "steps"))))

end Api
end TestTransform
