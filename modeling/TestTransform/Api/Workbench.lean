/-
A workbench: a project rooted at `/project` on a store in memory, with its cache directory,
the default compiler module and a recording handler, as end-to-end tests of the transformer
set it up.

Files are named relative to the root. The host of a step is the root with the cache directory
and the tool options the step gives, and with its test globs when it gives some. Workers are
transformers over the one workspace, made on first use.

Every step is answered by its result, everything the handler has recorded so far, the
compiler's counters and, with a recording transformer after compilation, all its calls so far.
-/
import TestTransform.Api.Session

namespace TestTransform
namespace Api

open Json Config Compiler

/-- The root of a workbench project. -/
def workbenchRoot : Path := ⟨"/project"⟩

/-- The cache directory of a workbench project. -/
def workbenchCache : Path := ⟨"/project/.cache"⟩

/-- The host of a step: its tool options (the defaults when absent) and its test globs. -/
def workbenchHost (step : Value) : Except DataFault HostConfig := do
  let tool ← match step.get? "options" with
    | some v => ToolOptions.ofValue v
    | none => pure ToolOptions.default
  let h := { HostConfig.ofRoot workbenchRoot with cacheDirectory := some workbenchCache }
  let h := h.withToolOptions tool
  match step.get? "test_match" with
  | some (.arr ps) => pure { h with testMatch := ps.filterMap Value.asString? }
  | _ => pure h

/-- The per-call options of a step: an object as in a session, or `esm` for static ES
modules. -/
def workbenchTransform (step : Value) : TransformOptions :=
  match step.get? "transform" with
  | some (.str "esm") => ⟨false, true⟩
  | some v => transformOf v
  | none => ⟨false, false⟩

/-- The content a step gives, a text or a fixture, or the stored content at its path. -/
def workbenchSource (w : Workspace) (step : Value) (p : Path) : Decoding String := do
  match step.get? "source" with
  | some v => contentOf v
  | none => pure ((w.store.read p).toOption.getD "")

/-- The view of settings a workbench shows. -/
def workbenchSettings (s : Settings) : Value :=
  .obj [("cache_directory", optPath s.cacheDirectory), ("cache_key", .str s.cacheKey),
    ("compiler_options", s.options.toValue), ("debug", .str s.describe),
    ("file_names", paths s.fileNames), ("ignore_codes", .arr (s.policy.ignoreCodes.map nat)),
    ("tsconfig_path", optPath s.tsconfigPath)]

/-- One workbench step: the members of its result, and the state after it. -/
def workbenchStep (ss : Session) (step : Value) : Decoding (Members × Session) := do
  let op ← text step "op"
  let k ← natural? step "worker" 0
  let w := ss.workspace
  let p := workbenchRoot / ((← text? step "path").getD "")
  let withHost (f : HostConfig → Members × Session) : Members × Session :=
    match workbenchHost step with
    | .ok h => f h
    | .error e => ([("error", .str "serde_json.Error"), ("message", .str e.message)], ss)
  match op with
  | "file" =>
    let content ← contentOf ((step.get? "content").getD .null)
    match w.store.write p content with
    | .ok store => pure ([("ok", .null)], { ss with workspace := { w with store := store } })
    | .error e => pure ([("error", .str "io"), ("message", .str e.message)], ss)
  | "touch" => pure ([("ok", .null)], { ss with workspace := { w with store := w.store.touch p } })
  | "read" => pure ([("ok", optText (w.store.read p).toOption)], ss)
  | "path" => pure ([("ok", path p)], ss)
  | "skip_emit" =>
    pure ([("ok", .null)], { ss with workspace := { w with modules := w.modules.map (·.skipEmit p) } })
  | "process" =>
    let source ← workbenchSource w step p
    pure (withHost (fun h => ss.onWorker k (Transformer.process source p h (workbenchTransform step))
      (fun r => .obj [("code", .str r.code), ("map", optText r.map)])))
  | "cache_key" =>
    let source ← workbenchSource w step p
    let t := workbenchTransform step
    pure (withHost (fun h =>
      if flag step "live" then ss.onWorker k (Transformer.cacheKeyFor source p h t) Value.str
      else ss.onWorker k (Transformer.cacheKey source p h.canonical t) Value.str))
  | "config" =>
    let codes ← (list step "env_codes").mapM (fun v => match v with
      | .num (.nat n) => pure n
      | _ => throw "env_codes must be integers")
    pure (withHost (fun h =>
      match Settings.withEnvCodes h w.store w.registry codes with
      | .ok s => ([("ok", workbenchSettings s)], ss)
      | .error e => (configMembers e, ss)))
  | _ => throw ("unknown project step '" ++ op ++ "'")

/-- A step's answer: its result with all the handler has recorded, the calls so far and the
counters. -/
def workbenchAnswer (result : Members) (w : Workspace) : Value :=
  let calls : Members := match w.fallback with
    | some (.recording _) => [("fallback_calls", .arr (w.calls.map (fun (p, i) => .arr [path p, bool i])))]
    | _ => []
  let stats := ((w.modules.head?.map (·.stats)).getD Standin.Stats.zero)
  .obj (Value.sortMembers (result ++ calls ++
    [("handler", logView ⟨w.reported⟩), ("stats", statsValue stats)]))

/-- `project`: the answers of the steps on a fresh workbench. -/
def workbench (req : Value) : Decoding Value := do
  let files ← filesOf req
  let store ← files.foldlM (fun s (p, c) => match s.write (workbenchRoot / p.text) c with
    | .ok s => .ok s
    | .error e => .error ("cannot write " ++ p.text ++ ": " ++ e.message)) FileStore.emptyMemory
  let fallback := (← text? req "fallback").map Fallback.recording
  let w : Workspace := ⟨store, [Standin.Module.ofVersion "typescript" "5.4.5-fake"], [], none, fallback, []⟩
  let answers := (((list req "steps").foldl (fun (acc : List Value × Session) step =>
    let (result, ss) := match workbenchStep acc.2 step with
      | .ok r => r
      | .error m => ([("error", .str "DriverError"), ("message", .str m)], acc.2)
    (workbenchAnswer result ss.workspace :: acc.1, ss)) ([], ⟨w, [], []⟩)).1.reverse)
  pure (ok (.arr answers))

end Api
end TestTransform
