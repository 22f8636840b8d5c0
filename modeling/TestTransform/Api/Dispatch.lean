/-
The JSON-lines interface: one request in, one reply out.
-/
import TestTransform.Api.Basic
import TestTransform.Api.Compile
import TestTransform.Api.Config
import TestTransform.Api.Table
import TestTransform.Api.Diagnostics
import TestTransform.Api.Options
import TestTransform.Api.Store
import TestTransform.Api.Project
import TestTransform.Api.Graph
import TestTransform.Api.Session
import TestTransform.Api.Workbench
import TestTransform.Api.Container
import TestTransform.Api.CommandLine
import TestTransform.Json.Read

namespace TestTransform
namespace Api

open Json

def answer (req : Value) : Value :=
  ofDecoding do
    let op ← text req "op"
    match op with
    | "parse_jsonc" => readCommented req
    | "hash" => hashes req
    | "paths" => pathForms req
    | "parse_enum" => optionSpelling req
    | "diagnostic_codes" => diagnosticCodes req
    | "compiler_options" => compilerOptions req
    | "format_diagnostics" => formatDiagnostics req
    | "diagnostic_new" => newDiagnostic req
    | "handlers" => handlers req
    | "fake_transpile" => standinTranspile req
    | "host_config" => hostConfig req
    | "diagnostics_policy" => diagnosticsPolicy req
    | "finalize_output" => finalizeOutput req
    | "memory_table" => memoryTable req
    | "fs" => fileSystem req
    | "tsconfig" => projectFile req
    | "find_config_file" => findProject req
    | "project_reference" => projectReference req
    | "graph" => dependencyGraph req
    | "session" => session req
    | "project" => workbench req
    | "container" => container req
    | "memoize" => memoize req
    | "cli" => commandLine req
    | _ => throw ("unknown op '" ++ op ++ "'")

/-- The placeholder that requests on the simulated disk write for its root directory. -/
def rootToken : String := "$ROOT"

/-- Whether a request works below the root of the simulated disk. -/
def onDisk (req : Value) : Bool :=
  flag req "real_fs" || req.get? "op" == some (.str "cli")

/-- The kind of fault of a semantic check that never ends. -/
def endlessKind : String := CompileError.kind (.checkEndless ⟨""⟩)

mutual
/-- Whether a reply reports, anywhere in it, a semantic check that never ends. -/
def reportsEndless : Value → Bool
  | .arr xs => itemsReportEndless xs
  | .obj ms => membersReportEndless ms
  | _ => false

def itemsReportEndless : List Value → Bool
  | [] => false
  | x :: xs => reportsEndless x || itemsReportEndless xs

def membersReportEndless : List (String × Value) → Bool
  | [] => false
  | (k, x) :: ms =>
    (k == "error" && x.asString? == some endlessKind) || reportsEndless x || membersReportEndless ms
end

/-- A reply as it is sent: not at all when it reports a semantic check that never ends, since
the program runs out of stack in that check and stops without replying. -/
def sent (reply : Value) (render : String → String) : Option String :=
  if reportsEndless reply then none else some (render reply.compact)

/-- The reply line to a request line, if the program replies. On the simulated disk, the
placeholder for its root stands for the root's path in the request, and the root's path is
written back as it in the reply. -/
def answerLine (line : String) : Option String :=
  match Value.read line with
  | .ok req =>
    if onDisk req then
      let root := FileStore.diskRoot.text
      match Value.read (line.replace rootToken root) with
      | .ok req => sent (answer req) (·.replace root rootToken)
      | .error e => some (refusal ("invalid request: " ++ e.message)).compact
    else sent (answer req) id
  | .error e => some (refusal ("invalid request: " ++ e.message)).compact

end Api
end TestTransform
