/-
Operations on diagnostics: building one, reporting a list, and recording reports.
-/
import TestTransform.Api.Reply
import TestTransform.Diagnostic.Format
import TestTransform.Diagnostic.Log

namespace TestTransform
namespace Api

open Json

/-- A diagnostic of a request, in its JSON form. -/
def diagnostic (v : Value) : Decoding Diagnostic :=
  match Diagnostic.ofValue v with
  | .ok d => .ok d
  | .error f => .error f.message

def diagnostics (req : Value) (name : String) : Decoding (List Diagnostic) :=
  (list req name).mapM diagnostic

def counts (log : Diagnostic.Log) : Value :=
  .obj [("errors", nat log.errors), ("has_errors", bool log.hasErrors),
    ("warnings", nat log.warnings)]

/-- What a recording handler shows: the codes in order, the counts, and the messages under
each code. -/
def logView (log : Diagnostic.Log) : Value :=
  let messages := (log.codes.map (fun c => (toString c, strings (log.messagesWithCode c))))
  .obj [("codes", .arr (log.codes.map nat)), ("counts", counts log),
    ("messages", .obj (Table.ofList messages).entries)]

/-- `format_diagnostics`: the plain or coloured report, and each diagnostic's own line. -/
def formatDiagnostics (req : Value) : Decoding Value := do
  let ds ← diagnostics req "diagnostics"
  let cwd := Path.mk ((← text? req "cwd").getD "/")
  let sources := match req.get? "sources" with
    | some (.obj ms) => ms
    | _ => []
  let sourceOf := fun (f : Path) => match (Value.obj sources).get? f.text with
    | some (.str s) => some s
    | _ => none
  let report := if flag req "pretty" then Diagnostic.colouredReport cwd sourceOf ds
    else Diagnostic.plainReport cwd ds
  pure (ok (.obj [("display", strings (ds.map Diagnostic.display)),
    ("important", .arr (ds.map (fun d => bool d.isImportant))), ("text", .str report)]))

/-- `diagnostic_new`: a diagnostic of a kind, with its file and span when given. -/
def newDiagnostic (req : Value) : Decoding Value := do
  let kind ← text req "kind"
  let category ← match Diagnostic.Category.ofLabel? kind with
    | some c => pure c
    | none => throw ("unknown kind '" ++ kind ++ "'")
  let d := Diagnostic.make category (← natural req "code") (← text req "message")
  let d := match ← text? req "file" with
    | some f => d.withFile ⟨f⟩
    | none => d
  let d ← match field? req "span" with
    | some span => pure (d.withSpan ⟨← natural span "line", ← natural span "character"⟩
        (← natural span "length"))
    | none => pure d
  pure (ok (.obj [("diagnostic", d.toValue), ("display", .str d.display),
    ("important", bool d.isImportant)]))

/-- A warning of a request: a code and a message. -/
def warningPair (v : Value) : Decoding (Nat × String) :=
  match v with
  | .arr [.num (.nat code), .str message] => .ok (code, message)
  | _ => .error "warnings must be [code, message] pairs"

/-- `handlers`: the reports and then the warnings, as each kind of handler records them. -/
def handlers (req : Value) : Decoding Value := do
  let reports ← diagnostics req "reports"
  let warnings ← (list req "warnings").mapM warningPair
  let log := reports.foldl Diagnostic.Log.report Diagnostic.Log.empty
  let log := warnings.foldl (fun l (c, m) => l.warn c m) log
  pure (ok (.obj [("collected", .arr (log.reported.map Diagnostic.toValue)),
    ("collecting", counts log), ("console", counts log), ("mock", logView log)]))

end Api
end TestTransform
