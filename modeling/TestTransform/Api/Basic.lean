/-
Operations on single values: reading JSON with comments, hashing, paths, option spellings and
diagnostic codes.
-/
import TestTransform.Api.Reply
import TestTransform.Json.Commented
import TestTransform.Hash.Key
import TestTransform.Config.Target
import TestTransform.Diagnostic.Code

namespace TestTransform
namespace Api

open Json

def readCommented (req : Value) : Decoding Value := do
  let source ← text req "source"
  match Value.readCommented source with
  | .ok v => pure (ok v)
  | .error e => pure (failure "serde_json.Error" e.message)

def hashes (req : Value) : Decoding Value := do
  let content ← text? req "content"
  let parts ← texts req "parts"
  let config := req.get? "config"
  let members := [("graph_file_name", Value.str Hash.graphFileName)] ++
    (match content with | some c => [("content", .str (Hash.ofText c))] | none => []) ++
    (match config with | some v => [("config", .str (Hash.ofValue v))] | none => []) ++
    (if (req.get? "parts").isSome then [("parts", .str (Hash.ofParts parts))] else [])
  pure (ok (.obj members))

def pathForms (req : Value) : Decoding Value := do
  let ps ← texts req "paths"
  let base ← text? req "base"
  let ps := ps.map Path.mk
  pure (ok (.obj [
    ("normalized", paths (ps.map Path.normalize)),
    ("resolved", match base with
      | some b => paths (ps.map (Path.resolve ⟨b⟩))
      | none => .null),
    ("is_declaration_file", .arr (ps.map (fun p => bool p.isDeclarationFile)))]))

def optionSpelling (req : Value) : Decoding Value := do
  let kind ← text req "kind"
  let value ← text req "value"
  let display := flag req "display"
  let withDisplay (name : String) (ms : List (String × Value)) :=
    ok (.obj ([("value", .str name)] ++ ms ++ (if display then [("display", .str name)] else [])))
  if kind == "target" then
    match Config.Target.parse value with
    | .ok t => pure (withDisplay t.name [("below_default", bool t.isBelowDefault)])
    | .error m => pure (failure "ParseError" m)
  else if kind == "module" then
    match Config.ModuleKind.parse value with
    | .ok m => pure (withDisplay m.name [("is_es_module", bool m.isEsModule)])
    | .error m => pure (failure "ParseError" m)
  else throw ("unknown kind '" ++ kind ++ "'")

def invalidCode (value : String) : Value :=
  failure "ConfigError.InvalidDiagnosticCode" ("Invalid diagnostic code '" ++ value ++ "'")

def diagnosticCodes (req : Value) : Decoding Value := do
  let value ← text req "value"
  if flag req "single" then
    match Diagnostic.parseCode value with
    | .ok n => pure (ok (nat n))
    | .error v => pure (invalidCode v)
  else
    match Diagnostic.parseCodes value with
    | .ok ns => pure (ok (.arr (ns.map nat)))
    | .error v => pure (invalidCode v)

end Api
end TestTransform
