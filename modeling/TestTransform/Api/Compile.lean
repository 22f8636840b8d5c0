/-
Operations on the stand-in compiler.
-/
import TestTransform.Api.Options
import TestTransform.Api.Diagnostics
import TestTransform.Compiler.Standin.Emit
import TestTransform.Fixture

namespace TestTransform
namespace Api

open Json Config

/-- A text of a request: a string, or `{"fixture": name}` for a sample text. -/
def contentOf (v : Value) : Decoding String :=
  match v with
  | .str s => .ok s
  | .obj _ =>
    match v.get? "fixture" with
    | some (.str name) =>
      match Fixture.text? name with
      | some t => .ok t
      | none => .error ("unknown fixture '" ++ name ++ "'")
    | _ => .error "file contents must be strings"
  | _ => .error "file contents must be strings"

/-- `fake_transpile`: one file through the transpiling path of the stand-in compiler. -/
def standinTranspile (req : Value) : Decoding Value := do
  let source ← contentOf ((req.get? "source").getD .null)
  let file := Path.mk (← text req "file")
  match CompilerOptions.ofValue ((req.get? "compiler_options").getD .null) with
  | .error f => pure (dataFailure f)
  | .ok options =>
    let (code, map) := Compiler.Standin.emitJavaScript source file options
    let diagnostics := if flag req "report_diagnostics" then
        Compiler.Standin.syntacticDiagnostics source file
      else []
    pure (ok (.obj [("diagnostics", .arr (diagnostics.map Diagnostic.toValue)),
      ("output_text", .str code), ("source_map_text", optText map)]))

end Api
end TestTransform
