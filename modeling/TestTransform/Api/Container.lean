/-
Operations on what the transformers of a run share, and on memo tables.
-/
import TestTransform.Api.Diagnostics
import TestTransform.Api.Failure
import TestTransform.Data.Memo
import TestTransform.Workspace

namespace TestTransform
namespace Api

open Json Config

/-- `container`: a workspace over a registry (the default module when a version is given for
it, then each module given), with warnings reported to it, and the modules it resolves. -/
def container (req : Value) : Decoding Value := do
  let start := match (← text? req "default_version") with
    | some v => Registry.empty.register defaultCompiler v
    | none => Registry.empty
  let given := match req.get? "compilers" with
    | some (.obj ms) => ms.filterMap (fun (m : String × Value) => m.2.asString?.map (m.1, ·))
    | _ => []
  let registry := given.foldl (fun (r : Registry) (m : String × String) => r.register m.1 m.2) start
  let warnings ← (list req "warnings").mapM warningPair
  let fallback := (← text? req "fallback").map Fallback.recording
  let w : Workspace := ⟨FileStore.emptyMemory,
    registry.modules.map (fun (m : ModuleInfo) => Compiler.Standin.Module.ofVersion m.name m.version),
    warnings.map (fun (c, m) => Diagnostic.warning c m), none, fallback, []⟩
  let log : Diagnostic.Log := ⟨w.reported⟩
  let resolved := (← texts req "resolve").map (fun n => match registry.resolve n with
    | .ok m => Value.str m.version
    | .error e => configFailure e)
  pure (ok (.obj [("debug", .str w.describe), ("fallback", optText (w.fallback.map Fallback.name)),
    ("has_errors", bool log.hasErrors), ("names", strings registry.names),
    ("registry_debug", .str registry.describe), ("resolved", .arr resolved),
    ("warning_count", nat log.warnings)]))

/-- `memoize`: the character counts of the keys through one memo table, and how many were
computed. -/
def memoize (req : Value) : Decoding Value := do
  let keys ← texts req "keys"
  let table : Memo String Nat := Memo.empty "char_count"
  let lengthView (m : Memo String Nat) : Value := .obj [("is_empty", bool m.isEmpty), ("len", nat m.size)]
  let (values, calls, after) := keys.foldl (fun (vs, calls, m) k =>
    let (v, computed, m) := m.get String.length k
    (vs ++ [nat v], if computed then calls + 1 else calls, m)) (([] : List Value), 0, table)
  pure (ok (.obj [("before", lengthView table), ("calls", nat calls), ("debug", .str after.describe),
    ("is_empty", bool after.isEmpty), ("len", nat after.size), ("values", .arr values)]))

end Api
end TestTransform
