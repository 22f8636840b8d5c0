/-
Operations on compiler options.
-/
import TestTransform.Api.Reply
import TestTransform.Config.CompilerOptions

namespace TestTransform
namespace Api

open Json Config

def dataFailure (f : DataFault) : Value := failure "serde_json.Error" f.message

def compilerOptions (req : Value) : Decoding Value := do
  match CompilerOptions.ofValue ((req.get? "options").getD .null) with
  | .error f => pure (dataFailure f)
  | .ok o =>
    let forced := o.applyForced
    let base := if flag req "apply_forced" then forced else o
    let systems := (list req "module_system").map (fun m =>
      (base.forModuleSystem (flag m "use_esm") (flag m "supports_static_esm")).toValue)
    pure (ok (.obj ([("parsed", o.toValue), ("allow_js", bool o.allowsJs),
      ("effective_module", .str o.effectiveModule.name)] ++
      (if flag req "apply_forced" then [("forced", forced.toValue)] else []) ++
      (if (req.get? "module_system").isSome then [("module_system", .arr systems)] else []))))

end Api
end TestTransform
