/-
Operations on the host record and the diagnostics policy.
-/
import TestTransform.Api.Diagnostics
import TestTransform.Api.Failure
import TestTransform.Api.Options
import TestTransform.Config.Host

namespace TestTransform
namespace Api

open Json Config

/-- `host_config`: the record of a serialized text (or of an object's text), its canonical
text, the tool's options, the test patterns, the working directory and resolved paths. -/
def hostConfig (req : Value) : Decoding Value := do
  let json := match req.get? "json" with
    | some (.str s) => s
    | some v => v.compact
    | none => "null"
  match HostConfig.ofJson json with
  | .error e => pure (configFailure e)
  | .ok h =>
    let tool := match h.toolOptions with
      | .ok o => o.toValue
      | .error e => configFailure e
    pure (ok (.obj [("canonical", .str h.canonical), ("cwd", path h.workingDir),
      ("resolved", paths ((← texts req "resolve").map h.resolvePath)),
      ("test_regex", strings h.testPatterns), ("ts_jest", tool)]))

/-- `diagnostics_policy`: the policy of a setting, which paths it reports and which
diagnostics it keeps. -/
def diagnosticsPolicy (req : Value) : Decoding Value := do
  let setting ← match req.get? "setting" with
    | none => pure (Except.ok none)
    | some v => pure ((DiagnosticsSetting.ofValue v).map some)
  match setting with
  | .error f => pure (dataFailure f)
  | .ok setting =>
    let envCodes ← (list req "env_codes").mapM (fun v => match v with
      | .num (.nat n) => .ok n
      | _ => .error "env_codes must be integers")
    match Policy.ofSetting setting envCodes with
    | .error e => pure (configFailure e)
    | .ok p =>
      let filtered ← diagnostics req "filter"
      pure (ok (.obj [("enabled", bool p.enabled), ("ignore_codes", .arr (p.ignoreCodes.map nat)),
        ("kept", .arr ((p.filter filtered).map Diagnostic.toValue)),
        ("path_regex", optText (p.pathRegex.map Pattern.Regex.source)), ("pretty", bool p.pretty),
        ("reports", .arr ((← texts req "paths").map (fun t => bool (p.shouldReport ⟨t⟩)))),
        ("throws", bool p.throws)]))

end Api
end TestTransform
