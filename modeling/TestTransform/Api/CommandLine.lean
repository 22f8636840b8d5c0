/-
Runs of the inspection tool on the simulated disk.
-/
import TestTransform.Api.Store
import TestTransform.Cli.Tool
import TestTransform.Text.Lines

namespace TestTransform
namespace Api

open Json

/-- `cli`: a run of the tool with the files given, in the working directory given (the disk's
root by default, made when missing): its status, its outputs, and the files left below the
root. -/
def commandLine (req : Value) : Decoding Value := do
  let files ← filesOf req
  let store ← files.foldlM (fun s (p, c) => match s.write p c with
    | .ok s => .ok s
    | .error e => .error ("cannot write " ++ p.text ++ ": " ++ e.message)) (FileStore.emptyDisk FileStore.diskRoot)
  let cwd : Path := ⟨(← text? req "cwd").getD FileStore.diskRoot.text⟩
  let store ← (store.makeDir cwd).mapError (fun e => "cannot make " ++ cwd.text ++ ": " ++ e.message)
  let o := Cli.runTool store cwd (← texts req "args")
  let after := (o.store.listFiles FileStore.diskRoot).toOption.getD []
  pure (ok (.obj [("files_after", paths after), ("status", nat o.status),
    ("stderr", strings (Text.lines o.stderr)), ("stdout", .str o.stdout)]))

end Api
end TestTransform
