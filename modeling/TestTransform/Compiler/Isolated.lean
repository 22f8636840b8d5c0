/-
Compiling one file at a time, without a program: files of a referenced project are read from
what its build wrote; every other file is transpiled, and its syntactic diagnostics are raised
when diagnostics of the file are wanted.
-/
import TestTransform.Workspace
import TestTransform.Compiler.Output

namespace TestTransform

/-- The diagnostics of a compile of `file` raised as a fault, or reported as warnings. -/
def Workspace.raise (w : Workspace) (s : Config.Settings) (ds : List Diagnostic) (file : Path) :
    Except CompileError Workspace :=
  match s.raiseDiagnostics w.store ds file with
  | .error (text, codes) => .error (.diagnostics text codes)
  | .ok warnings => .ok (w.report warnings)

namespace Compiler

open Config

/-- The output that the build of a referenced project wrote for `path`, with its map when
there is one. -/
def readReferenced (store : FileStore) (r : ProjectReference) (path : Path) : Except CompileError Output := do
  let expected := r.outputFor path
  if !store.hasFile expected then throw (.missingReferencedOutput path expected r.configPath)
  let code ← (store.read expected).mapError (fun e => CompileError.io expected e.message)
  let map := (store.read ⟨expected.text ++ ".map"⟩).toOption
  pure (finalize code map path)

/-- Compiles one file on its own. -/
def compileIsolated (s : Settings) (content : String) (path : Path) (t : TransformOptions) :
    ExceptT CompileError (StateM Workspace) Output := do
  let path := path.normalize
  let w ← get
  match s.referenceFor path with
  | some r => liftExcept (readReferenced w.store r path)
  | none =>
    let report := s.shouldReport path
    let m := (w.module? s.compilerName).getD (Standin.Module.ofVersion s.compilerName s.compilerVersion)
    let (out, m) := m.transpile content path (s.optionsFor t) report
    let w := w.setModule m
    set w
    if report then set (← liftExcept (w.raise s out.diagnostics path))
    pure (finalize out.code out.map path)

end Compiler
end TestTransform
