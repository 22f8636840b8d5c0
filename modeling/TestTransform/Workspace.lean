/-
What the transformers of one run share: the files, the registered compiler modules with their
counters, the diagnostics reported so far, and the transformer that compiled output is handed
to next, with the calls made to it.
-/
import TestTransform.Compiler.Standin.Service
import TestTransform.Config.Settings

namespace TestTransform

open Compiler

/-- The transformer after compilation. -/
inductive Fallback where
  /-- marks what it is given and records each call -/
  | recording (name : String)
  /-- fails every call with a message -/
  | failing (name message : String)
deriving Repr

def Fallback.name : Fallback → String
  | .recording n => n
  | .failing n _ => n

/-- The header a recording transformer puts before its input. -/
def Fallback.marker : String := "/* babel */\n"

structure Workspace where
  store : FileStore
  /-- by name -/
  modules : List Standin.Module
  /-- every diagnostic reported, in order -/
  reported : List Diagnostic
  /-- the ignored codes the environment gives, as text -/
  envIgnore : Option String
  fallback : Option Fallback
  /-- the calls of a recording transformer: path and whether to instrument -/
  calls : List (Path × Bool)

namespace Workspace

def module? (w : Workspace) (name : String) : Option Standin.Module :=
  w.modules.find? (·.name == name)

def setModule (w : Workspace) (m : Standin.Module) : Workspace :=
  { w with modules := w.modules.map (fun k => if k.name == m.name then m else k) }

/-- The registry of the modules, as the settings know them. -/
def registry (w : Workspace) : Config.Registry := ⟨w.modules.map (fun m => ⟨m.name, m.version⟩)⟩

def report (w : Workspace) (ds : List Diagnostic) : Workspace := { w with reported := w.reported ++ ds }

/-- The text that names the registered modules and the transformer after compilation. -/
def describe (w : Workspace) : String :=
  let fallback := match w.fallback with
    | some f => "Some(" ++ Text.shown f.name ++ ")"
    | none => "None"
  "Container \x7b compilers: " ++ w.registry.describe ++ ", fallback_transformer: " ++ fallback ++ ", .. \x7d"

end Workspace

end TestTransform
