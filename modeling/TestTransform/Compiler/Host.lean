/-
The host of a type-checking compiler: the scripts it sees, their texts and versions, the
project version, and the options.

The project version starts at 1 and rises whenever a script is added or its text changes and
whenever the options change, so that the compiler knows when to rebuild its program. The
project's own inputs (its root files) belong to the program before they are read: reading one
of them into the table changes nothing, while reading any other file adds it to the project.
-/
import TestTransform.Compiler.FileTable
import TestTransform.Config.CompilerOptions
import TestTransform.FileStore
import TestTransform.Data.Table

namespace TestTransform
namespace Compiler

open Config

structure ServiceHost where
  files : FileTable
  /-- inputs of the project, in the program before they are read -/
  rootFiles : List Path
  projectVersion : Nat
  options : CompilerOptions
deriving Inhabited

namespace ServiceHost

def start (options : CompilerOptions) (rootFiles : List Path) : ServiceHost :=
  ⟨FileTable.empty, rootFiles, 1, options⟩

/-- Sets the text of a script; a new script or a new text moves the project on. -/
def updateFile (h : ServiceHost) (p : Path) (text : String) : FileUpdate × ServiceHost :=
  let (u, files) := h.files.update p text
  (u, { h with files := files, projectVersion := if u.isDirty then h.projectVersion + 1 else h.projectVersion })

/-- Sets the options; different options move the project on. -/
def setOptions (h : ServiceHost) (o : CompilerOptions) : ServiceHost :=
  if h.options == o then h else { h with options := o, projectVersion := h.projectVersion + 1 }

def isRootFile (h : ServiceHost) (p : Path) : Bool := h.rootFiles.any (· == p)

/-- The scripts of the program: those read so far and the root files, in path order. -/
def scriptFileNames (h : ServiceHost) : List Path :=
  sortBy (fun a b => compare a b != .gt)
    (h.files.paths ++ h.rootFiles.filter (fun f => !h.files.contains f))

/-- The text of a script, read from the store and tracked from then on when it is new. -/
def snapshot (store : FileStore) (h : ServiceHost) (file : Path) : Option String × ServiceHost :=
  let file := file.normalize
  match h.files.text? file with
  | some t => (some t, h)
  | none =>
    match store.read file with
    | .error _ => (none, h)
    | .ok text =>
      if h.isRootFile file then (some text, { h with files := (h.files.update file text).2 })
      else (some text, (h.updateFile file text).2)

/-- Whether a script is tracked or stored. -/
def fileExists (store : FileStore) (h : ServiceHost) (p : Path) : Bool :=
  let p := p.normalize
  h.files.contains p || store.hasFile p

end ServiceHost

end Compiler
end TestTransform
