/-
The inspection tool on the real disk.

The tool's work is done on a snapshot: the files a command can read are loaded into a
`FileStore`, the command runs on it, its outputs are printed, and the files it removed or
wrote are removed or written on the disk. A `tsconfig` command can read the configuration
files (`.json`) below its directory, beside it and beside every directory above it and above
the explicit project file, and in every `node_modules` above it, and the project file itself;
a `deps` command reads the files of its cache directory.
-/
import TestTransform.Cli.Tool

namespace TestTransform
namespace Cli

/-- Files and directories loaded from the disk. -/
structure Loaded where
  files : List (Path × String)
  dirs : List Path

namespace Loaded

def empty : Loaded := ⟨[], []⟩

/-- Records an existing directory, with the directories above it. -/
def addDir (l : Loaded) (dir : Path) : Loaded :=
  { l with dirs := dir.normalize.ancestors.foldl (fun ds d => if ds.contains d then ds else ds ++ [d]) l.dirs }

def addFile (l : Loaded) (p : Path) (text : String) : Loaded :=
  if l.files.any (·.1 == p.normalize) then l else { l with files := l.files ++ [(p.normalize, text)] }

def store (l : Loaded) : FileStore := .disk l.files l.dirs

end Loaded

def isJson (name : String) : Bool := name.endsWith ".json"

/-- The entries of a directory: each name with its path and whether it is a directory. -/
def entriesOf (dir : Path) : IO (List (String × Path × Bool)) := do
  let listed ← try (System.mkFilePath [dir.text]).readDir catch _ => pure #[]
  listed.toList.mapM (fun e => do
    let isDir ← e.path.isDir
    pure (e.fileName, dir.join ⟨e.fileName⟩, isDir))

/-- Loads the file at `p`, when it can be read. -/
def loadFile (l : Loaded) (p : Path) : IO Loaded := do
  try
    let text ← IO.FS.readFile p.text
    pure (l.addFile p text)
  catch _ => pure l

/-- Loads the files of `dir` whose names pass `keep`, and, `depth` levels down, those of the
directories below it whose names `skip` does not refuse. -/
def loadTree (keep skip : String → Bool) : Nat → Loaded → Path → IO Loaded
  | 0, l, _ => pure l
  | depth + 1, l, dir => do
    if !(← (System.mkFilePath [dir.text]).isDir) then return l
    let mut l := l.addDir dir
    for (name, p, isDir) in ← entriesOf dir do
      if isDir then
        if !skip name then l ← loadTree keep skip depth l p
      else if keep name then l ← loadFile l p
    pure l

/-- How deep the walks below a directory go. -/
def walkDepth : Nat := 32

/-- Loads what the request can read. -/
def snapshotFor (r : Request) : IO FileStore := do
  match r with
  | .showProject root project =>
    let explicit := project.map (fun p => (Path.resolve root p).normalize)
    let above := root.normalize.ancestors ++
      ((explicit.bind Path.parent).map Path.ancestors).getD []
    let mut l := Loaded.empty
    for a in above.eraseDups do
      l ← loadTree isJson (fun _ => true) 1 l a
      l ← loadTree isJson (fun _ => false) walkDepth l (a.join ⟨"node_modules"⟩)
    l ← loadTree isJson (fun n => n == "node_modules" || n == ".git") walkDepth l root
    if let some p := explicit then l ← loadFile l p
    pure l.store
  | .showGraph dir _ | .showDependents dir _ | .clearGraph dir =>
    let mut l := Loaded.empty
    for a in dir.normalize.ancestors do
      if ← (System.mkFilePath [a.text]).isDir then l := l.addDir a
    l ← loadTree (fun _ => true) (fun _ => true) 1 l dir
    pure l.store

/-- Removes from the disk the files the run removed, and writes those it wrote. -/
def applyChanges (before after : FileStore) : IO Unit := do
  for p in before.paths do
    if !after.hasFile p then
      try IO.FS.removeFile p.text catch _ => pure ()
  for p in after.paths do
    if let .ok text := after.read p then
      let unchanged := match before.read p with
        | .ok old => old == text
        | .error _ => false
      if !unchanged then
        if let some d := p.parent then IO.FS.createDirAll d.text
        IO.FS.writeFile p.text text

end Cli
end TestTransform

open TestTransform Cli in
/-- Runs the tool with the words of its command line in the current directory. -/
def main (args : List String) : IO UInt32 := do
  let cwd : Path := ⟨(← IO.currentDir).toString⟩
  let before ← match toolGrammar.scan args with
    | .ok m =>
      match Request.ofMatches cwd m with
      | some r => snapshotFor r
      | none => pure (FileStore.emptyDisk cwd)
    | .error _ => pure (FileStore.emptyDisk cwd)
  let o := runTool before cwd args
  IO.print o.stdout
  IO.eprint o.stderr
  applyChanges before o.store
  pure o.status.toUInt32
