/-
Compiling with a program: a type-checking compiler keeps a host with the scripts it has seen,
a language service of the stand-in, and the dependency graph of the test files.

Compiling a file sets the options of the call and the file's text; when the project has not
moved since the file's output was stored, that output is given back. Otherwise the file is
emitted, then checked when its diagnostics are wanted. A test file then has its imports,
followed breadth first outside `node_modules`, recorded in the graph; any other file has the
recorded test files that import it and are not loaded yet checked again. Only then does a
skipped emit or a missing output fail the compile; the output is stored for the project
version reached at the end.
-/
import TestTransform.Compiler.Isolated
import TestTransform.Cache.Graph

namespace TestTransform
namespace Compiler

open Config Standin

structure CheckedCompiler where
  host : ServiceHost
  /-- the project version the service last built a program for -/
  seen : Option Nat
  graph : Cache.GraphCache

/-- A compile of the type-checking compiler: it may fail, and what it changed stays. -/
abbrev CheckedRun := ExceptT CompileError (StateM (Workspace × CheckedCompiler))

namespace CheckedCompiler

/-- A compiler for the settings: its program starts with the project's inputs that are not
test files, and its graph with what the cache directory holds. -/
def start (s : Settings) (store : FileStore) : CheckedCompiler :=
  let roots := s.fileNames.filter (fun f => !s.isTestFile f)
  ⟨ServiceHost.start (s.optionsFor ⟨false, false⟩) roots, none,
    Cache.GraphCache.ofDirectory store s.cacheDirectory⟩

/-- Runs a step of the language service over the compiler's host and its module's counters. -/
def onService {α : Type} (s : Settings) (f : FileStore → List Path → ServiceM α) : CheckedRun α :=
  modifyGet (fun (w, c) =>
    let m := (w.module? s.compilerName).getD (Module.ofVersion s.compilerName s.compilerVersion)
    let (a, svc) := (f w.store m.skipped).run ⟨c.host, c.seen, m.stats⟩
    (a, (w.setModule { m with stats := svc.stats }, { c with host := svc.host, seen := svc.seen })))

def modifyHost (f : ServiceHost → ServiceHost) : CheckedRun Unit :=
  modify (fun (w, c) => (w, { c with host := f c.host }))

/-- Raises the diagnostics of `file`, or reports them. -/
def raise (s : Settings) (ds : List Diagnostic) (file : Path) : CheckedRun Unit := do
  let (w, c) ← get
  set (← liftExcept (w.raise s ds file), c)

/-- Checks a file when its diagnostics are wanted: syntax first, then meaning. A chase of names
that never ends stops the compile there. -/
def typeCheck (s : Settings) (file : Path) : CheckedRun Unit := do
  if s.shouldReport file then
    let syntactic ← onService s (fun store _ => syntacticOf store file)
    match ← onService s (fun store _ => semanticOf store file) with
    | some semantic => raise s (syntactic ++ semantic) file
    | none => throw (.checkEndless file)

/-- Adds the modules found in one file to those seen and to the queue, each once, leaving out
the root itself and anything below `node_modules`. -/
def enqueue (root : Path) (found : List Path) (acc : List Path × List Path) : List Path × List Path :=
  found.foldl (fun (queue, seen) m =>
    let m := m.normalize
    if m == root || isNodeModules m || seen.any (· == m) then (queue, seen)
    else (queue ++ [m], seen ++ [m])) acc

/-- The breadth-first walk over imports from `root`. Every module met is a tracked or stored
file and enters the queue once, so fuel above their number is never exhausted. -/
def walkImports (s : Settings) (root : Path) : Nat → List Path → List Path → CheckedRun (List Path)
  | 0, _, seen => pure seen
  | _, [], seen => pure seen
  | fuel + 1, file :: queue, seen => do
    let found ← onService s (fun store _ => resolvedModulesOf store file)
    let (queue, seen) := enqueue root found (queue, seen)
    walkImports s root fuel queue seen

/-- The modules that `root` imports, directly or not, in the order first met. -/
def collectImports (s : Settings) (root : Path) : CheckedRun (List Path) := do
  let (w, c) ← get
  walkImports s root (w.store.paths.length + c.host.files.size + 2) [root] []

def recordModules (p : Path) (content : String) (modules : List Path) : CheckedRun Unit :=
  modify (fun (w, c) =>
    let (_, g, store) := c.graph.record w.store p content modules
    ({ w with store := store }, { c with graph := g }))

/-- Checks again the recorded test files that import `p` and are not loaded, from their stored
text or else the text they were recorded with. -/
def revalidateDependents (s : Settings) (p : Path) : CheckedRun Unit := do
  let (_, c) ← get
  let dependents := (c.graph.dependentsOf p).filter (fun f => !c.host.files.contains f)
  dependents.forM (fun f => do
    let (w, c) ← get
    let text := match w.store.read f with
      | .ok t => some t
      | .error _ => (c.graph.entry? f).map Cache.GraphEntry.content
    match text with
    | none => pure ()
    | some t => do
      modifyHost (fun h => (h.updateFile f t).2)
      typeCheck s f)

/-- The JavaScript of an emit and its map. -/
def selectOutput (path : Path) (emit : EmitOutput) : Except CompileError Output :=
  if emit.skipped then .error (.emitSkipped path)
  else
    let map := (emit.files.find? (fun (n, _) => n.text.endsWith ".map")).map Prod.snd
    let code := (emit.files.find? (fun (n, _) => !n.text.endsWith ".map" && !n.text.endsWith ".d.ts")).map Prod.snd
    match code with
    | some code => .ok (finalize code map path)
    | none => .error (.noOutput path)

def compile (s : Settings) (content : String) (path : Path) (t : TransformOptions) : CheckedRun Output := do
  let path := path.normalize
  modifyHost (fun h => (h.setOptions (s.optionsFor t)).updateFile path content |>.2)
  let (_, c) ← get
  match c.host.files.output? path c.host.projectVersion with
  | some o => pure o
  | none =>
    let emit ← onService s (fun store skipped => emitOutput store skipped path)
    typeCheck s path
    if s.isTestFile path then
      let modules ← collectImports s path
      recordModules path content modules
    else revalidateDependents s path
    let output ← liftExcept (selectOutput path emit)
    modifyHost (fun h => { h with files := h.files.storeOutput path h.projectVersion output })
    pure output

/-- The modules `path` imports, directly or not: those recorded for this content, or found
and, for a test file, recorded. -/
def resolvedModules (s : Settings) (content : String) (path : Path) : CheckedRun (List Path) := do
  let path := path.normalize
  let (_, c) ← get
  match c.graph.lookupValid path content with
  | some ms => pure ms
  | none =>
    modifyHost (fun h => (h.updateFile path content).2)
    let modules ← collectImports s path
    if s.isTestFile path then recordModules path content modules
    pure modules

end CheckedCompiler

end Compiler
end TestTransform
