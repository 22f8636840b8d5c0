/-
The inspection tool: its command line, and what each of its commands does on a disk.

`tsconfig` prints, as indented JSON, the project file that a directory resolves to (an
explicit file relative to the directory, else the nearest `tsconfig.json` at or above it),
with its bases folded in, its options checked and its references loaded. `deps show` lists
the recorded test files with the modules they import, or prints the graph as JSON;
`deps dependents` lists the recorded test files that import a file; `deps clear` deletes the
graph file. Paths given are resolved against the working directory.

A command that fails reports `Error: `, its message, and the faults beneath it, and exits
with 1; a refused command line exits with 2. A graph file that cannot be read is passed over
with a warning.
-/
import TestTransform.Cli.Scan
import TestTransform.Config.TsConfig
import TestTransform.Config.CompilerOptions
import TestTransform.Cache.Graph

namespace TestTransform
namespace Cli

open Json Config Cache

def cacheDirOpt : Opt := { Opt.valued "cache_dir" "cache-dir" "DIR" "" with required := true }

/-- The command line of the tool. -/
def toolGrammar : Command :=
  Command.program "tsjest"
    "Inspect resolved TypeScript configuration and the tsjest dependency graph cache" "0.1.0" [
    Command.leaf "tsconfig" "Print the tsconfig a project resolves to, with `extends` folded in" [
      { Opt.valued "root_dir" "root-dir" "DIR" "Directory the upward tsconfig search starts from" with
        defaultValue := some "." },
      { Opt.valued "project" "project" "FILE" "Explicit tsconfig file, relative to the root dir" with
        short := some 'p' }] [],
    Command.group "deps" "Inspect the persisted dependency graph" [
      Command.leaf "show" "List recorded test files and the modules they import"
        [cacheDirOpt, Opt.flag "json" "json" "Print the raw graph as JSON"] [],
      Command.leaf "dependents" "List recorded test files that import FILE" [cacheDirOpt]
        [⟨"file", "FILE", true, "", false⟩],
      Command.leaf "clear" "Delete the graph file" [cacheDirOpt] []]]

/-- What the tool is asked to do, with its paths resolved. -/
inductive Request where
  | showProject (rootDir : Path) (project : Option Path)
  | showGraph (cacheDir : Path) (json : Bool)
  | showDependents (cacheDir file : Path)
  | clearGraph (cacheDir : Path)
deriving Repr

/-- The request of a command line the grammar accepts, with paths resolved against `cwd`. -/
def Request.ofMatches (cwd : Path) (m : Matches) : Option Request :=
  let value := fun (id : String) => m.values.lookup id
  let resolved := fun (id : String) => (value id).map (fun v => Path.resolve cwd ⟨v⟩)
  match m.path with
  | ["tsconfig"] =>
    (resolved "root_dir").map (fun root => .showProject root ((value "project").map Path.mk))
  | ["deps", "show"] => (resolved "cache_dir").map (.showGraph · (value "json" == some "true"))
  | ["deps", "dependents"] =>
    match resolved "cache_dir", resolved "file" with
    | some d, some f => some (.showDependents d f)
    | _, _ => none
  | ["deps", "clear"] => (resolved "cache_dir").map .clearGraph
  | _ => none

/-- Why a command fails. -/
inductive Fault where
  | noProjectFile (dir : Path)
  | config (e : ConfigError)
  | invalidOptions (path : Path) (message : String)
  | clearFailed (dir : Path) (e : CacheError)
deriving Repr

namespace Fault

/-- The message of the fault, then the faults beneath it, outermost first. -/
def chain : Fault → List String
  | .noProjectFile d => ["No tsconfig.json found from " ++ d.text]
  | .config e => e.message :: e.causes
  | .invalidOptions p m => ["Invalid compilerOptions in " ++ p.text, m]
  | .clearFailed d e => ("Failed to clear the dependency graph in " ++ d.text) :: e.message :: e.causes

/-- A cause under `Caused by:`: numbered when there are several, its later lines indented
with it. -/
def causeText (numbered : Bool) (i : Nat) (cause : String) : String :=
  let first := if numbered then Cli.spaces (5 - (toString i).length) ++ toString i ++ ": " else "    "
  let rest := if numbered then "       " else "    "
  first ++ ("\n" ++ rest).intercalate (cause.splitOn "\n")

/-- The report of the fault, ending in a line break. -/
def report (f : Fault) : String :=
  match f.chain with
  | [] => "Error: \n"
  | message :: causes =>
    let beneath := if causes.isEmpty then ""
      else "\n\nCaused by:" ++
        String.join (causes.zipIdx.map (fun (c, i) => "\n" ++ causeText (causes.length > 1) i c))
    "Error: " ++ message ++ beneath ++ "\n"

end Fault

/-- What a run of the tool leaves: its status, its two outputs and the disk. -/
structure Outcome where
  status : Nat
  stdout : String
  stderr : String
  store : FileStore

/-- The project file a directory resolves to, printed. -/
def projectText (store : FileStore) (rootDir : Path) (project : Option Path) : Except Fault String := do
  let path ← match project with
    | some p => pure (Path.resolve rootDir p)
    | none =>
      match findProjectFile store rootDir with
      | some p => pure p
      | none => throw (.noProjectFile rootDir)
  let file ← (TsConfig.read store path).mapError Fault.config
  if let .error f := CompilerOptions.ofValue (.obj file.compilerOptions) then
    throw (.invalidOptions path f.message)
  let references ← file.references.mapM (fun r => (ProjectReference.load store r).mapError Fault.config)
  let optPath := fun (p : Option Path) => match p with
    | some p => Value.str p.text
    | none => .null
  let shown : Value := .obj [
    ("compilerOptions", .obj (Value.sortMembers file.compilerOptions)),
    ("files", (file.files.map (fun fs => Value.arr (fs.map (fun f => .str f.text)))).getD .null),
    ("include", (file.includes.map Value.ofStrings).getD .null),
    ("path", .str file.path.text),
    ("references", .arr (references.map (fun r => .obj [("outDir", optPath r.outDir),
      ("path", .str r.configPath.text), ("rootDir", .str r.rootDir.text)])))]
  pure (shown.pretty ++ "\n")

/-- The warning for a graph file that cannot be read. -/
def unreadableGraph (c : GraphCache) (e : CacheError) : String :=
  "WARN tsjest_core::cache::manager: Ignoring unreadable dependency graph " ++
    Text.shown ((c.filePath.map Path.text).getD "") ++ ": " ++ e.message ++ "\n"

/-- The graph of a cache directory, and the warning of a file that cannot be read. -/
def openGraph (store : FileStore) (dir : Path) : GraphCache × String :=
  let (c, fault) := GraphCache.openChecked store (some dir)
  (c, (fault.map (unreadableGraph c)).getD "")

/-- The recorded test files with their modules, or the graph as JSON. -/
def graphText (c : GraphCache) (dir : Path) (json : Bool) : String :=
  if json then
    (Value.obj (Value.sortMembers (c.graph.entries.map (fun (p, e) => (p.text, e.toValue))))).pretty ++ "\n"
  else if c.graph.entries.isEmpty then "No recorded test files in " ++ dir.text ++ "\n"
  else String.join (c.graph.entries.map (fun (p, e) =>
    p.text ++ "\n" ++ String.join (e.modules.map (fun m => "  -> " ++ m.text ++ "\n"))))

/-- The recorded test files that import `file`. -/
def dependentsText (c : GraphCache) (file : Path) : String :=
  match c.dependentsOf file with
  | [] => "No recorded test file imports " ++ file.text ++ "\n"
  | ds => String.join (ds.map (fun d => d.text ++ "\n"))

namespace Request

def run (r : Request) (store : FileStore) : Outcome :=
  let finish := fun (warning : String) (result : Except Fault (String × FileStore)) =>
    match result with
    | .ok (out, store) => Outcome.mk 0 out warning store
    | .error f => Outcome.mk 1 "" (warning ++ f.report) store
  match r with
  | .showProject root project => finish "" ((projectText store root project).map (·, store))
  | .showGraph dir json =>
    let (c, warning) := openGraph store dir
    finish warning (.ok (graphText c dir json, store))
  | .showDependents dir file =>
    let (c, warning) := openGraph store dir
    finish warning (.ok (dependentsText c file, store))
  | .clearGraph dir =>
    let (c, warning) := openGraph store dir
    let count := c.graph.size
    match (c.clear store).2 with
    | .ok store => finish warning (.ok ("Cleared " ++ toString count ++ " recorded test file(s)\n", store))
    | .error e => finish warning (.error (.clearFailed dir e))

end Request

/-- A run of the tool with the words of its command line, in the working directory `cwd`. -/
def runTool (store : FileStore) (cwd : Path) (words : List String) : Outcome :=
  match toolGrammar.scan words with
  | .error stop =>
    if stop.toStdout then ⟨stop.status, stop.text, "", store⟩ else ⟨stop.status, "", stop.text, store⟩
  | .ok m =>
    match Request.ofMatches cwd m with
    | some r => r.run store
    | none => ⟨2, "", "", store⟩

end Cli
end TestTransform
