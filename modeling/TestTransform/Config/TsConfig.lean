/-
Project files of the compiler (`tsconfig.json`): reading them with what they extend, finding
them, listing the inputs they name, and the projects they reference.

A project file is JSON with comments. Its compiler options stay raw; those that hold paths
(`outDir`, `rootDir`, `baseUrl`, `declarationDir`, `tsBuildInfoFile`), its `include` and
`exclude` patterns and its `files` are made absolute against its directory. `extends` names
one base or a list of them: a path (starting with `.` or `/`, `.json` added when missing) or a
package below some `node_modules` on the way up. Bases are read first and in order; a later
base overrides an earlier one option by option, and the file itself overrides them all, while
`include`, `exclude` and `files` come from the file or else from the last base that has them.
No file is read twice while one project file is read: a second visit is a cycle.
-/
import TestTransform.FileStore
import TestTransform.Pattern.Glob
import TestTransform.Json.Commented
import TestTransform.Json.Shape
import TestTransform.Error
import TestTransform.Data.Table

namespace TestTransform
namespace Config

open Json Pattern

def projectFileName : String := "tsconfig.json"

/-- Compiler options that hold paths, made absolute against the declaring file's directory. -/
def pathOptions : List String := ["outDir", "rootDir", "baseUrl", "declarationDir", "tsBuildInfoFile"]

/-- Extensions of the files that patterns pick up as inputs. -/
def inputExtensions : List String := ["ts", "tsx", "mts", "cts"]

/-- A project file with what it extends folded in. -/
structure TsConfig where
  path : Path
  /-- the raw options, by name -/
  compilerOptions : List (String × Value)
  /-- absolute patterns -/
  includes : Option (List String)
  excludes : Option (List String)
  /-- absolute paths -/
  files : Option (List Path)
  /-- the project files of the referenced projects -/
  references : List Path
deriving Inhabited

namespace TsConfig

def textList : Shape := .optional (.seq (.text "a string"))

/-- What a project file may hold; members it does not name are skipped. -/
def shape : Shape := .record "RawTsConfig" [
  .optional "extends" (.optional (.oneOf "Extends" [.text "a string", .seq (.text "a string")])),
  .optional "compilerOptions" (.optional (.dict .any)),
  .optional "files" textList,
  .optional "include" textList,
  .optional "exclude" textList,
  .optional "references" (.optional (.seq (.record "RawReference" [.needed "path" (.text "a string")])))]

/-- The bases named by `extends`. -/
def basesOf (d : Decoded) : List String :=
  match d.present? with
  | some (.variant 0 s) => s.str?.toList
  | some (.variant _ l) => l.strs
  | _ => []

def textsOf? (d : Decoded) : Option (List String) := d.present?.map Decoded.strs

/-- Options with the path-valued ones made absolute against `dir`. -/
def absolutize (dir : Path) (options : List (String × Value)) : List (String × Value) :=
  options.map (fun (k, v) =>
    match v with
    | .str s => if pathOptions.contains k then (k, .str (Path.resolve dir ⟨s⟩).text) else (k, v)
    | _ => (k, v))

def absolutePatterns (dir : Path) (patterns : List String) : List String :=
  patterns.map (fun p => (Path.resolve dir ⟨p⟩).text)

/-- A referenced project: its project file, or the directory holding it. -/
def referencePath (store : FileStore) (dir : Path) (reference : String) : Path :=
  let p := Path.resolve dir ⟨reference⟩
  if store.hasFile p then p else p / projectFileName

/-- `p` with `.json` appended, unless that is already its extension. -/
def withJson (p : Path) : Path :=
  if p.extension == some "json" then p else ⟨p.text ++ ".json"⟩

/-- The candidates for a package `spec` in the `node_modules` of `dir`. -/
def packageCandidates (dir : Path) (spec : String) : List Path :=
  let pkg := dir / "node_modules" / spec
  [pkg / projectFileName, withJson pkg, pkg]

/-- Where a base named by `extends` lives. -/
def resolveBase (store : FileStore) (dir : Path) (spec : String) : Except ConfigError Path :=
  if spec.startsWith "." || (Path.mk spec).isAbsolute then
    let candidate := withJson (Path.resolve dir ⟨spec⟩)
    if store.hasFile candidate then .ok candidate else .error (.tsconfigNotFound candidate)
  else
    let found := dir.ancestors.findSome? (fun d =>
      (packageCandidates d spec).find? store.hasFile)
    match found with
    | some p => .ok p.normalize
    | none => .error (.tsconfigNotFound (dir / "node_modules" / spec))

/-- Options merged key by key, those of `later` winning, sorted by key. -/
def mergeOptions (earlier later : List (String × Value)) : List (String × Value) :=
  Value.sortMembers (earlier ++ later)

/-- The project file itself, with nothing extended yet. -/
def own (store : FileStore) (path : Path) (d : Decoded) : TsConfig :=
  let dir := path.parent.getD ⟨"/"⟩
  let options := ((d.field 1).entryList.filterMap (fun (k, e) => e.value?.map (k, ·)))
  { path := path
    compilerOptions := absolutize dir (Value.sortMembers options)
    includes := (textsOf? (d.field 3)).map (absolutePatterns dir)
    excludes := (textsOf? (d.field 4)).map (absolutePatterns dir)
    files := (textsOf? (d.field 2)).map (List.map (fun f => Path.resolve dir ⟨f⟩))
    references := (d.field 5).itemList.filterMap (fun r => (r.field 0).str?.map (referencePath store dir)) }

/-- What the bases read so far give: merged options and the last `include`, `exclude` and
`files` seen. -/
def foldBase (acc base : TsConfig) : TsConfig :=
  { acc with
    compilerOptions := mergeOptions acc.compilerOptions base.compilerOptions
    includes := base.includes.or acc.includes
    excludes := base.excludes.or acc.excludes
    files := base.files.or acc.files }

/-- The file over its bases. -/
def overBases (self bases : TsConfig) : TsConfig :=
  { self with
    compilerOptions := mergeOptions bases.compilerOptions self.compilerOptions
    includes := self.includes.or bases.includes
    excludes := self.excludes.or bases.excludes
    files := self.files.or bases.files }

/-- Reads the project file at `path` (already normalized) and its bases, given the files read
before; gives the files read after it too. Every nested read is of a distinct stored file, so
`fuel` above the number of stored files is never exhausted. -/
def readFrom (store : FileStore) : Nat → Path → List Path → Except ConfigError (TsConfig × List Path)
  | 0, path, _ => .error (.extendsCycle path)
  | fuel + 1, path, visited => do
    if visited.any (· == path) then throw (.extendsCycle path)
    let visited := path :: visited
    let source ← (store.read path).mapError (fun e => ConfigError.io path e.message)
    let value ← (Value.readCommented source).mapError (fun e => ConfigError.invalidJson path e.message)
    let d ← (shape.decode value).mapError (fun f => ConfigError.invalidJson path f.message)
    let self := own store path d
    let dir := path.parent.getD ⟨"/"⟩
    let (bases, visited) ← (basesOf (d.field 0)).foldlM
      (fun (acc : TsConfig × List Path) spec => do
        let basePath ← resolveBase store dir spec
        let (base, visited) ← readFrom store fuel basePath acc.2
        pure (foldBase acc.1 base, visited))
      ({ (default : TsConfig) with path := path }, visited)
    pure (overBases self bases, visited)

/-- Reads a project file with everything it extends. -/
def read (store : FileStore) (path : Path) : Except ConfigError TsConfig :=
  (readFrom store (store.paths.length + 1) path.normalize []).map Prod.fst

def dir (c : TsConfig) : Path := c.path.parent.getD ⟨"/"⟩

/-- Globs of patterns, or the configuration fault of the first that cannot be read. -/
def globs (patterns : List String) : Except ConfigError GlobSet :=
  (GlobSet.compile patterns false).mapError (fun (p, e) => .invalidGlob p e.message)

/-- Whether a glob of `set` matches `file` or a directory above it. -/
def matchesWithin (set : GlobSet) (file : Path) : Bool := file.ancestors.any set.isMatch

/-- The leading directories of a pattern that hold no pattern characters. -/
def patternBase (pattern : String) : Path :=
  let plain := (Path.mk pattern).components.takeWhile (fun c =>
    !(c.text.toList.any (fun ch => ch == '*' || ch == '?' || ch == '[' || ch == '\x7b')))
  Path.ofComponents plain

def isInput (p : Path) : Bool :=
  match p.extension with
  | some e => inputExtensions.contains e
  | none => false

def sortPaths (ps : List Path) : List Path :=
  (sortBy (fun a b => compare a b != .gt) ps).eraseDups

/-- The root inputs of the project, sorted: the listed `files` that exist, and the inputs that
`include` picks up (every input below the project file's directory when it names neither),
less those that `exclude` matches and those below `outDir`. -/
def fileNames (c : TsConfig) (store : FileStore) (outDir : Option Path) :
    Except ConfigError (List Path) := do
  let listed := (c.files.getD []).filter store.hasFile
  let patterns := match c.includes, c.files with
    | some ps, _ => ps
    | none, some _ => []
    | none, none => [c.dir.text ++ "/**/*"]
  if patterns.isEmpty then return sortPaths listed
  let includeSet ← globs patterns
  let excludeSet ← globs (c.excludes.getD [])
  let bases := sortPaths (patterns.map patternBase)
  let found := bases.flatMap (fun b => (store.listFiles b).toOption.getD [])
  let picked := found.filter (fun f =>
    isInput f && !(outDir.any (fun o => f.startsWith o)) &&
      matchesWithin includeSet f && !matchesWithin excludeSet f)
  pure (sortPaths (listed ++ picked))

end TsConfig

/-- The nearest `tsconfig.json` in `start` or a directory above it. -/
def findProjectFile (store : FileStore) (start : Path) : Option Path :=
  (start.ancestors.map (· / projectFileName)).find? store.hasFile

/-- A referenced project, built on its own: where its inputs are and where its output goes. -/
structure ProjectReference where
  configPath : Path
  rootDir : Path
  outDir : Option Path
  includeSet : Option GlobSet
  files : Option (List Path)

namespace ProjectReference

def load (store : FileStore) (configPath : Path) : Except ConfigError ProjectReference := do
  let c ← TsConfig.read store configPath
  let option := fun (key : String) => (c.compilerOptions.lookup key).bind Value.asString?
  let includeSet ← match c.includes with
    | some ps => (TsConfig.globs ps).map some
    | none => pure none
  pure { configPath := c.path
         rootDir := ((option "rootDir").map Path.mk).getD (configPath.parent.getD ⟨""⟩)
         outDir := (option "outDir").map Path.mk
         includeSet := includeSet
         files := c.files }

/-- Whether `file` is an input of the project: below its root, no declaration file, and listed
in `files` or matched by `include` (everything, when neither narrows it). -/
def contains (r : ProjectReference) (file : Path) : Bool :=
  if !file.startsWith r.rootDir || file.isDeclarationFile then false
  else
    let listed := r.files.map (fun fs => fs.any (· == file))
    if listed == some true then true
    else if listed.isSome && r.includeSet.isNone then false
    else match r.includeSet with
      | some set => TsConfig.matchesWithin set file
      | none => true

/-- The output extension for an input's extension. -/
def outputExtension (p : Path) : String :=
  match p.extension with
  | some "mts" => "mjs"
  | some "cts" => "cjs"
  | some "json" => "json"
  | _ => "js"

/-- Where the project's build writes the output of `file`. -/
def outputFor (r : ProjectReference) (file : Path) : Path :=
  let relative := (file.stripPrefix r.rootDir).getD file
  let base := match r.outDir with
    | some o => o / relative
    | none => file
  base.withExtension (outputExtension file)

end ProjectReference

end Config
end TestTransform
