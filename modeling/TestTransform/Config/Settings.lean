/-
The settings of one host configuration: everything that affects compilation, resolved once.

Building them reads, in order: the ignored codes of the environment, the tool's options, the
project file (an explicit path that must exist, none when turned off, else the nearest one
above the root) with inline overrides merged over its options, the diagnostics policy, the
compiler module by name, the pattern of files whose content is stringified, the cache
directory and the rules that tell test files. The first fault stops the building.

The compiler options get the default language level when they name none, an output directory
under the root when JavaScript is allowed and none is set, and then the forced options. The
project's inputs are listed only for the type-checking compiler and only with a project file.
-/
import TestTransform.Config.TsConfig
import TestTransform.Config.CompilerOptions
import TestTransform.Config.Host
import TestTransform.Config.Policy
import TestTransform.Config.Registry
import TestTransform.Diagnostic.Code
import TestTransform.Diagnostic.Format
import TestTransform.Hash.Key

namespace TestTransform
namespace Config

open Json Pattern

/-- The directory below the root that JavaScript output goes to when the project allows
JavaScript and names no output directory. -/
def allowJsOutDir : String := "$$tsjest$$"

/-- This library's version, part of every configuration digest. -/
def libraryVersion : String := "0.1.0"

/-- How test files are told: by globs (where `*` stays within a component) or by patterns. -/
structure TestRules where
  globs : Option GlobSet
  /-- the globs' texts, with `<rootDir>` replaced -/
  patterns : List String
  regexes : List Regex

namespace TestRules

/-- The rules of a host: its globs, or the default globs when it gives neither globs nor
patterns, and its patterns. -/
def ofHost (h : HostConfig) : Except ConfigError TestRules := do
  let sources := h.testPatterns
  let given := h.testMatch.map (fun p => Text.replace p rootDirToken h.rootDir.text)
  let patterns := if given.isEmpty && sources.isEmpty then defaultTestMatch else given
  let globs ← if patterns.isEmpty then pure none
    else (GlobSet.compile patterns true).map some |>.mapError (fun (p, e) => .invalidGlob p e.message)
  let regexes ← sources.mapM (fun s => (Regex.compile s).mapError (ConfigError.invalidRegex "testRegex"))
  pure ⟨globs, patterns, regexes⟩

def isMatch (r : TestRules) (p : Path) : Bool :=
  (r.globs.map (·.isMatch p)).getD false || r.regexes.any (·.isMatch p.text)

end TestRules

/-- The project file found for a host, and what it gives. -/
structure ResolvedProject where
  path : Option Path
  options : CompilerOptions
  fileNames : List Path
  references : List ProjectReference

/-- Reads the project file of a host and settles the compiler options. -/
def resolveProject (store : FileStore) (h : HostConfig) (source : Option TsConfigSource)
    (withFileNames : Bool) : Except ConfigError ResolvedProject := do
  let configPath ← match source with
    | some (.toggle false) => pure none
    | some (.path p) =>
      let path := h.resolvePath p
      if store.hasFile path then pure (some path) else throw (.tsconfigNotFound path)
    | _ => pure (findProjectFile store h.rootDir)
  let file ← match configPath with
    | some p => TsConfig.read store p
    | none => pure (default : TsConfig)
  let raw := match source with
    | some (.inline overrides) =>
      TsConfig.mergeOptions file.compilerOptions (TsConfig.absolutize h.rootDir overrides)
    | _ => file.compilerOptions
  let options ← (CompilerOptions.ofValue (.obj raw)).mapError
    (fun f => ConfigError.invalidOption "compilerOptions" f.message)
  let options := if options.target.isNone then { options with target := some Target.default } else options
  let options := if options.allowsJs && options.outDir.isNone
    then { options with outDir := some (h.rootDir / allowJsOutDir) } else options
  let options := options.applyForced
  let references ← file.references.mapM (ProjectReference.load store)
  let fileNames ← if withFileNames && configPath.isSome then file.fileNames store options.outDir
    else pure []
  pure ⟨configPath, options, fileNames, references⟩

structure Settings where
  host : HostConfig
  tsconfigPath : Option Path
  /-- with the forced options, before the module system of a call is chosen -/
  options : CompilerOptions
  fileNames : List Path
  references : List ProjectReference
  policy : Policy
  isolated : Bool
  useEsm : Bool
  compilerName : String
  compilerVersion : String
  cacheDirectory : Option Path
  stringify : Option Regex
  tests : TestRules

/-- The compiler module used when the options name none. -/
def defaultCompiler : String := "typescript"

namespace Settings

/-- The ignored codes given by the environment, a comma-separated list. -/
def envCodes (value : Option String) : Except ConfigError (List Nat) :=
  match value with
  | none => pure []
  | some v => (Diagnostic.parseCodes v).mapError ConfigError.invalidDiagnosticCode

/-- The settings of a host configuration, given the files, the registered compiler modules and
the codes the environment ignores. -/
def withEnvCodes (h : HostConfig) (store : FileStore) (modules : Registry) (envCodes : List Nat) :
    Except ConfigError Settings := do
  let tool ← h.toolOptions
  let project ← resolveProject store h tool.tsconfig (!tool.isolatedModules)
  let policy ← Policy.ofSetting tool.diagnostics envCodes
  let name := tool.compiler.getD defaultCompiler
  let info ← modules.resolve name
  let stringify ← match tool.stringifyContentPathRegex with
    | some p => (Regex.compile p).map some |>.mapError (ConfigError.invalidRegex "stringifyContentPathRegex")
    | none => pure none
  let cacheDirectory := h.cacheDirectory.map (fun d => h.resolvePath d.text)
  let tests ← TestRules.ofHost h
  pure { host := h, tsconfigPath := project.path, options := project.options,
         fileNames := project.fileNames, references := project.references, policy := policy,
         isolated := tool.isolatedModules, useEsm := tool.useEsm, compilerName := name,
         compilerVersion := info.version, cacheDirectory := cacheDirectory, stringify := stringify,
         tests := tests }

/-- The settings of a host configuration, with the environment's ignored codes given as text. -/
def build (h : HostConfig) (store : FileStore) (modules : Registry) (envIgnore : Option String) :
    Except ConfigError Settings := do
  withEnvCodes h store modules (← envCodes envIgnore)

def rootDir (s : Settings) : Path := s.host.rootDir

def cwd (s : Settings) : Path := s.host.workingDir

def allowsJs (s : Settings) : Bool := s.options.allowsJs

/-- The options of one compile call. -/
def optionsFor (s : Settings) (t : TransformOptions) : CompilerOptions :=
  s.options.forModuleSystem s.useEsm t.supportsStaticEsm

def isTestFile (s : Settings) (p : Path) : Bool := s.tests.isMatch p

def shouldReport (s : Settings) (p : Path) : Bool := s.policy.shouldReport p

def shouldStringify (s : Settings) (p : Path) : Bool :=
  (s.stringify.map (·.isMatch p.text)).getD false

/-- The referenced project that `p` belongs to, if any. -/
def referenceFor (s : Settings) (p : Path) : Option ProjectReference :=
  s.references.find? (·.contains p)

/-- The report of diagnostics that stop a compile, plain or coloured with source lines. -/
def diagnosticsText (s : Settings) (store : FileStore) (ds : List Diagnostic) : String :=
  if s.policy.pretty then
    Diagnostic.colouredReport s.cwd (fun p => (store.read p).toOption) ds
  else Diagnostic.plainReport s.cwd ds

/-- What becomes of the diagnostics of a compile of `file`: when throwing and an error or
warning remains after filtering, the fault with the report and codes of those; otherwise the
remaining ones, to be reported as warnings. -/
def raiseDiagnostics (s : Settings) (store : FileStore) (ds : List Diagnostic) (file : Path) :
    Except (String × List Nat) (List Diagnostic) :=
  if !s.shouldReport file then .ok []
  else
    let remaining := s.policy.filter ds
    let important := remaining.filter Diagnostic.isImportant
    if s.policy.throws && !important.isEmpty then
      .error (s.diagnosticsText store important, important.map Diagnostic.code)
    else .ok (remaining.map (fun d => { d with category := .warning }))

/-- The digest of every input that changes compiled output. -/
def fingerprint (s : Settings) : Value :=
  let optText : Option String → Value
    | some t => .str t
    | none => .null
  .obj [
    ("compiler", .obj [("name", .str s.compilerName), ("version", .str s.compilerVersion)]),
    ("compilerOptions", s.options.toValue),
    ("diagnostics", .obj [
      ("enabled", .bool s.policy.enabled),
      ("ignoreCodes", .arr (s.policy.ignoreCodes.map Value.ofNat)),
      ("pathRegex", optText (s.policy.pathRegex.map (·.source))),
      ("pretty", .bool s.policy.pretty),
      ("throws", .bool s.policy.throws)]),
    ("isolatedModules", .bool s.isolated),
    ("references", .arr (s.references.map (fun r => .str r.configPath.text))),
    ("rootDir", .str s.rootDir.text),
    ("stringifyContentPathRegex", optText (s.stringify.map (·.source))),
    ("testMatch", Value.ofStrings s.tests.patterns),
    ("testRegex", Value.ofStrings s.host.testPatterns),
    ("tsconfig", optText (s.tsconfigPath.map (·.text))),
    ("useESM", .bool s.useEsm),
    ("version", .str libraryVersion)]

def cacheKey (s : Settings) : String := Hash.ofValue s.fingerprint

/-- The text that names the settings' root, project file, mode and compiler. -/
def describe (s : Settings) : String :=
  let tsconfig := match s.tsconfigPath with
    | some p => "Some(" ++ Text.shown p.text ++ ")"
    | none => "None"
  "ConfigSet \x7b root_dir: " ++ Text.shown s.rootDir.text ++ ", tsconfig_path: " ++ tsconfig ++
    ", isolated_modules: " ++ toString s.isolated ++ ", compiler_name: " ++ Text.shown s.compilerName ++
    ", .. \x7d"

end Settings

end Config
end TestTransform
