/-
The host's project record, and the tool's options inside its globals.

The host record names the root directory, and optionally a working directory, a cache
directory, test-file globs, test-file patterns and free globals. Its canonical text lists the
fields in that order and leaves out the absent and empty ones. The tool's options sit under
the global `ts-jest`; when that global is absent or null they take their defaults.
-/
import TestTransform.Config.Policy
import TestTransform.Json.Commented

namespace TestTransform
namespace Config

open Json

/-- Where compiler options come from: `false` skips the tsconfig search and `true` asks for
it, a text names the tsconfig file, and an object gives options merged over the file's. -/
inductive TsConfigSource where
  | toggle (on : Bool)
  | path (p : String)
  | inline (members : List (String × Value))
deriving Repr

namespace TsConfigSource

def shape : Shape := .oneOf "TsConfigSource" [.flag, .text "a string", .dict .any]

def ofDecoded : Decoded → TsConfigSource
  | .variant 0 d => .toggle d.boolD
  | .variant 1 d => .path (d.str?.getD "")
  | .variant _ d => .inline (d.entryList.map (fun (k, e) => (k, (e.value?).getD .null)))
  | d => .toggle d.boolD

def toValue : TsConfigSource → Value
  | .toggle b => .bool b
  | .path p => .str p
  | .inline ms => .obj ms

end TsConfigSource

/-- The options under the global `ts-jest`. -/
structure ToolOptions where
  tsconfig : Option TsConfigSource
  isolatedModules : Bool
  /-- registry name of the compiler -/
  compiler : Option String
  diagnostics : Option DiagnosticsSetting
  stringifyContentPathRegex : Option String
  useEsm : Bool
deriving Repr

namespace ToolOptions

def default : ToolOptions := ⟨none, false, none, none, none, false⟩

def shape : Shape := .record "TsJestOptions" [
  .mk "tsconfig" ["tsConfig"] (.optional TsConfigSource.shape) false,
  .optional "isolatedModules" .flag, .optional "compiler" (.optional (.text "a string")),
  .optional "diagnostics" (.optional DiagnosticsSetting.shape),
  .optional "stringifyContentPathRegex" (.optional (.text "a string")),
  .optional "useESM" .flag]

def ofDecoded (d : Decoded) : ToolOptions :=
  ⟨(d.field 0).present?.map TsConfigSource.ofDecoded, (d.field 1).boolD, (d.field 2).str?,
    (d.field 3).present?.map DiagnosticsSetting.ofDecoded, (d.field 4).str?, (d.field 5).boolD⟩

def ofValue (v : Value) : Except DataFault ToolOptions := (shape.decode v).map ofDecoded

/-- The JSON form, with sorted keys and absent options left out. -/
def toValue (o : ToolOptions) : Value :=
  .obj (((o.compiler.map (fun c => [("compiler", Value.str c)])).getD []) ++
    ((o.diagnostics.map (fun d => [("diagnostics", d.toValue)])).getD []) ++
    [("isolatedModules", .bool o.isolatedModules)] ++
    ((o.stringifyContentPathRegex.map (fun p => [("stringifyContentPathRegex", Value.str p)])).getD []) ++
    ((o.tsconfig.map (fun t => [("tsconfig", t.toValue)])).getD []) ++
    [("useESM", .bool o.useEsm)])

end ToolOptions

/-- One pattern or a list of them. -/
inductive Patterns where
  | one (p : String)
  | many (ps : List String)
deriving DecidableEq, Repr

def Patterns.toList : Patterns → List String
  | .one p => [p]
  | .many ps => ps

def Patterns.toValue : Patterns → Value
  | .one p => .str p
  | .many ps => .arr (ps.map .str)

/-- The name of the global holding the tool's options. -/
def toolGlobal : String := "ts-jest"

/-- Stands for the root directory in path-like options. -/
def rootDirToken : String := "<rootDir>"

/-- Test-file globs when the host gives neither globs nor patterns. -/
def defaultTestMatch : List String :=
  ["**/__tests__/**/*.\x7bjs,jsx,ts,tsx\x7d", "**/*.\x7bspec,test\x7d.\x7bjs,jsx,ts,tsx\x7d"]

structure HostConfig where
  rootDir : Path
  cwd : Option Path
  cacheDirectory : Option Path
  testMatch : List String
  testRegex : Option Patterns
  /-- sorted by name -/
  globals : List (String × Value)
deriving Repr

namespace HostConfig

def ofRoot (root : Path) : HostConfig := ⟨root, none, none, [], none, []⟩

def pathShape : Shape := .text "path string"

def shape : Shape := .record "HostConfig" [
  .needed "rootDir" pathShape, .optional "cwd" (.optional pathShape),
  .optional "cacheDirectory" (.optional pathShape), .optional "testMatch" (.seq (.text "a string")),
  .optional "testRegex" (.optional (.oneOf "OneOrMany" [.text "a string", .seq (.text "a string")])),
  .optional "globals" (.dict .any)]

def ofDecoded (d : Decoded) : HostConfig :=
  let patterns := (d.field 4).present?.map (fun p =>
    match p with
    | .variant 0 e => Patterns.one (e.str?.getD "")
    | .variant _ e => .many e.strs
    | e => .one (e.str?.getD ""))
  ⟨⟨(d.field 0).str?.getD ""⟩, (d.field 1).str?.map Path.mk, (d.field 2).str?.map Path.mk,
    (d.field 3).strs, patterns, (d.field 5).entryList.map (fun (k, e) => (k, e.value?.getD .null))⟩

/-- The host record of a serialized text. -/
def ofJson (text : String) : Except ConfigError HostConfig :=
  match shape.readText text with
  | .ok d => .ok (ofDecoded d)
  | .error e => .error (.invalidHostConfig e.message)

/-- The canonical text: fields in their order, absent and empty ones left out. -/
def canonical (h : HostConfig) : String :=
  (Value.obj ([("rootDir", .str h.rootDir.text)] ++
    ((h.cwd.map (fun p => [("cwd", Value.str p.text)])).getD []) ++
    ((h.cacheDirectory.map (fun p => [("cacheDirectory", Value.str p.text)])).getD []) ++
    (if h.testMatch.isEmpty then [] else [("testMatch", .arr (h.testMatch.map .str))]) ++
    ((h.testRegex.map (fun p => [("testRegex", p.toValue)])).getD []) ++
    (if h.globals.isEmpty then [] else [("globals", .obj h.globals)]))).compact

def workingDir (h : HostConfig) : Path := h.cwd.getD h.rootDir

/-- The tool's options, their defaults when the global is absent or null. -/
def toolOptions (h : HostConfig) : Except ConfigError ToolOptions :=
  match (Value.obj h.globals).get? toolGlobal with
  | none | some .null => .ok ToolOptions.default
  | some v =>
    match ToolOptions.ofValue v with
    | .ok o => .ok o
    | .error f => .error (.invalidHostConfig ("globals['" ++ toolGlobal ++ "']: " ++ f.message))

def testPatterns (h : HostConfig) : List String := (h.testRegex.map Patterns.toList).getD []

/-- `value` with `<rootDir>` replaced by the root, resolved against the root. -/
def resolvePath (h : HostConfig) (value : String) : Path :=
  Path.resolve h.rootDir ⟨Text.replace value rootDirToken h.rootDir.text⟩

/-- The record with the tool's options set. -/
def withToolOptions (h : HostConfig) (o : ToolOptions) : HostConfig :=
  { h with globals := (Table.ofList (h.globals ++ [(toolGlobal, o.toValue)])).entries }

end HostConfig

/-- Per-call options of the host's transform hook. -/
structure TransformOptions where
  instrument : Bool
  supportsStaticEsm : Bool
deriving DecidableEq, Repr, Inhabited

end Config
end TestTransform
