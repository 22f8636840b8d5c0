/-
Replies for faults: each fault is sent with the name of its kind and its message.
-/
import TestTransform.Api.Reply
import TestTransform.Error

namespace TestTransform
namespace Api

open Json

def ConfigError.kind : ConfigError → String
  | .io .. => "ConfigError.Io"
  | .invalidJson .. => "ConfigError.InvalidJson"
  | .tsconfigNotFound .. => "ConfigError.TsConfigNotFound"
  | .extendsCycle .. => "ConfigError.ExtendsCycle"
  | .unknownCompiler .. => "ConfigError.UnknownCompiler"
  | .invalidRegex .. => "ConfigError.InvalidRegex"
  | .invalidGlob .. => "ConfigError.InvalidGlob"
  | .invalidDiagnosticCode .. => "ConfigError.InvalidDiagnosticCode"
  | .invalidHostConfig .. => "ConfigError.InvalidHostConfig"
  | .invalidOption .. => "ConfigError.InvalidOption"

def CompileError.kind : CompileError → String
  | .diagnostics .. => "CompileError.Diagnostics"
  | .emitSkipped .. => "CompileError.EmitSkipped"
  | .noOutput .. => "CompileError.NoOutput"
  | .missingReferencedOutput .. => "CompileError.MissingReferencedOutput"
  | .io .. => "CompileError.Io"
  | .checkEndless .. => "CompileError.CheckEndless"

def CacheError.kind : CacheError → String
  | .io .. => "CacheError.Io"
  | .serialization .. => "CacheError.Serialization"
  | .noCacheDirectory => "CacheError.NoCacheDirectory"

/-- The members of a fault's reply: its kind and message (and codes, for diagnostics). -/
def configMembers (e : ConfigError) : List (String × Value) :=
  [("error", .str (ConfigError.kind e)), ("message", .str e.message)]

def compileMembers (e : CompileError) : List (String × Value) :=
  (match e with
   | .diagnostics _ cs => [("codes", .arr (cs.map Value.ofNat))]
   | _ => []) ++
  [("error", .str (CompileError.kind e)), ("message", .str e.message)]

def transformMembers : TransformError → List (String × Value)
  | .config e => configMembers e
  | .compile e => compileMembers e
  | e => [("error", .str "TransformError.Fallback"), ("message", .str e.message)]

def cacheMembers (e : CacheError) : List (String × Value) :=
  [("error", .str (CacheError.kind e)), ("message", .str e.message)]

def configFailure (e : ConfigError) : Value := .obj (configMembers e)

def compileFailure (e : CompileError) : Value := .obj (compileMembers e)

def transformFailure (e : TransformError) : Value := .obj (transformMembers e)

def cacheFailure (e : CacheError) : Value := .obj (cacheMembers e)

end Api
end TestTransform
