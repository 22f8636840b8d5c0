/-
Why an operation fails.

Setup faults stop the building of a configuration; compile faults stop the file being
transformed and no other; cache faults come from the persisted dependency graph. Each kind has
its one message.
-/
import TestTransform.Path

namespace TestTransform

/-- A fault while building a configuration. -/
inductive ConfigError where
  | io (path : Path) (reason : String)
  | invalidJson (path : Path) (message : String)
  | tsconfigNotFound (path : Path)
  | extendsCycle (path : Path)
  | unknownCompiler (name registered : String)
  | invalidRegex (option message : String)
  | invalidGlob (pattern message : String)
  | invalidDiagnosticCode (value : String)
  | invalidHostConfig (message : String)
  | invalidOption (option message : String)
deriving Repr

def ConfigError.message : ConfigError → String
  | .io p r => "IO error reading " ++ p.text ++ ": " ++ r
  | .invalidJson p m => "Invalid JSON in " ++ p.text ++ ": " ++ m
  | .tsconfigNotFound p => "TypeScript config file not found: " ++ p.text
  | .extendsCycle p => "tsconfig extends cycle detected at " ++ p.text
  | .unknownCompiler n r => "Unable to resolve compiler module '" ++ n ++ "' (registered: " ++ r ++ ")"
  | .invalidRegex o m => "Invalid regular expression for " ++ o ++ ": " ++ m
  | .invalidGlob p m => "Invalid glob pattern '" ++ p ++ "': " ++ m
  | .invalidDiagnosticCode v => "Invalid diagnostic code '" ++ v ++ "'"
  | .invalidHostConfig m => "Invalid host configuration: " ++ m
  | .invalidOption o m => "Invalid value for option '" ++ o ++ "': " ++ m

/-- The faults beneath this one, outermost first: the system's reason for an I/O fault. -/
def ConfigError.causes : ConfigError → List String
  | .io _ r => [r]
  | _ => []

/-- A fault while compiling one file. -/
inductive CompileError where
  /-- diagnostics that survived filtering, as one text, and their codes -/
  | diagnostics (text : String) (codes : List Nat)
  | emitSkipped (file : Path)
  | noOutput (file : Path)
  | missingReferencedOutput (input expected project : Path)
  | io (path : Path) (reason : String)
  /-- the semantic check of a file whose chase of names never ends: the program runs out of
  stack there and stops -/
  | checkEndless (file : Path)
deriving Repr

def CompileError.message : CompileError → String
  | .diagnostics t _ => "Unable to compile TypeScript:\n" ++ t
  | .emitSkipped f => f.text ++ ": Emit skipped for language service"
  | .noOutput f =>
    "Unable to require `.d.ts` file.\nThis is usually the result of a faulty configuration or import. " ++
    "Make sure there is a `.js`, `.json` or another executable extension available alongside `" ++
    f.text ++ "`."
  | .missingReferencedOutput i e p =>
    "Could not find output JavaScript file for input " ++ i.text ++ " (looked at " ++ e.text ++
    ").\nThe input file is part of a project reference located at " ++ p.text ++
    ", so the pre-built output is read from disk. Try running `tsc --build` to build project references."
  | .io p r => "IO error reading " ++ p.text ++ ": " ++ r
  | .checkEndless f => f.text ++ ": the semantic check does not end"

/-- The codes a compile fault carries: those of its diagnostics, none otherwise. -/
def CompileError.codes : CompileError → List Nat
  | .diagnostics _ cs => cs
  | _ => []

/-- A fault of a transformation: of its setup, of its compile, or of the next transformer. -/
inductive TransformError where
  | config (e : ConfigError)
  | compile (e : CompileError)
  | fallback (name message : String)
deriving Repr

def TransformError.message : TransformError → String
  | .config e => e.message
  | .compile e => e.message
  | .fallback n m => "Fallback transformer '" ++ n ++ "' failed: " ++ m

/-- A fault of the persisted dependency graph. -/
inductive CacheError where
  | io (path : Path) (reason : String)
  | serialization (message : String)
  | noCacheDirectory
deriving Repr

def CacheError.message : CacheError → String
  | .io p r => "IO error on " ++ p.text ++ ": " ++ r
  | .serialization m => "Serialization error: " ++ m
  | .noCacheDirectory => "No cache directory configured"

/-- The faults beneath this one, outermost first: the system's reason for an I/O fault, the
reader's for a graph that cannot be read. -/
def CacheError.causes : CacheError → List String
  | .io _ r => [r]
  | .serialization m => [m]
  | .noCacheDirectory => []

end TestTransform
