/-
The stand-in compiler's language service: emitting, checking and resolving imports of one file
over the scripts of its host.

A service remembers the project version it last saw and counts a program build whenever the
version moved. Emitting skips files it is told to skip, gives nothing for declaration files
and otherwise writes the JavaScript and its map. Syntactic checking reports braces that do not
pair up. Semantic checking reports ambient globals (`__NAME__`) that neither the file nor a
declaration file of the program declares, and declarations of a primitive type whose
initializer has another type: a literal, or a name declared in the file or imported by name
from a module that resolves through the host. Imports resolve like node's module resolution: a
relative or absolute specifier against the importing file's directory, a bare one below each
`node_modules` on the way up, trying the file itself when it has an extension, then the usual
suffixes.

Every module of the stand-in counts its emits, transpiles, semantic checks and program builds,
and remembers the scripts its host listed at the last emit.
-/
import TestTransform.Compiler.Host
import TestTransform.Compiler.Standin.Emit
import TestTransform.Compiler.Standin.Shapes
import TestTransform.Text.Blank

namespace TestTransform
namespace Compiler
namespace Standin

open Config Pattern

structure Stats where
  emits : Nat
  transpiles : Nat
  semanticChecks : Nat
  programBuilds : Nat
  /-- the scripts the host listed at the last emit -/
  programFiles : List Path
deriving Inhabited

def Stats.zero : Stats := ⟨0, 0, 0, 0, []⟩

/-- A registered module of the stand-in compiler: its counters, and the files whose emit its
services skip. -/
structure Module where
  name : String
  version : String
  stats : Stats
  skipped : List Path
deriving Inhabited

def Module.ofVersion (name version : String) : Module := ⟨name, version, Stats.zero, []⟩

/-- Makes every service of the module skip the emit of `p`. -/
def Module.skipEmit (m : Module) (p : Path) : Module :=
  let p := p.normalize
  if m.skipped.any (· == p) then m else { m with skipped := m.skipped ++ [p] }

/-- A language service with its host and the counters of its module. -/
structure Service where
  host : ServiceHost
  /-- the project version of the last program built -/
  seen : Option Nat
  stats : Stats

abbrev ServiceM := StateM Service

/-- What an emit produced: output files by name, or a skipped emit. -/
structure EmitOutput where
  files : List (Path × String)
  skipped : Bool

def primitives : List String := ["string", "number", "boolean"]

def resolveSuffixes : List String := [".ts", ".tsx", ".d.ts", ".js", "/index.ts", "/index.d.ts", "/index.js"]

/-- Counts a program build when the project moved since the last one. -/
def sync : ServiceM Unit :=
  modify (fun s =>
    if s.seen == some s.host.projectVersion then s
    else { s with seen := some s.host.projectVersion,
                  stats := { s.stats with programBuilds := s.stats.programBuilds + 1 } })

def snapshot (store : FileStore) (file : Path) : ServiceM (Option String) :=
  modifyGet (fun s => let (t, h) := s.host.snapshot store file; (t, { s with host := h }))

/-- Where an import of `spec` from `origin` leads, through the host. -/
def resolveModule (store : FileStore) (h : ServiceHost) (origin : Path) (spec : String) : Option Path :=
  let dir := origin.parent.getD ⟨"/"⟩
  let bases := if spec.startsWith "." || spec.startsWith "/" then [(dir / spec).normalize]
    else dir.ancestors.map (fun a => a / "node_modules" / spec)
  bases.findSome? (fun base =>
    if base.extension.isSome && h.fileExists store base then some base
    else (resolveSuffixes.map (fun s => Path.mk (base.text ++ s))).find? (h.fileExists store))

/-- Signs, digits with at most one point, and an exponent: a decimal number, or `inf`,
`infinity` and `nan` in any case. -/
def isNumberLiteral (s : String) : Bool :=
  let cs := match s.toList with
    | '+' :: r | '-' :: r => r
    | r => r
  let word := (String.ofList cs).toLower
  if word == "inf" || word == "infinity" || word == "nan" then true
  else
    let whole := cs.takeWhile Char.isDigit
    let rest := cs.drop whole.length
    let (fraction, rest) := match rest with
      | '.' :: r => (r.takeWhile Char.isDigit, r.drop (r.takeWhile Char.isDigit).length)
      | r => ([], r)
    let exponentOk := match rest with
      | [] => true
      | c :: r =>
        if c == 'e' || c == 'E' then
          let ds := match r with
            | '+' :: d | '-' :: d => d
            | d => d
          !ds.isEmpty && ds.all Char.isDigit
        else false
    (!whole.isEmpty || !fraction.isEmpty) && exponentOk

/-- The type of a literal initializer. -/
def literalType (expression : String) : Option String :=
  let e := Text.trim expression
  if isNumberLiteral e then some "number"
  else if e.startsWith "\"" || e.startsWith "'" || e.startsWith "`" then some "string"
  else if e == "true" || e == "false" then some "boolean"
  else none

/-- The exported name bound to `name` by the bindings of a named import. -/
def importedName (bindings name : String) : Option String :=
  (Text.split bindings ",").findSome? (fun binding =>
    let parts := (Text.split binding " as ").map Text.trim
    let exported := parts.headD ""
    let bound := (parts.drop 1).headD exported
    if bound == name then some exported else none)

/-- The first declaration of `name` in a text: its declared type, or its initializer. -/
def declarationOf (text name : String) : Option (Option String × String) :=
  (Text.lines text).findSome? (fun line =>
    (valueDeclaration.captures? line).bind (fun caps =>
      if caps.text 1 == name then some (caps.text? 2, caps.text 3) else none))

/-- The first named import that binds `name`: the exported name and the module specifier. -/
def importOf (text name : String) : Option (String × String) :=
  (Text.lines text).findSome? (fun line =>
    (importNamed.captures? line).bind (fun caps =>
      (importedName (caps.text 1) name).map (·, caps.text 2)))

/-- Where following an initializer ends: at a type, at no type, or not within the fuel given. -/
inductive Chase where
  | type (name : String)
  | unknown
  /-- the recursion was still going when the fuel ran out -/
  | unbounded
deriving DecidableEq, Repr, Inhabited

/-- The type a chase found, if any. -/
def Chase.type? : Chase → Option String
  | .type t => some t
  | _ => none

mutual
/-- The type of an initializer: a literal, or a name declared or imported. Names declared in the
file are followed at most eight deep; a name imported by name is followed into its module with
the depth raised and not checked. `fuel` bounds the whole recursion. -/
def expressionType (store : FileStore) : Nat → Path → String → String → Nat → ServiceM Chase
  | 0, _, _, _, _ => pure .unbounded
  | fuel + 1, file, text, expression, depth =>
    match literalType expression with
    | some t => pure (.type t)
    | none =>
      if depth > 8 || !identifier.isMatch expression then pure .unknown
      else identifierType store fuel file text expression (depth + 1)

def identifierType (store : FileStore) : Nat → Path → String → String → Nat → ServiceM Chase
  | 0, _, _, _, _ => pure .unbounded
  | fuel + 1, file, text, name, depth =>
    match declarationOf text name with
    | some (some declared, _) => pure (.type declared)
    | some (none, initializer) => expressionType store fuel file text initializer depth
    | none =>
      match importOf text name with
      | none => pure .unknown
      | some (exported, spec) => do
        match resolveModule store (← get).host file spec with
        | none => pure .unknown
        | some module =>
          match ← snapshot store module with
          | none => pure .unknown
          | some moduleText => identifierType store fuel module moduleText exported (depth + 1)
end

/-- Fuel past every chase that ends. A chase takes at most two steps for each name it
follows, and past depth nine it follows imports only: reaching one module and name there a
second time, it goes round for ever. The modules are files of the store or the host, and each
name is a piece of an import's bindings, of which a text has at most one more than it has
characters. -/
def chaseFuel (store : FileStore) (h : ServiceHost) : Nat :=
  let texts := store.texts ++ h.files.texts
  2 * (10 + texts.length * texts.foldl (fun n t => n + t.length + 1) 0) + 2

/-- The globals a text declares with `declare const|let|var __NAME__`. -/
def declaredGlobals (text : String) : List String :=
  (Text.lines text).filterMap (fun line =>
    (ambientDeclaration.captures? line).map (·.text 1))

/-- Reports of the ambient globals that `text` uses and nobody declares. -/
def undeclaredGlobals (store : FileStore) (file : Path) (text : String) : ServiceM (List Diagnostic) := do
  let scripts := (← get).host.scriptFileNames
  let declared ← scripts.foldlM (fun (acc : List String) script =>
    if !(script == file) && script.isDeclarationFile then do
      match ← snapshot store script with
      | some declarations => pure (acc ++ declaredGlobals declarations)
      | none => pure acc
    else pure acc) (declaredGlobals text)
  pure ((Text.lines text).zipIdx.flatMap (fun (line, i) =>
    if ambientDeclaration.isMatch line then []
    else (ambientGlobal.capturesAll line).filterMap (fun m =>
      let name := m.text 0
      if declared.contains name then none
      else
        let start := ((m.span? 0).map Prod.fst).getD 0
        some ((Diagnostic.error cannotFindName ("Cannot find name '" ++ name ++ "'.")).withFile file
          |>.withSpan ⟨i, start⟩ name.utf8ByteSize))))

def emitOutput (store : FileStore) (skipped : List Path) (file : Path) : ServiceM EmitOutput := do
  modify (fun s => { s with stats := { s.stats with emits := s.stats.emits + 1 } })
  sync
  modify (fun s => { s with stats := { s.stats with programFiles := s.host.scriptFileNames } })
  if skipped.any (· == file.normalize) then return ⟨[], true⟩
  if file.isDeclarationFile then return ⟨[], false⟩
  match ← snapshot store file with
  | none => return ⟨[], true⟩
  | some text =>
    let (code, map) := emitJavaScript text file (← get).host.options
    let jsName := outputName file
    let mapFile := match map with
      | some m => [(Path.mk (jsName.text ++ ".map"), m)]
      | none => []
    return ⟨mapFile ++ [(jsName, code)], false⟩

def syntacticOf (store : FileStore) (file : Path) : ServiceM (List Diagnostic) := do
  sync
  pure (((← snapshot store file).map (fun text => syntacticDiagnostics text file)).getD [])

/-- What the check of one line finds: nothing to report, a mismatch, or a chase of the
initializer that never ends. -/
inductive LineCheck where
  | clean
  | mismatch (d : Diagnostic)
  | endless

/-- The diagnostics found so far, with those of one more line; none once a chase never ends. -/
def LineCheck.after (ds : List Diagnostic) : LineCheck → Option (List Diagnostic)
  | .clean => some ds
  | .mismatch d => some (ds ++ [d])
  | .endless => none

/-- A type mismatch in a declaration line, if any. -/
def mismatchIn (store : FileStore) (file : Path) (text : String) (line : String) (i : Nat) :
    ServiceM LineCheck :=
  match valueDeclaration.captures? line with
  | none => pure .clean
  | some caps =>
    match (caps.text? 2).filter primitives.contains with
    | none => pure .clean
    | some declared => do
      let fuel := chaseFuel store (← get).host
      match ← expressionType store fuel file text (caps.text 3) 0 with
      | .unbounded => pure .endless
      | .unknown => pure .clean
      | .type actual =>
        if actual == declared then pure .clean
        else
          let start := ((caps.span? 1).map Prod.fst).getD 0
          pure (.mismatch ((Diagnostic.error typeNotAssignable
            ("Type '" ++ actual ++ "' is not assignable to type '" ++ declared ++ "'.")).withFile file
            |>.withSpan ⟨i, start⟩ (caps.text 1).utf8ByteSize))

/-- The semantic diagnostics of a file: its undeclared globals, then the mismatches line by
line; none when the chase of some line never ends, where the check stops. -/
def semanticOf (store : FileStore) (file : Path) : ServiceM (Option (List Diagnostic)) := do
  modify (fun s => { s with stats := { s.stats with semanticChecks := s.stats.semanticChecks + 1 } })
  sync
  match ← snapshot store file with
  | none => pure (some [])
  | some text =>
    let globals ← undeclaredGlobals store file text
    (Text.lines text).zipIdx.foldlM (fun (found : Option (List Diagnostic)) (line, i) =>
      match found with
      | none => pure none
      | some ds => return (← mismatchIn store file text line i).after ds) (some globals)

/-- The modules `file` imports directly, each once, in the order of their imports. -/
def resolvedModulesOf (store : FileStore) (file : Path) : ServiceM (List Path) := do
  sync
  match ← snapshot store file with
  | none => pure []
  | some text =>
    let h := (← get).host
    pure ((Text.lines text).foldl (fun acc line =>
      (moduleSpecifier.capturesAll line).foldl (fun acc caps =>
        match resolveModule store h file (caps.text 1) with
        | some m => if acc.any (· == m) then acc else acc ++ [m]
        | none => acc) acc) [])

/-- One file compiled on its own: its JavaScript, its map, and its syntactic reports when
they are asked for. -/
structure Transpiled where
  code : String
  map : Option String
  diagnostics : List Diagnostic

def Module.transpile (m : Module) (input : String) (file : Path) (options : CompilerOptions)
    (report : Bool) : Transpiled × Module :=
  let (code, map) := emitJavaScript input file options
  (⟨code, map, if report then syntacticDiagnostics input file else []⟩,
    { m with stats := { m.stats with transpiles := m.stats.transpiles + 1 } })

end Standin
end Compiler
end TestTransform
