/-
Compiler options: the ones this library reasons about are typed, every other option is kept as
given and passed on.

Options are read from a JSON object by name: a language level and a module system by their
spellings, switches as booleans, directories and files as paths; `null` counts as absent.
Written back, an absent option is left out and the kept ones are merged in, all keys sorted.

The transform forces the options its output depends on: source maps on, not inlined, with
sources inlined; no declarations, no skipped emit, comments kept; and no single output file,
composite build, declaration output or build-info file.
-/
import TestTransform.Config.Target
import TestTransform.Json.Shape
import TestTransform.Path

namespace TestTransform
namespace Config

open Json

structure CompilerOptions where
  target : Option Target := none
  module : Option ModuleKind := none
  allowJs : Option Bool := none
  esModuleInterop : Option Bool := none
  allowSyntheticDefaultImports : Option Bool := none
  sourceMap : Option Bool := none
  inlineSourceMap : Option Bool := none
  inlineSources : Option Bool := none
  declaration : Option Bool := none
  declarationMap : Option Bool := none
  declarationDir : Option Path := none
  emitDeclarationOnly : Option Bool := none
  composite : Option Bool := none
  noEmit : Option Bool := none
  removeComments : Option Bool := none
  outDir : Option Path := none
  rootDir : Option Path := none
  outFile : Option Path := none
  out : Option Path := none
  sourceRoot : Option String := none
  tsBuildInfoFile : Option Path := none
  /-- options passed on untouched, sorted by name -/
  other : List (String × Value) := []
deriving Inhabited

namespace CompilerOptions

def pathText : Shape := .text "path string"

def switchField (name : String) : Field := .optional name (.optional .flag)

def pathField (name : String) : Field := .optional name (.optional pathText)

def shape : Shape := .flattened "CompilerOptions" [
  .optional "target" (.optional (.keyword (fun s => (Target.parse s).map Target.name))),
  .optional "module" (.optional (.keyword (fun s => (ModuleKind.parse s).map ModuleKind.name))),
  switchField "allowJs", switchField "esModuleInterop", switchField "allowSyntheticDefaultImports",
  switchField "sourceMap", switchField "inlineSourceMap", switchField "inlineSources",
  switchField "declaration", switchField "declarationMap", pathField "declarationDir",
  switchField "emitDeclarationOnly", switchField "composite", switchField "noEmit",
  switchField "removeComments", pathField "outDir", pathField "rootDir", pathField "outFile",
  pathField "out", .optional "sourceRoot" (.optional (.text "a string")),
  pathField "tsBuildInfoFile"]

def ofDecoded (d : Decoded) : CompilerOptions :=
  let str (k : Nat) := (d.field k).str?
  let sw (k : Nat) := (d.field k).bool?
  let path (k : Nat) := (str k).map Path.mk
  { target := (str 0).bind (fun s => (Target.parse s).toOption)
    module := (str 1).bind (fun s => (ModuleKind.parse s).toOption)
    allowJs := sw 2, esModuleInterop := sw 3, allowSyntheticDefaultImports := sw 4
    sourceMap := sw 5, inlineSourceMap := sw 6, inlineSources := sw 7, declaration := sw 8
    declarationMap := sw 9, declarationDir := path 10, emitDeclarationOnly := sw 11
    composite := sw 12, noEmit := sw 13, removeComments := sw 14, outDir := path 15
    rootDir := path 16, outFile := path 17, out := path 18, sourceRoot := str 19
    tsBuildInfoFile := path 20, other := d.rest }

/-- The options of a JSON value, or why they cannot be read from it. -/
def ofValue (v : Value) : Except DataFault CompilerOptions := (shape.decode v).map ofDecoded

def typedMembers (o : CompilerOptions) : List (String × Value) :=
  let sw (k : String) : Option Bool → List (String × Value)
    | some b => [(k, .bool b)]
    | none => []
  let path (k : String) : Option Path → List (String × Value)
    | some p => [(k, .str p.text)]
    | none => []
  (match o.target with | some t => [("target", .str t.name)] | none => []) ++
  (match o.module with | some m => [("module", .str m.name)] | none => []) ++
  sw "allowJs" o.allowJs ++ sw "esModuleInterop" o.esModuleInterop ++
  sw "allowSyntheticDefaultImports" o.allowSyntheticDefaultImports ++
  sw "sourceMap" o.sourceMap ++ sw "inlineSourceMap" o.inlineSourceMap ++
  sw "inlineSources" o.inlineSources ++ sw "declaration" o.declaration ++
  sw "declarationMap" o.declarationMap ++ path "declarationDir" o.declarationDir ++
  sw "emitDeclarationOnly" o.emitDeclarationOnly ++ sw "composite" o.composite ++
  sw "noEmit" o.noEmit ++ sw "removeComments" o.removeComments ++ path "outDir" o.outDir ++
  path "rootDir" o.rootDir ++ path "outFile" o.outFile ++ path "out" o.out ++
  (match o.sourceRoot with | some s => [("sourceRoot", .str s)] | none => []) ++
  path "tsBuildInfoFile" o.tsBuildInfoFile

/-- The options as a JSON object with sorted keys. -/
def toValue (o : CompilerOptions) : Value :=
  .obj (Value.sortMembers (o.typedMembers ++ o.other))

instance : BEq CompilerOptions := ⟨fun a b => a.toValue == b.toValue⟩

def applyForced (o : CompilerOptions) : CompilerOptions :=
  { o with sourceMap := some true, inlineSourceMap := some false, inlineSources := some true,
           declaration := some false, noEmit := some false, removeComments := some false,
           out := none, outFile := none, composite := none, declarationDir := none,
           declarationMap := none, emitDeclarationOnly := none, sourceRoot := none,
           tsBuildInfoFile := none }

def allowsJs (o : CompilerOptions) : Bool := o.allowJs.getD false

def effectiveModule (o : CompilerOptions) : ModuleKind := o.module.getD .commonjs

/-- The options of one compile: module output is ES only when asked for and supported, and
then with the interop switches on; otherwise CommonJS. -/
def forModuleSystem (o : CompilerOptions) (useEsm supportsStaticEsm : Bool) : CompilerOptions :=
  if useEsm && supportsStaticEsm then
    let m := match o.module with
      | some m => if m.isEsModule then m else .esnext
      | none => .esnext
    { o with module := some m, esModuleInterop := some true, allowSyntheticDefaultImports := some true }
  else { o with module := some .commonjs }

end CompilerOptions

end Config
end TestTransform
