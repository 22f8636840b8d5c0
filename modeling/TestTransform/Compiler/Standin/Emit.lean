/-
What the stand-in compiler writes for one source file.

Lines that declare types, and the block they open, are dropped, as are type-only imports;
annotations are stripped from the rest. Unless the module kind is an ES one, the import and
export forms become CommonJS: the file starts with a strict-mode line (and the `__esModule`
marker when it used module syntax), and the exported names are assigned at the end. With
source maps on, the code ends with a link to the map, whose only mapping is `AAAA`.

The one syntax check counts braces: when opening and closing braces differ in number, a
missing `}` is reported at the start of the last line.
-/
import TestTransform.Compiler.Standin.Shapes
import TestTransform.Config.CompilerOptions
import TestTransform.Diagnostic.Basic
import TestTransform.Text.Lines

namespace TestTransform
namespace Compiler
namespace Standin

open Pattern Json Config

def missingToken : Nat := 1005

def typeNotAssignable : Nat := 2322

def cannotFindName : Nat := 2304

/-- How many times `c` occurs in `s`. -/
def countChar (s : String) (c : Char) : Nat := s.toList.count c

/-- The line with its type annotations taken out. -/
def stripAnnotations (line : String) : String :=
  let line := variableAnnotation.replaceAll line "$1 $2$3"
  if Text.occurs "function" line || Text.occurs "=>" line then
    let line := returnAnnotation.replaceAll line ") $1"
    parameterAnnotation.replaceAll line "$1$2"
  else line

/-- A line of module syntax in CommonJS form, with the names it exports; none for any other
line. -/
def toCommonJs (line : String) : Option (String × List String) :=
  if let some caps := importNamed.captures? line then
    let bindings := Text.replace (caps.text 1) " as " ": "
    some ("const \x7b" ++ bindings ++ "\x7d = require(\"" ++ caps.text 2 ++ "\");", [])
  else if let some caps := importNamespace.captures? line then
    some ("const " ++ caps.text 1 ++ " = require(\"" ++ caps.text 2 ++ "\");", [])
  else if let some caps := importDefault.captures? line then
    some ("const " ++ caps.text 1 ++ " = require(\"" ++ caps.text 2 ++ "\").default;", [])
  else if let some caps := importBare.captures? line then
    some ("require(\"" ++ caps.text 1 ++ "\");", [])
  else if let some caps := exportList.captures? line then
    some ("", (Text.split (caps.text 1) ",").map Text.trim |>.filter (fun n => !n.isEmpty))
  else if let some caps := exportDeclaration.captures? line then
    some (exportDeclaration.replaceFirst line "$1$2", [caps.text 3])
  else if exportDefault.isMatch line then
    some (exportDefault.replaceFirst line "$\x7b1\x7dexports.default = ", [])
  else none

/-- What the line-by-line pass has gathered. -/
structure Emitted where
  body : List String
  exports : List String
  usesModules : Bool
  /-- how deep inside a dropped type block the pass is -/
  skipDepth : Nat

def Emitted.start : Emitted := ⟨[], [], false, 0⟩

def emitLine (esm : Bool) (e : Emitted) (line : String) : Emitted :=
  if e.skipDepth > 0 then
    { e with skipDepth := e.skipDepth + countChar line '{' - countChar line '}' }
  else if typeOnlyImport.isMatch line then e
  else if typeDeclaration.isMatch line then
    { e with skipDepth := countChar line '{' - countChar line '}' }
  else
    let line := stripAnnotations line
    if esm then { e with body := e.body ++ [line] }
    else
      match toCommonJs line with
      | some (line, names) =>
        { e with body := e.body ++ [line], exports := e.exports ++ names, usesModules := true }
      | none => { e with body := e.body ++ [line] }

/-- The name of the JavaScript written for a source: `.mts` gives `.mjs`, `.cts` gives `.cjs`,
anything else `.js`. -/
def outputName (file : Path) : Path :=
  match file.extension with
  | some "mts" => file.withExtension "mjs"
  | some "cts" => file.withExtension "cjs"
  | _ => file.withExtension "js"

/-- The source map of an output: version 3, one mapping, and the source inlined on request. -/
def sourceMap (jsName sourceName source : String) (inline : Bool) : Value :=
  .obj ([("file", .str jsName), ("mappings", .str "AAAA"), ("names", .arr []),
    ("sourceRoot", .str ""), ("sources", .arr [.str sourceName])] ++
    (if inline then [("sourcesContent", .arr [.str source])] else []) ++
    [("version", .ofNat 3)])

/-- The JavaScript for a source, and its map when source maps are on. -/
def emitJavaScript (source : String) (file : Path) (options : CompilerOptions) :
    String × Option String :=
  let esm := options.effectiveModule.isEsModule
  let e := (Text.lines source).foldl (emitLine esm) Emitted.start
  let header := if esm then ""
    else "\"use strict\";\n" ++
      (if e.usesModules then "Object.defineProperty(exports, \"__esModule\", \x7b value: true \x7d);\n"
       else "")
  let code := header ++ String.join (e.body.map (· ++ "\n")) ++
    String.join (e.exports.map (fun n => "exports." ++ n ++ " = " ++ n ++ ";\n"))
  if !(options.sourceMap.getD false) then (code, none)
  else
    let jsName := (outputName file).fileName.getD ""
    let sourceName := file.fileName.getD ""
    (code ++ "//# sourceMappingURL=" ++ jsName ++ ".map",
      some (sourceMap jsName sourceName source (options.inlineSources.getD false)).compact)

/-- A missing `}` at the start of the last line when the braces do not pair up in number. -/
def syntacticDiagnostics (text : String) (file : Path) : List Diagnostic :=
  if countChar text '{' == countChar text '}' then []
  else
    let lastLine := (Text.lines text).length - 1
    [(Diagnostic.error missingToken "'\x7d' expected.").withFile file |>.withSpan ⟨lastLine, 0⟩ 1]

end Standin
end Compiler
end TestTransform
