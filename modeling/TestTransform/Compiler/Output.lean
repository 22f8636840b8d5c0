/-
Compiled JavaScript with its source map inlined.

The map is pointed at the source file (its `file` and only `sources` entry become the file's
path with forward slashes, and `sourceRoot` goes), and it is appended to the code as a base64
data URL. A mapping comment that ends the code (only blanks after it) is replaced; otherwise
the new comment goes on a line of its own.
-/
import TestTransform.Json.Read
import TestTransform.Json.Write
import TestTransform.Path
import TestTransform.Text.Base64
import TestTransform.Text.Blank

namespace TestTransform
namespace Compiler

open Json

/-- JavaScript for one file, and the source map inlined into it. -/
structure Output where
  code : String
  sourceMap : Option String
deriving DecidableEq, Repr, Inhabited

def mappingComment : String := "//# sourceMappingURL="

def dataUrlPrefix : String := "data:application/json;charset=utf-8;base64,"

/-- Whether `pre` starts `cs`. -/
def isPrefix (pre cs : List Char) : Bool := pre == cs.take pre.length

/-- The index of the last place where `pattern` starts in `cs`. -/
def lastIndexOf (pattern cs : List Char) : Option Nat :=
  ((List.range (cs.length + 1)).filter (fun i => isPrefix pattern (cs.drop i))).getLast?

/-- The map pointed at `file`: `file` and `sources` set, `sourceRoot` removed; a text that is
no JSON object is kept as it is. -/
def retargetMap (map : String) (file : Path) : String :=
  match Value.read map with
  | .ok (.obj members) =>
    let name := file.slashed
    let kept := members.filter (fun m => m.1 != "file" && m.1 != "sources" && m.1 != "sourceRoot")
    (Value.obj (Value.sortMembers (kept ++ [("file", .str name), ("sources", .arr [.str name])]))).compact
  | _ => map

/-- The code with its source map inlined as a data URL. -/
def finalize (code : String) (map : Option String) (file : Path) : Output :=
  match map with
  | none => ⟨code, none⟩
  | some map =>
    let map := retargetMap map file
    let cs := code.toList
    let body := match lastIndexOf mappingComment.toList cs with
      | some i =>
        if (Text.trimEnd (cs.drop i)).contains '\n' then cs else cs.take i
      | none => cs
    let body := String.ofList body
    let body := if !body.isEmpty && !body.endsWith "\n" then body ++ "\n" else body
    ⟨body ++ mappingComment ++ dataUrlPrefix ++ Text.base64 map, some map⟩

/-- Whether a path lies inside a `node_modules` directory. -/
def isNodeModules (p : Path) : Bool := p.hasComponent "node_modules"

end Compiler
end TestTransform
