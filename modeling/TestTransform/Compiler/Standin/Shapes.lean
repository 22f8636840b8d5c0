/-
The line shapes that the stand-in compiler recognises, as patterns.

The stand-in knows TypeScript only line by line: declarations of types, type-only imports,
annotations of variables, parameters and return types, the import and export forms, module
specifiers, value declarations and the ambient globals written `__NAME__`.
-/
import TestTransform.Pattern.Regex.Search

namespace TestTransform
namespace Compiler
namespace Standin

open Pattern

/-- An identifier: a letter, `_` or `$`, then word characters or `$`. -/
def identifierShape : String := "[A-Za-z_$][\\w$]*"

/-- A type name with an optional argument list and array brackets. -/
def typeShape : String := "[A-Za-z_$][\\w$.]*(?:<[^>]*>)?(?:\\[\\])*"

def typeDeclaration : Regex :=
  Regex.fixed "^\\s*(?:export\\s+)?(?:interface|type|declare)\\s"

def typeOnlyImport : Regex := Regex.fixed "^\\s*(?:import|export)\\s+type\\s"

def variableAnnotation : Regex :=
  Regex.fixed ("\\b(const|let|var)\\s+(" ++ identifierShape ++ ")\\s*:\\s*[^=;]+?(\\s*[=;])")

def returnAnnotation : Regex :=
  Regex.fixed ("\\)\\s*:\\s*" ++ typeShape ++ "\\s*(\\x7b|=>)")

def parameterAnnotation : Regex :=
  Regex.fixed ("(" ++ identifierShape ++ ")\\??\\s*:\\s*" ++ typeShape ++ "(\\s*[,)=])")

/-- The quoted module of an import: a quote, the name, a quote. -/
def quotedModule : String := "['\"]([^'\"]+)['\"]"

def importNamed : Regex :=
  Regex.fixed ("^\\s*import\\s*\\x7b([^\\x7d]*)\\x7d\\s*from\\s*" ++ quotedModule ++ "\\s*;?\\s*$")

def importDefault : Regex :=
  Regex.fixed ("^\\s*import\\s+(" ++ identifierShape ++ ")\\s+from\\s*" ++ quotedModule ++
    "\\s*;?\\s*$")

def importNamespace : Regex :=
  Regex.fixed ("^\\s*import\\s*\\*\\s*as\\s+(" ++ identifierShape ++ ")\\s+from\\s*" ++
    quotedModule ++ "\\s*;?\\s*$")

def importBare : Regex := Regex.fixed ("^\\s*import\\s*" ++ quotedModule ++ "\\s*;?\\s*$")

def exportDeclaration : Regex :=
  Regex.fixed ("^(\\s*)export\\s+((?:async\\s+)?(?:const|let|var|function|class)\\s+(" ++
    identifierShape ++ "))")

def exportDefault : Regex := Regex.fixed "^(\\s*)export\\s+default\\s+"

def exportList : Regex := Regex.fixed "^\\s*export\\s*\\x7b([^\\x7d]*)\\x7d\\s*;?\\s*$"

def moduleSpecifier : Regex :=
  Regex.fixed ("(?:\\bfrom|^\\s*import|\\brequire\\()\\s*" ++ quotedModule)

def valueDeclaration : Regex :=
  Regex.fixed ("^\\s*(?:export\\s+)?(?:const|let|var)\\s+(" ++ identifierShape ++
    ")\\s*(?::\\s*(" ++ typeShape ++ ")\\s*)?=\\s*(.+?)\\s*;?\\s*$")

def ambientGlobal : Regex := Regex.fixed "\\b__[A-Z][A-Z0-9_]*__\\b"

def ambientDeclaration : Regex :=
  Regex.fixed "^\\s*declare\\s+(?:const|let|var)\\s+(__[A-Z][A-Z0-9_]*__)\\b"

def identifier : Regex := Regex.fixed ("^" ++ identifierShape ++ "$")

end Standin
end Compiler
end TestTransform
