/-
JSON with comments, as configuration files are written.

Before reading, `//` comments are removed up to the line feed that ends them (the line feed is
kept), `/* */` comments are removed except for the line feeds inside them, and a comma is
dropped when the next character that is not blank is a closing bracket or brace. Text inside
string literals is never touched by either pass.
-/
import TestTransform.Json.Read
import TestTransform.Text.Blank

namespace TestTransform
namespace Json

inductive Mode where
  | code
  | quoted (escaped : Bool)
  | lineComment
  | blockComment
deriving DecidableEq, Repr

/-- The mode after a character of a string literal. -/
def Mode.afterQuoted (escaped : Bool) (c : Char) : Mode :=
  if escaped then .quoted false
  else if c == '\\' then .quoted true
  else if c == '"' then .code
  else .quoted false

def stripCommentsFrom : Mode → List Char → List Char
  | _, [] => []
  | .lineComment, c :: cs =>
    if c == '\n' then c :: stripCommentsFrom .code cs else stripCommentsFrom .lineComment cs
  | .blockComment, '*' :: '/' :: cs => stripCommentsFrom .code cs
  | .blockComment, c :: cs =>
    if c == '\n' then c :: stripCommentsFrom .blockComment cs else stripCommentsFrom .blockComment cs
  | .quoted e, c :: cs => c :: stripCommentsFrom (Mode.afterQuoted e c) cs
  | .code, '/' :: '/' :: cs => stripCommentsFrom .lineComment cs
  | .code, '/' :: '*' :: cs => stripCommentsFrom .blockComment cs
  | .code, c :: cs =>
    if c == '"' then c :: stripCommentsFrom (.quoted false) cs else c :: stripCommentsFrom .code cs

def stripComments (s : String) : String := String.ofList (stripCommentsFrom .code s.toList)

/-- Whether the first character of `cs` that is not blank closes a list or an object. -/
def closesNext (cs : List Char) : Bool :=
  match cs.find? (fun c => !Text.isBlank c) with
  | some '}' | some ']' => true
  | _ => false

/-- `inString` and `escaped` track string literals as in `stripCommentsFrom`. -/
def dropTrailingCommasFrom : Option Bool → List Char → List Char
  | _, [] => []
  | some e, c :: cs => c :: dropTrailingCommasFrom (match Mode.afterQuoted e c with
      | .quoted e' => some e'
      | _ => none) cs
  | none, c :: cs =>
    if c == '"' then c :: dropTrailingCommasFrom (some false) cs
    else if c == ',' && closesNext cs then dropTrailingCommasFrom none cs
    else c :: dropTrailingCommasFrom none cs

def dropTrailingCommas (s : String) : String := String.ofList (dropTrailingCommasFrom none s.toList)

/-- The value of a text written with comments and trailing commas. -/
def Value.readCommented (text : String) : Except Error Value :=
  Value.read (dropTrailingCommas (stripComments text))

end Json
end TestTransform
