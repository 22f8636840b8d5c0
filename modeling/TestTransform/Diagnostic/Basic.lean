/-
Diagnostics: what a compiler, or the transformer itself, reports about a source file.

A diagnostic has a category, a numeric code and a message, and may name a file, a zero-based
position in it (line and character) and the length of the span that starts there. Its one-line
text is `file(line,character): category TScode: message`, with the position counted from one
and the file part only when a file is named.
-/
import TestTransform.Json.Shape
import TestTransform.Path

namespace TestTransform
namespace Diagnostic

inductive Category where
  | error
  | warning
  | suggestion
  | message
deriving DecidableEq, Repr, Inhabited

namespace Category

def label : Category → String
  | .error => "error"
  | .warning => "warning"
  | .suggestion => "suggestion"
  | .message => "message"

/-- The terminal colour of a category: bright red, bright yellow, grey, bright blue. -/
def color : Category → String
  | .error => "\x1b[91m"
  | .warning => "\x1b[93m"
  | .suggestion => "\x1b[90m"
  | .message => "\x1b[94m"

def all : List Category := [.error, .warning, .suggestion, .message]

def ofLabel? (s : String) : Option Category := all.find? (fun c => c.label == s)

/-- Errors and warnings are the categories that may fail a compile. -/
def isImportant : Category → Bool
  | .error | .warning => true
  | _ => false

end Category

/-- A zero-based line and character. -/
structure Position where
  line : Nat
  character : Nat
deriving DecidableEq, Repr, Inhabited

end Diagnostic

structure Diagnostic where
  category : Diagnostic.Category
  code : Nat
  message : String
  file : Option Path
  start : Option Diagnostic.Position
  length : Option Nat
deriving Repr, Inhabited

namespace Diagnostic

open Json

/-- Codes the transformer reports itself, above the compiler's own range. -/
def jsWithoutAllowJs : Nat := 151002

def unknownFileType : Nat := 151003

/-- A diagnostic of a category, with no file. -/
def make (category : Category) (code : Nat) (message : String) : Diagnostic :=
  ⟨category, code, message, none, none, none⟩

def error (code : Nat) (message : String) : Diagnostic := make .error code message

def warning (code : Nat) (message : String) : Diagnostic := make .warning code message

def note (code : Nat) (message : String) : Diagnostic := make .message code message

def withFile (d : Diagnostic) (file : Path) : Diagnostic := { d with file := some file }

def withSpan (d : Diagnostic) (start : Position) (length : Nat) : Diagnostic :=
  { d with start := some start, length := some length }

def isImportant (d : Diagnostic) : Bool := d.category.isImportant

/-- The position counted from one, as `(line,character)`. -/
def Position.shown (p : Position) : String :=
  "(" ++ toString (p.line + 1) ++ "," ++ toString (p.character + 1) ++ ")"

/-- `category TScode: message`. -/
def headline (d : Diagnostic) : String :=
  d.category.label ++ " TS" ++ toString d.code ++ ": " ++ d.message

/-- The one-line text: the file and position when known, then the headline. -/
def display (d : Diagnostic) : String :=
  let place := match d.file with
    | some f => f.text ++ (d.start.map Position.shown).getD "" ++ ": "
    | none => ""
  place ++ d.headline

def Position.toValue (p : Position) : Value :=
  .obj [("character", .ofNat p.character), ("line", .ofNat p.line)]

/-- The JSON form: sorted keys, absent parts left out. -/
def toValue (d : Diagnostic) : Value :=
  .obj ([("category", .str d.category.label), ("code", .ofNat d.code)] ++
    (d.file.map (fun f => [("file", Value.str f.text)])).getD [] ++
    (d.length.map (fun n => [("length", Value.ofNat n)])).getD [] ++
    [("message", .str d.message)] ++
    (d.start.map (fun p => [("start", p.toValue)])).getD [])

def categoryCheck (s : String) : Except String String :=
  match Category.ofLabel? s with
  | some c => .ok c.label
  | none => .error (DataFault.unknownVariant s (Category.all.map Category.label)).message

def positionShape : Shape := .record "Position" [.needed "line" .u32, .needed "character" .u32]

/-- What a diagnostic's JSON form must hold. -/
def shape : Shape := .record "Diagnostic" [
  .needed "category" (.keyword categoryCheck), .needed "code" .u32,
  .needed "message" (.text "a string"), .optional "file" (.optional (.text "path string")),
  .optional "start" (.optional positionShape), .optional "length" (.optional .u32)]

def ofDecoded (d : Decoded) : Diagnostic :=
  let start := (d.field 4).present?.bind (fun p =>
    match (p.field 0).nat?, (p.field 1).nat? with
    | some l, some c => some ⟨l, c⟩
    | _, _ => none)
  { category := ((d.field 0).str?.bind Category.ofLabel?).getD .error
    code := ((d.field 1).nat?).getD 0
    message := ((d.field 2).str?).getD ""
    file := (d.field 3).str?.map Path.mk
    start := start
    length := (d.field 5).nat? }

/-- The diagnostic of a JSON value, or why it is none. -/
def ofValue (v : Value) : Except DataFault Diagnostic := (shape.decode v).map ofDecoded

end Diagnostic
end TestTransform
