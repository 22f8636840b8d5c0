/-
Reports of diagnostics for a reader: one line each, paths shown relative to a working
directory with forward slashes.

The plain report is the one-line text of each diagnostic. The coloured report marks the path
in cyan, the position in yellow and the category in its own colour, and, when the source of
the file is at hand and has the diagnostic's line, shows that line under the headline with
the span underlined by tildes (one at least).
-/
import TestTransform.Diagnostic.Basic
import TestTransform.Text.Lines

namespace TestTransform
namespace Diagnostic

/-- A file as a report shows it: relative to `cwd` when under it, with forward slashes. -/
def displayPath (file cwd : Path) : String :=
  ((file.stripPrefix cwd).getD file).slashed

/-- The plain report of one diagnostic, ended by a line feed. -/
def plainLine (cwd : Path) (d : Diagnostic) : String :=
  let place := match d.file with
    | some f => displayPath f cwd ++ (d.start.map Position.shown).getD "" ++ ": "
    | none => ""
  place ++ d.headline ++ "\n"

def plainReport (cwd : Path) (ds : List Diagnostic) : String :=
  String.join (ds.map (plainLine cwd))

/-- Terminal escapes of the coloured report. -/
structure Palette where
  reset : String
  path : String
  position : String
  code : String
  inverse : String

def palette : Palette :=
  ⟨"\x1b[0m", "\x1b[96m", "\x1b[93m", "\x1b[90m", "\x1b[7m"⟩

def spaces (n : Nat) : String := String.ofList (List.replicate n ' ')

/-- The source line of a diagnostic and the marks under its span. -/
def context (d : Diagnostic) (start : Position) (line : String) : String :=
  let number := toString (start.line + 1)
  let underline := String.ofList (List.replicate (max (d.length.getD 1) 1) '~')
  "\n" ++ palette.inverse ++ number ++ palette.reset ++ " " ++ line ++ "\n" ++
  palette.inverse ++ spaces number.length ++ palette.reset ++ " " ++ spaces start.character ++
    d.category.color ++ underline ++ palette.reset ++ "\n\n"

/-- The coloured report of one diagnostic; `sourceOf` gives the text of a file when known. -/
def colouredEntry (cwd : Path) (sourceOf : Path → Option String) (d : Diagnostic) : String :=
  let place := match d.file with
    | some f =>
      palette.path ++ displayPath f cwd ++ palette.reset ++
        (d.start.map (fun p =>
          ":" ++ palette.position ++ toString (p.line + 1) ++ palette.reset ++
          ":" ++ palette.position ++ toString (p.character + 1) ++ palette.reset)).getD "" ++
        " - "
    | none => ""
  let headline := d.category.color ++ d.category.label ++ palette.reset ++ palette.code ++
    " TS" ++ toString d.code ++ ":" ++ palette.reset ++ " " ++ d.message ++ "\n"
  let shownLine := match d.file, d.start with
    | some f, some p =>
      match (sourceOf f).bind (fun src => (Text.lines src)[p.line]?) with
      | some line => context d p line
      | none => ""
    | _, _ => ""
  place ++ headline ++ shownLine

def colouredReport (cwd : Path) (sourceOf : Path → Option String) (ds : List Diagnostic) :
    String :=
  String.join (ds.map (colouredEntry cwd sourceOf))

end Diagnostic
end TestTransform
