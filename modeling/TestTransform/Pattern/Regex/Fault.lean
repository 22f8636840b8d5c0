/-
Why a regular expression is refused, and how the refusal is shown.

A fault has a kind and the span of the pattern it points at, and some kinds also point back at
an earlier span (the first of two duplicate flags or names). The report repeats the pattern
and marks each span under it with carets, one caret at least; a pattern of several lines gets
numbered lines between two rules of tildes, and a span that crosses lines is named by its lines
and columns instead.
-/
import TestTransform.Text.Lines

namespace TestTransform
namespace Pattern
namespace Regex

/-- A place in a pattern: the index of its character, and line and column counted from one. -/
structure Place where
  index : Nat
  line : Nat
  column : Nat
deriving DecidableEq, Repr, Inhabited

structure Span where
  start : Place
  stop : Place
deriving DecidableEq, Repr, Inhabited

def Span.isOneLine (s : Span) : Bool := s.start.line == s.stop.line

inductive FaultKind where
  | classEscapeInvalid
  | classRangeInvalid
  | classRangeLiteral
  | classUnclosed
  | decimalEmpty
  | decimalInvalid
  | escapeHexEmpty
  | escapeHexInvalid
  | escapeHexInvalidDigit
  | escapeUnexpectedEof
  | escapeUnrecognized
  | flagDanglingNegation
  | flagDuplicate
  | flagRepeatedNegation
  | flagUnexpectedEof
  | flagUnrecognized
  | groupNameDuplicate
  | groupNameEmpty
  | groupNameInvalid
  | groupNameUnexpectedEof
  | groupUnclosed
  | groupUnopened
  | nestLimitExceeded (limit : Nat)
  | repetitionCountInvalid
  | repetitionCountDecimalEmpty
  | repetitionCountUnclosed
  | repetitionMissing
  | specialWordBoundaryUnclosed
  | specialWordBoundaryUnrecognized
  | specialWordOrRepetitionUnexpectedEof
  | unicodeClassInvalid
  | unsupportedBackreference
  | unsupportedLookAround
  /-- a `\p` class under a flag that turns Unicode off -/
  | unicodeNotAllowed
  /-- a class or `.` that could match a lone byte -/
  | invalidUtf8
  | unicodePropertyNotFound
  | unicodePropertyValueNotFound
deriving DecidableEq, Repr

def FaultKind.message : FaultKind → String
  | .classEscapeInvalid => "invalid escape sequence found in character class"
  | .classRangeInvalid => "invalid character class range, the start must be <= the end"
  | .classRangeLiteral => "invalid range boundary, must be a literal"
  | .classUnclosed => "unclosed character class"
  | .decimalEmpty => "decimal literal empty"
  | .decimalInvalid => "decimal literal invalid"
  | .escapeHexEmpty => "hexadecimal literal empty"
  | .escapeHexInvalid => "hexadecimal literal is not a Unicode scalar value"
  | .escapeHexInvalidDigit => "invalid hexadecimal digit"
  | .escapeUnexpectedEof => "incomplete escape sequence, reached end of pattern prematurely"
  | .escapeUnrecognized => "unrecognized escape sequence"
  | .flagDanglingNegation => "dangling flag negation operator"
  | .flagDuplicate => "duplicate flag"
  | .flagRepeatedNegation => "flag negation operator repeated"
  | .flagUnexpectedEof => "expected flag but got end of regex"
  | .flagUnrecognized => "unrecognized flag"
  | .groupNameDuplicate => "duplicate capture group name"
  | .groupNameEmpty => "empty capture group name"
  | .groupNameInvalid => "invalid capture group character"
  | .groupNameUnexpectedEof => "unclosed capture group name"
  | .groupUnclosed => "unclosed group"
  | .groupUnopened => "unopened group"
  | .nestLimitExceeded n =>
    "exceed the maximum number of nested parentheses/brackets (" ++ toString n ++ ")"
  | .repetitionCountInvalid => "invalid repetition count range, the start must be <= the end"
  | .repetitionCountDecimalEmpty => "repetition quantifier expects a valid decimal"
  | .repetitionCountUnclosed => "unclosed counted repetition"
  | .repetitionMissing => "repetition operator missing expression"
  | .specialWordBoundaryUnclosed =>
    "special word boundary assertion is either unclosed or contains an invalid character"
  | .specialWordBoundaryUnrecognized =>
    "unrecognized special word boundary assertion, valid choices are: start, end, start-half or end-half"
  | .specialWordOrRepetitionUnexpectedEof =>
    "found either the beginning of a special word boundary or a bounded repetition on a \\b with an opening brace, but no closing brace"
  | .unicodeClassInvalid => "invalid Unicode character class"
  | .unsupportedBackreference => "backreferences are not supported"
  | .unsupportedLookAround =>
    "look-around, including look-ahead and look-behind, is not supported"
  | .unicodeNotAllowed => "Unicode not allowed here"
  | .invalidUtf8 => "pattern can match invalid UTF-8"
  | .unicodePropertyNotFound => "Unicode property not found"
  | .unicodePropertyValueNotFound => "Unicode property value not found"

structure Fault where
  kind : FaultKind
  span : Span
  /-- the earlier span a duplicate points back at -/
  earlier : Option Span
deriving DecidableEq, Repr

namespace Fault

def repeatChar (n : Nat) (c : Char) : String := String.ofList (List.replicate n c)

/-- Spans in the order of their starts, then of their ends. -/
def spanBefore (a b : Span) : Bool :=
  a.start.index < b.start.index || (a.start.index == b.start.index && a.stop.index ≤ b.stop.index)

/-- The carets under one line for the spans that lie on it, after `indent` blanks. -/
def caretLine (indent : Nat) (spans : List Span) : String :=
  let step := fun (acc : String × Nat) (s : Span) =>
    let gap := (s.start.column - 1) - acc.2
    let width := max 1 (s.stop.column - s.start.column)
    (acc.1 ++ repeatChar gap ' ' ++ repeatChar width '^', acc.2 + gap + width)
  repeatChar indent ' ' ++ (spans.foldl step ("", 0)).1

/-- The line number `n` padded on the left to `width` digits. -/
def paddedNumber (width n : Nat) : String :=
  let digits := toString n
  repeatChar (width - digits.length) ' ' ++ digits

/-- The pattern line by line, each followed by the carets of the one-line spans on it. -/
def notate (pattern : String) (spans : List Span) : String :=
  let lines := Text.lines pattern
  let count := lines.length + (if pattern.endsWith "\n" then 1 else 0)
  let width := if count ≤ 1 then 0 else (toString count).length
  let indent := if width == 0 then 4 else 2 + width
  let oneLine := spans.filter Span.isOneLine
  String.join ((lines.zipIdx).map (fun (line, i) =>
    let head := if width == 0 then "    " else paddedNumber width (i + 1) ++ ": "
    let here := oneLine.filter (fun s => s.start.line == i + 1)
    head ++ line ++ "\n" ++ (if here.isEmpty then "" else caretLine indent here ++ "\n")))

/-- The report of a fault in `pattern`. -/
def render (pattern : String) (f : Fault) : String :=
  let spans := match f.earlier with
    | some e => if spanBefore e f.span then [e, f.span] else [f.span, e]
    | none => [f.span]
  let notated := notate pattern spans
  if pattern.contains '\n' then
    let rule := repeatChar 79 '~'
    let crossing := (spans.filter (fun s => !s.isOneLine)).map (fun s =>
      "on line " ++ toString s.start.line ++ " (column " ++ toString s.start.column ++
        ") through line " ++ toString s.stop.line ++ " (column " ++
        toString (s.stop.column - 1) ++ ")")
    "regex parse error:\n" ++ rule ++ "\n" ++ notated ++ rule ++ "\n" ++
      (if crossing.isEmpty then "" else "\n".intercalate crossing ++ "\n") ++
      "error: " ++ f.kind.message
  else
    "regex parse error:\n" ++ notated ++ "error: " ++ f.kind.message

end Fault

end Regex
end Pattern
end TestTransform
