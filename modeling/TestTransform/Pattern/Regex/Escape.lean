/-
Escapes and the single characters of a pattern.

An escape is a character (`\n`, `\x41`, `\u{1F600}`, a punctuation mark after a backslash), a
class (`\d`, `\pL`, `\p{Script=Greek}`), or an assertion (`\b`, `\A`). Under a flag that turns
Unicode off, a class named by a Unicode property is refused, and so are a negated `\D`, `\S` or
`\W`, a `.`, and a character written `\xNN` above 0x7F, since each could match a lone byte.
Case folding is then ASCII's.
-/
import TestTransform.Pattern.Regex.Reader
import TestTransform.Pattern.Regex.Property
import TestTransform.Pattern.Regex.Syntax

namespace TestTransform
namespace Pattern
namespace Regex

/-- What an escape or a single character stands for. A literal written `\xNN` with two digits
is a byte when Unicode is off (`hexByte`). -/
inductive Primitive where
  | literal (c : Char) (span : Span) (hexByte : Bool)
  | cls (c : CharClass) (span : Span)
  | look (l : Look) (span : Span)
  | dot (span : Span)

def Primitive.span : Primitive → Span
  | .literal _ s _ | .cls _ s | .look _ s | .dot s => s

def isMeta (c : Char) : Bool := "\\.+*?()|[]{}^$#&-~".toList.contains c

/-- Characters that stand for themselves after a backslash. -/
def isEscapeable (c : Char) : Bool :=
  isMeta c || (c.toNat < 0x80 && !c.isAlphanum && c != '<' && c != '>')

def hexValue? (c : Char) : Option Nat :=
  if c.isDigit then some (c.toNat - '0'.toNat)
  else if 'a' ≤ c && c ≤ 'f' then some (c.toNat - 'a'.toNat + 10)
  else if 'A' ≤ c && c ≤ 'F' then some (c.toNat - 'A'.toNat + 10)
  else none

/-- The character of a code point, when it is one. -/
def scalar? (n : Nat) : Option Char :=
  if n.isValidChar then some (Char.ofNat n) else none

/-- Exactly `count` hex digits, blanks between them skipped in verbose mode. -/
def hexDigits : Nat → Bool → Nat → Parse Nat
  | 0, _, v => pure v
  | n + 1, first, v => do
    if !first then
      if !(← bumpAndBumpSpace) then fail .escapeUnexpectedEof (← spanHere)
    match (← current?).bind hexValue? with
    | some d => hexDigits n false (v * 16 + d)
    | none => fail .escapeHexInvalidDigit (← spanChar)

/-- Hex digits up to a closing brace. -/
def braceDigits : Nat → Nat → Nat → Parse (Nat × Nat)
  | 0, v, k => pure (v, k)
  | n + 1, v, k => do
    if !(← bumpAndBumpSpace) then return (v, k)
    match ← current? with
    | some '}' => return (v, k)
    | some c =>
      match hexValue? c with
      | some d => braceDigits n (v * 16 + d) (k + 1)
      | none => fail .escapeHexInvalidDigit (← spanChar)
    | none => return (v, k)


/-- `\x`, `\u` or `\U` and their digits, the current character being the letter. Between
braces any number of digits is read, so long as their value is a code point. -/
def parseHex (start : Place) : Parse Primitive := do
  let width := match ← current? with
    | some 'x' => 2
    | some 'u' => 4
    | _ => 8
  if !(← bumpAndBumpSpace) then fail .escapeUnexpectedEof (← spanHere)
  if (← current?) == some '{' then
    let bracePlace ← here
    let digitsStart := (← get).nextPlace
    let (value, count) ← braceDigits (← fuel) 0 0
    if ← atEnd then fail .escapeUnexpectedEof ⟨bracePlace, ← here⟩
    let stop ← here
    let _ ← bumpAndBumpSpace
    if count == 0 then fail .escapeHexEmpty ⟨bracePlace, ← here⟩
    match (if value < Nat.pow 2 32 then scalar? value else none) with
    | some c => return .literal c ⟨start, ← here⟩ false
    | none => fail .escapeHexInvalid ⟨digitsStart, stop⟩
  else
    let digitsStart ← here
    let value ← hexDigits width true 0
    let _ ← bumpAndBumpSpace
    match scalar? value with
    | some c => return .literal c ⟨start, ← here⟩ (width == 2)
    | none => fail .escapeHexInvalid ⟨digitsStart, ← here⟩

/-- A class folded under the current flags: by Unicode's simple case folding, or by ASCII's
when Unicode is off. -/
def foldClass (cls : CharClass) : Parse CharClass := do
  let f ← flags
  if !f.caseless then return cls
  return if f.unicode then cls.caseFold else cls.caseFoldAscii

/-- The class of a `\p` escape under the current flags; a fault is noted and the class is
empty. The class is folded before it is negated. -/
def unicodeClass (negated : Bool) (query : PropertyQuery) (span : Span) : Parse CharClass := do
  if !(← flags).unicode then
    note .unicodeNotAllowed span
    return CharClass.empty
  match query.toClass with
  | .ok cls =>
    let cls ← foldClass cls
    return if negated then cls.negate else cls
  | .error kind =>
    note kind span
    return CharClass.empty

def collectUntilBrace : Nat → List Char → Parse (List Char)
  | 0, acc => pure acc.reverse
  | n + 1, acc => do
    if !(← bumpAndBumpSpace) then return acc.reverse
    match ← current? with
    | some '}' => return acc.reverse
    | some c => collectUntilBrace n (c :: acc)
    | none => return acc.reverse

/-- The query between the braces of `\p{...}`, and whether it says `!=`. A `!=` divides the
name from the value before a `:` does, and a `:` before a `=`. -/
def propertyQuery (text : String) : PropertyQuery × Bool :=
  match text.splitOn "!=" with
  | n :: v :: more => (.valued n ("!=".intercalate (v :: more)), true)
  | _ =>
    match text.splitOn ":" with
    | n :: v :: more => (.valued n (":".intercalate (v :: more)), false)
    | _ =>
      match text.splitOn "=" with
      | n :: v :: more => (.valued n ("=".intercalate (v :: more)), false)
      | _ => (.named text, false)

/-- `\p` or `\P` and its name, the current character being the letter. -/
def parseUnicodeClass (start : Place) : Parse Primitive := do
  let negated := (← current?) == some 'P'
  if !(← bumpAndBumpSpace) then fail .escapeUnexpectedEof (← spanHere)
  if (← current?) == some '{' then
    let name ← collectUntilBrace (← fuel) []
    if ← atEnd then fail .escapeUnexpectedEof (← spanHere)
    let _ ← bump
    let span : Span := ⟨start, ← here⟩
    let (query, notEqual) := propertyQuery (String.ofList name)
    return .cls (← unicodeClass (negated != notEqual) query span) span
  else
    let c := (← current?).getD ' '
    if c == '\\' then fail .unicodeClassInvalid (← spanChar)
    let _ ← bumpAndBumpSpace
    let span : Span := ⟨start, ← here⟩
    return .cls (← unicodeClass negated (.named (String.singleton c)) span) span

/-- `\d`, `\s`, `\w` and their negations under the current flags. Each is closed under case
folding already. -/
def perlClass (letter : Char) (span : Span) : Parse CharClass := do
  let f ← flags
  let base := match letter.toLower with
    | 'd' => if f.unicode then CharClass.unicodeDigit else CharClass.digit
    | 's' => if f.unicode then CharClass.unicodeSpace else CharClass.asciiSpace
    | _ => if f.unicode then CharClass.unicodeWord else CharClass.asciiWord
  if letter.isUpper then
    if !f.unicode then note .invalidUtf8 span
    return base.negate
  else return base

def wordLetters : Nat → List Char → Parse (List Char)
  | 0, acc => pure acc.reverse
  | n + 1, acc => do
    match ← current? with
    | some c =>
      if c.isAlpha || c == '-' then
        let _ ← bumpAndBumpSpace
        wordLetters n (c :: acc)
      else pure acc.reverse
    | none => pure acc.reverse

/-- After `\b`, the current character being `{`: a named boundary such as `\b{start}`, or
nothing when the brace opens a counted repetition. -/
def specialBoundary? (boundaryStart : Place) : Parse (Option Look) := do
  let saved ← get
  let start ← here
  if !(← bumpAndBumpSpace) then fail .specialWordOrRepetitionUnexpectedEof ⟨boundaryStart, ← here⟩
  let contentStart ← here
  match ← current? with
  | some c =>
    if !(c.isAlpha || c == '-') then
      set saved
      return none
  | none => pure ()
  let name ← wordLetters (← fuel) []
  if (← atEnd) || (← current?) != some '}' then
    fail .specialWordBoundaryUnclosed ⟨start, ← here⟩
  let stop ← here
  let _ ← bump
  let u := (← flags).unicode
  match String.ofList name with
  | "start" => return some (.wordStart u)
  | "end" => return some (.wordEnd u)
  | "start-half" => return some (.wordStartHalf u)
  | "end-half" => return some (.wordEndHalf u)
  | _ => fail .specialWordBoundaryUnrecognized ⟨contentStart, stop⟩

/-- An escape, the current character being the backslash. -/
def parseEscape : Parse Primitive := do
  let start ← here
  if !(← bump) then fail .escapeUnexpectedEof ⟨start, ← here⟩
  let c := (← current?).getD ' '
  if c.isDigit then fail .unsupportedBackreference ⟨start, (← get).nextPlace⟩
  if c == 'x' || c == 'u' || c == 'U' then return ← parseHex start
  if c == 'p' || c == 'P' then return ← parseUnicodeClass start
  if "dswDSW".toList.contains c then
    let _ ← bump
    let span : Span := ⟨start, ← here⟩
    return .cls (← perlClass c span) span
  let _ ← bump
  let span : Span := ⟨start, ← here⟩
  if isEscapeable c then return .literal c span false
  let u := (← flags).unicode
  match c with
  | 'a' => return .literal '\x07' span false
  | 'f' => return .literal '\x0c' span false
  | 't' => return .literal '\t' span false
  | 'n' => return .literal '\n' span false
  | 'r' => return .literal '\r' span false
  | 'v' => return .literal '\x0b' span false
  | 'A' => return .look .startText span
  | 'z' => return .look .endText span
  | 'b' =>
    if (← current?) == some '{' then
      match ← specialBoundary? start with
      | some l => return .look l ⟨start, ← here⟩
      | none => return .look (.wordBoundary u) span
    else return .look (.wordBoundary u) span
  | 'B' => return .look (.notWordBoundary u) span
  | '<' => return .look (.wordStart u) span
  | '>' => return .look (.wordEnd u) span
  | _ => fail .escapeUnrecognized span

/-- A literal outside brackets under the current flags. With Unicode off, a byte above 0x7F
written `\xNN` is refused. -/
def literalClass (c : Char) (span : Span) (hexByte : Bool) : Parse CharClass := do
  if !(← flags).unicode && hexByte && c.toNat > 0x7F then note .invalidUtf8 span
  foldClass (CharClass.single c)

end Regex
end Pattern
end TestTransform
