/-
Bracketed classes: `[abc]`, `[^a-z]`, `[[:alpha:]]`, brackets inside brackets, and the
operations `&&` (in both), `--` (in the first and not the second) and `~~` (in exactly one)
between classes, which group from the left. A `-` first or right after `^`, and a `]` first,
stand for themselves.

Under the case-insensitive flag both operands of an operation are folded before it, and the
whole class is folded before it is negated. With Unicode off, every character of a class must
be a byte: a character beyond ASCII is refused, a byte above 0x7F written `\xNN` is refused as
invalid UTF-8, and so is a class that, once negated, holds anything beyond ASCII.
-/
import TestTransform.Pattern.Regex.Escape
import TestTransform.Pattern.Regex.Nesting

namespace TestTransform
namespace Pattern
namespace Regex

inductive ClassOp where
  | inter
  | diff
  | symmDiff

def ClassOp.apply : ClassOp → CharClass → CharClass → CharClass
  | .inter, a, b => a.inter b
  | .diff, a, b => a.diff b
  | .symmDiff, a, b => a.symmDiff b

/-- The items of a class read so far: their union, and the span and nesting of each. -/
structure ClassUnion where
  cls : CharClass
  items : List (Span × Nesting)
  /-- where the union began: its span while it has no item -/
  start : Place

namespace ClassUnion

def empty (p : Place) : ClassUnion := ⟨CharClass.empty, [], p⟩

def add (u : ClassUnion) (cls : CharClass) (span : Span) (t : Nesting) : ClassUnion :=
  { u with cls := u.cls.union cls, items := u.items ++ [(span, t)] }

/-- The span and nesting of the union as one item: nothing, its only item, or a level around
two or more. -/
def asItem (u : ClassUnion) : Span × Nesting :=
  match u.items with
  | [] => (⟨u.start, u.start⟩, .flat)
  | [x] => x
  | x :: more =>
    let span : Span := ⟨x.1.start, ((more.getLast?).getD x).1.stop⟩
    (span, .level span (u.items.map Prod.snd))

end ClassUnion

/-- The left operand of an operation, waiting for the right one. -/
structure ClassOperand where
  op : ClassOp
  cls : CharClass
  span : Span
  nesting : Nesting

/-- Ends an operand: the union read, combined with the waiting left operand if there is one. -/
def closeOperand (pending : Option ClassOperand) (u : ClassUnion) :
    Parse (CharClass × Span × Nesting) := do
  let (span, t) := u.asItem
  match pending with
  | none => return (u.cls, span, t)
  | some l =>
    let whole : Span := ⟨l.span.start, span.stop⟩
    return (l.op.apply (← foldClass l.cls) (← foldClass u.cls), whole, .level whole [l.nesting, t])

/-- With Unicode off, a class that holds anything beyond ASCII is refused. -/
def checkBytes (cls : CharClass) (span : Span) : Parse Unit := do
  if !(← flags).unicode && cls.ranges.any (fun r => r.2 ≥ 0x80) then note .invalidUtf8 span

def nameUntilColon : Nat → Parse Unit
  | 0 => pure ()
  | n + 1 => do
    if (← current?) == some ':' then return
    if ← bump then nameUntilColon n

/-- A class such as `[:alpha:]` inside brackets with its span, or nothing (and no move) when
there is none. -/
def asciiClass? : Parse (Option (CharClass × Span)) := do
  let saved ← get
  let restore : Parse (Option (CharClass × Span)) := do
    set saved
    return none
  let start ← here
  if !(← bump) || (← current?) != some ':' then return ← restore
  if !(← bump) then return ← restore
  let mut negated := false
  if (← current?) == some '^' then
    negated := true
    if !(← bump) then return ← restore
  let nameStart := (← here).index
  nameUntilColon (← fuel)
  if ← atEnd then return ← restore
  let r ← get
  let name := String.ofList ((r.chars.toList.drop nameStart).take (r.place.index - nameStart))
  if !(← bumpIf ":]") then return ← restore
  match CharClass.ascii? name with
  | some cls =>
    let span : Span := ⟨start, ← here⟩
    let cls ← foldClass cls
    let cls := if negated then cls.negate else cls
    checkBytes cls span
    return some (cls, span)
  | none => restore

/-- A character inside brackets: an escape or the character itself. -/
def classItem : Parse Primitive := do
  if (← current?) == some '\\' then parseEscape
  else
    let c := (← current?).getD ' '
    let span ← spanChar
    let _ ← bump
    return .literal c span false

/-- With Unicode off, a character inside brackets must be a byte. -/
def checkClassLiteral (c : Char) (span : Span) (hexByte : Bool) : Parse Unit := do
  if !(← flags).unicode && c.toNat > 0x7F then
    note (if hexByte then .invalidUtf8 else .unicodeNotAllowed) span

def Primitive.toClass (p : Primitive) : Parse CharClass :=
  match p with
  | .literal c s b => do
    checkClassLiteral c s b
    return CharClass.single c
  | .cls c _ => pure c
  | .look _ s | .dot s => fail .classEscapeInvalid s

def Primitive.toLiteral (p : Primitive) : Parse Char :=
  match p with
  | .literal c _ _ => pure c
  | p => fail .classRangeLiteral p.span

def Primitive.checkLiteral (p : Primitive) : Parse Unit :=
  match p with
  | .literal c s b => checkClassLiteral c s b
  | _ => pure ()

/-- A character, an escape or a range inside brackets, with its span. -/
def classRange (setSpan : Span) : Parse (CharClass × Span) := do
  let first ← classItem
  bumpSpace
  if ← atEnd then fail .classUnclosed setSpan
  let after ← peekSpace
  if (← current?) != some '-' || after == some ']' || after == some '-' then
    return (← first.toClass, first.span)
  if !(← bumpAndBumpSpace) then fail .classUnclosed setSpan
  let second ← classItem
  let span : Span := ⟨first.span.start, second.span.stop⟩
  let lo ← first.toLiteral
  let hi ← second.toLiteral
  if hi < lo then fail .classRangeInvalid span
  first.checkLiteral
  second.checkLiteral
  return (CharClass.ofRanges [(lo.toNat, hi.toNat)], span)

def leadingDashes (start : Place) : Nat → ClassUnion → Parse ClassUnion
  | 0, u => pure u
  | n + 1, u => do
    if (← current?) != some '-' then return u
    let u := u.add (CharClass.single '-') (← spanChar) .flat
    if !(← bumpAndBumpSpace) then fail .classUnclosed ⟨start, start⟩
    leadingDashes start n u

mutual
/-- A bracketed class with its span and nesting, the current character being its `[`. -/
def parseBracket : Nat → Parse (CharClass × Span × Nesting)
  | 0 => do fail (.nestLimitExceeded nestLimit) (← spanHere)
  | n + 1 => do
    let start ← here
    if !(← bumpAndBumpSpace) then fail .classUnclosed ⟨start, ← here⟩
    let mut negated := false
    if (← current?) == some '^' then
      negated := true
      if !(← bumpAndBumpSpace) then fail .classUnclosed ⟨start, ← here⟩
    let mut union ← leadingDashes start (← fuel) (ClassUnion.empty (← here))
    if union.items.isEmpty && (← current?) == some ']' then
      union := union.add (CharClass.single ']') (← spanChar) .flat
      if !(← bumpAndBumpSpace) then fail .classUnclosed ⟨start, ← here⟩
    let setSpan : Span := ⟨start, ← here⟩
    let (cls, _, inner) ← classItems n setSpan none union
    let span : Span := ⟨start, ← here⟩
    let cls ← foldClass cls
    let cls := if negated then cls.negate else cls
    checkBytes cls span
    return (cls, span, .level span [inner])

/-- The items of a bracketed class up to its `]`. -/
def classItems : Nat → Span → Option ClassOperand → ClassUnion →
    Parse (CharClass × Span × Nesting)
  | 0, _, _, _ => do fail (.nestLimitExceeded nestLimit) (← spanHere)
  | n + 1, setSpan, pending, union => do
    bumpSpace
    if ← atEnd then fail .classUnclosed setSpan
    let c := (← current?).getD ' '
    let next ← peek
    if c == '[' then
      match ← asciiClass? with
      | some (cls, span) => classItems n setSpan pending (union.add cls span .flat)
      | none =>
        let (inner, span, t) ← parseBracket n
        classItems n setSpan pending (union.add inner span t)
    else if c == ']' then
      let _ ← bump
      closeOperand pending union
    else if (c == '&' || c == '-' || c == '~') && next == some c then
      let _ ← bumpIf (String.ofList [c, c])
      let (lhs, span, t) ← closeOperand pending union
      let op := if c == '&' then ClassOp.inter else if c == '-' then .diff else .symmDiff
      classItems n setSpan (some ⟨op, lhs, span, t⟩) (ClassUnion.empty (← here))
    else
      let (item, span) ← classRange setSpan
      classItems n setSpan pending (union.add item span .flat)
end

end Regex
end Pattern
end TestTransform
