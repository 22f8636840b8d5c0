/-
Reading a pattern into a tree.

The reader goes from left to right and stops at the first fault of form. A pattern that reads
is then refused if its parts nest too deep (`Nesting`). Faults of meaning (an unknown Unicode
property, a class that could match a lone byte) are noted when met and reported last, the
first one noted winning.

Flags set by `(?flags)` hold until the end of the enclosing group; `(?flags:...)` sets them
for its body only. Groups are numbered by their opening parentheses, from one.
-/
import TestTransform.Pattern.Regex.Bracket

namespace TestTransform
namespace Pattern
namespace Regex

/-! ## Groups and flags -/

/-- Flag letters up to `:` or `)`, with the letters after a `-` turned off. -/
def flagItems : Nat → Flags → List (Char × Span) → Option Span → Parse (Flags × Bool) 
  | 0, f, items, _ => pure (f, !items.isEmpty)
  | n + 1, f, items, dangling => do
    let c := (← current?).getD ' '
    if c == ':' || c == ')' then
      if let some s := dangling then fail .flagDanglingNegation s
      return (f, !items.isEmpty)
    let span ← spanChar
    if c == '-' then
      if let some (_, first) := items.find? (fun it => it.1 == '-') then
        throw ⟨.flagRepeatedNegation, span, some first⟩
      if !(← bump) then fail .flagUnexpectedEof (← spanHere)
      flagItems n f ((c, span) :: items) (some span)
    else
      if !isFlagLetter c then fail .flagUnrecognized span
      if let some (_, first) := items.find? (fun it => it.1 == c) then
        throw ⟨.flagDuplicate, span, some first⟩
      let on := !(items.any (fun it => it.1 == '-'))
      if !(← bump) then fail .flagUnexpectedEof (← spanHere)
      flagItems n (f.set c on) ((c, span) :: items) none

/-- The first character of a group's name: `_` or an alphabetic character. -/
def isNameStart (c : Char) : Bool := c == '_' || Unicode.isAlphabetic c

/-- A later character of a group's name: also a number, `.`, `[` or `]`. -/
def isNameChar (c : Char) : Bool :=
  c == '_' || c == '.' || c == '[' || c == ']' || Unicode.isAlphanumeric c

def nameChars (start : Place) : Nat → Parse Unit
  | 0 => pure ()
  | n + 1 => do
    let c := (← current?).getD ' '
    if c == '>' then return
    if !(if (← here).index == start.index then isNameStart c else isNameChar c) then
      fail .groupNameInvalid (← spanChar)
    if ← bump then nameChars start n

/-- The name of a group up to its `>`. -/
def captureName : Parse Unit := do
  if ← atEnd then fail .groupNameUnexpectedEof (← spanHere)
  let start ← here
  nameChars start (← fuel)
  let stop ← here
  if ← atEnd then fail .groupNameUnexpectedEof (← spanHere)
  let _ ← bump
  let r ← get
  let name := String.ofList ((r.chars.toList.drop start.index).take (stop.index - start.index))
  if name.isEmpty then fail .groupNameEmpty ⟨start, start⟩
  let span : Span := ⟨start, stop⟩
  if let some (_, first) := r.names.find? (fun e => e.1 == name) then
    throw ⟨.groupNameDuplicate, span, some first⟩
  set { r with names := r.names ++ [(name, span)] }

/-- The next group number. -/
def nextGroup : Parse Nat := do
  let r ← get
  set { r with groups := r.groups + 1 }
  return r.groups + 1

/-- What follows an opening parenthesis. -/
inductive Opening where
  /-- flags for the rest of the enclosing group -/
  | setFlags (f : Flags)
  /-- a group: its number when it captures, and the flags of its body -/
  | group (index : Option Nat) (f : Flags)


/-- Reads from `(` to the start of the group's body. -/
def parseOpening (openSpan : Span) : Parse Opening := do
  let _ ← bump
  bumpSpace
  if (← bumpIf "?=") || (← bumpIf "?!") || (← bumpIf "?<=") || (← bumpIf "?<!") then
    fail .unsupportedLookAround ⟨openSpan.start, ← here⟩
  let innerSpan ← spanHere
  if (← bumpIf "?P<") || (← bumpIf "?<") then
    let index ← nextGroup
    captureName
    return .group (some index) (← flags)
  else if ← bumpIf "?" then
    if ← atEnd then fail .groupUnclosed openSpan
    let (f, any) ← flagItems (← fuel) (← flags) [] none
    let closing := (← current?).getD ')'
    let _ ← bump
    if closing == ')' then
      if !any then fail .repetitionMissing innerSpan
      return .setFlags f
    else return .group none f
  else
    return .group (some (← nextGroup)) (← flags)

/-! ## Sequences -/

/-- An item of a sequence with its span: a tree and its nesting, or a change of flags (which
nothing may repeat). -/
inductive Piece where
  | node (n : Node) (span : Span) (nesting : Nesting)
  | flags (span : Span)

def Piece.node? : Piece → Option Node
  | .node n _ _ => some n
  | .flags _ => none

def Piece.nesting : Piece → Nesting
  | .node _ _ t => t
  | .flags _ => .flat

/-- The tree of a sequence of pieces. -/
def sequenceNode (pieces : List Piece) : Node :=
  match pieces.filterMap Piece.node? with
  | [] => .empty
  | [n] => n
  | ns => .concat ns

/-- A finished sequence: its tree, span and nesting. -/
structure Sequence where
  node : Node
  span : Span
  nesting : Nesting

def Sequence.ofPieces (pieces : List Piece) (span : Span) : Sequence :=
  ⟨sequenceNode pieces, span, Nesting.around span (pieces.map Piece.nesting)⟩

/-- The tree and nesting of the alternatives of a group or of the whole pattern. -/
def alternation (alternatives : List Sequence) : Node × Nesting :=
  match alternatives with
  | [s] => (s.node, s.nesting)
  | s :: more =>
    let span : Span := ⟨s.span.start, ((more.getLast?).getD s).span.stop⟩
    (.alternate (alternatives.map Sequence.node), .level span (alternatives.map Sequence.nesting))
  | [] => (.empty, .flat)

/-- The last piece of a sequence, which a repetition applies to. -/
def lastOperand (pieces : List Piece) : Parse (Node × Span × Nesting) := do
  match pieces.getLast? with
  | some (.node n s t) => pure (n, s, t)
  | _ => fail .repetitionMissing (← spanHere)

/-- Repeats the last piece of a sequence, from its start to the current place. -/
def repeatLast (pieces : List Piece) (operand : Node × Span × Nesting) (lo : Nat)
    (hi : Option Nat) (greedy : Bool) : Parse (List Piece) := do
  let (n, s, t) := operand
  let greedy := if (← flags).swapGreed then !greedy else greedy
  let span : Span := ⟨s.start, ← here⟩
  return pieces.dropLast ++ [.node (.repetition n lo hi greedy) span (.level span [t])]

/-- `?`, `*` or `+`, with a `?` after it making it lazy. -/
def uncountedRepetition (pieces : List Piece) (lo : Nat) (hi : Option Nat) : Parse (List Piece) := do
  let operand ← lastOperand pieces
  let mut greedy := true
  if (← bump) && (← current?) == some '?' then
    greedy := false
    let _ ← bump
  repeatLast pieces operand lo hi greedy

/-- `{n}`, `{n,}` or `{n,m}`, with a `?` after it making it lazy. A fault of a number is
reported only once the braces are known to close. -/
def countedRepetition (pieces : List Piece) : Parse (List Piece) := do
  let start ← here
  let operand ← lastOperand pieces
  if !(← bumpAndBumpSpace) then fail .repetitionCountUnclosed ⟨start, ← here⟩
  let first ← readCount
  if ← atEnd then fail .repetitionCountUnclosed ⟨start, ← here⟩
  let mut bounds : Nat × Option Nat := (0, none)
  if (← current?) == some ',' then
    if !(← bumpAndBumpSpace) then fail .repetitionCountUnclosed ⟨start, ← here⟩
    if (← current?) != some '}' then
      let lo ← ofCount first
      bounds := (lo, some (← ofCount (← readCount)))
    else bounds := (← ofCount first, none)
  else
    let lo ← ofCount first
    bounds := (lo, some lo)
  if (← atEnd) || (← current?) != some '}' then fail .repetitionCountUnclosed ⟨start, ← here⟩
  let mut greedy := true
  if (← bumpAndBumpSpace) && (← current?) == some '?' then
    greedy := false
    let _ ← bump
  let opSpan : Span := ⟨start, ← here⟩
  if let some h := bounds.2 then
    if h < bounds.1 then fail .repetitionCountInvalid opSpan
  repeatLast pieces operand bounds.1 bounds.2 greedy

/-- The tree of `^` or `$` under the current flags. -/
def lineLook (atStart : Bool) : Parse Look := do
  let f ← flags
  if !f.multiLine then return if atStart then .startText else .endText
  if f.crlf then return if atStart then .startLineCrlf else .endLineCrlf
  return if atStart then .startLine else .endLine

/-- The class of `.` under the current flags. -/
def dotClass (span : Span) : Parse CharClass := do
  let f ← flags
  if !f.unicode then note .invalidUtf8 span
  if f.dotAll then return CharClass.any
  if f.crlf then return (CharClass.ofChars ['\n', '\r']).negate
  return (CharClass.single '\n').negate

/-- One item that is not an operator: a character, an escape, `.`, `^` or `$`. -/
def primitivePiece : Parse Piece := do
  let start ← here
  let node ← match ← current? with
    | some '\\' =>
      match ← parseEscape with
      | .literal c s b => pure (Node.set (← literalClass c s b))
      | .cls c _ => pure (.set c)
      | .look l _ => pure (.look l)
      | .dot s => pure (.set (← dotClass s))
    | some '.' =>
      let span ← spanChar
      let _ ← bump
      pure (.set (← dotClass span))
    | some '^' =>
      let _ ← bump
      pure (.look (← lineLook true))
    | some '$' =>
      let _ ← bump
      pure (.look (← lineLook false))
    | some c =>
      let span ← spanChar
      let _ ← bump
      pure (.set (← literalClass c span false))
    | none => pure .empty
  return .node node ⟨start, ← here⟩ .flat

/-- The items of a group (or of the whole pattern, when `opened` is none) up to its `)`;
`done` holds the finished alternatives, `pieces` the current one and `begun` where it began. -/
def parseSequence : Nat → Option Span → List Sequence → Place → List Piece → Parse (Node × Nesting)
  | 0, _, _, _, _ => do fail (.nestLimitExceeded nestLimit) (← spanHere)
  | n + 1, opened, done, begun, pieces => do
    bumpSpace
    if ← atEnd then
      match opened with
      | some s => fail .groupUnclosed s
      | none => return alternation (done ++ [Sequence.ofPieces pieces ⟨begun, ← here⟩])
    match (← current?).getD ' ' with
    | '(' =>
      let openSpan ← spanChar
      match ← parseOpening openSpan with
      | .setFlags f =>
        modify (fun r => { r with flags := f })
        parseSequence n opened done begun (pieces ++ [.flags ⟨openSpan.start, ← here⟩])
      | .group index f =>
        let outer ← flags
        modify (fun r => { r with flags := f })
        let (body, inner) ← parseSequence n (some openSpan) [] (← here) []
        modify (fun r => { r with flags := outer })
        let node := match index with
          | some k => Node.capture k body
          | none => body
        let span : Span := ⟨openSpan.start, ← here⟩
        parseSequence n opened done begun (pieces ++ [.node node span (.level span [inner])])
    | ')' =>
      match opened with
      | none => fail .groupUnopened (← spanChar)
      | some _ =>
        let stop ← here
        let _ ← bump
        return alternation (done ++ [Sequence.ofPieces pieces ⟨begun, stop⟩])
    | '|' =>
      let stop ← here
      let _ ← bump
      parseSequence n opened (done ++ [Sequence.ofPieces pieces ⟨begun, stop⟩]) (← here) []
    | '[' =>
      let (cls, span, t) ← parseBracket (← fuel)
      parseSequence n opened done begun (pieces ++ [.node (.set cls) span t])
    | '?' => parseSequence n opened done begun (← uncountedRepetition pieces 0 (some 1))
    | '*' => parseSequence n opened done begun (← uncountedRepetition pieces 0 none)
    | '+' => parseSequence n opened done begun (← uncountedRepetition pieces 1 none)
    | '{' => parseSequence n opened done begun (← countedRepetition pieces)
    | _ => parseSequence n opened done begun (pieces ++ [← primitivePiece])

/-- The tree of a pattern and the number of its groups, or the first fault: of form, then of
nesting, then of meaning. -/
def parseTree (pattern : String) : Except Fault (Node × Nat) :=
  let chars := pattern.toList.toArray
  let origin : Place := ⟨0, 1, 1⟩
  let start : Reader := ⟨chars, origin, Flags.initial, 0, [], none⟩
  match (parseSequence (chars.size + 2) none [] origin []).run start with
  | .error f => .error f
  | .ok ((node, nesting), r) =>
    match nesting.tooDeep nestLimit 0, r.pending with
    | some span, _ => .error ⟨.nestLimitExceeded nestLimit, span, none⟩
    | none, some f => .error f
    | none, none => .ok (node, r.groups)

end Regex
end Pattern
end TestTransform
