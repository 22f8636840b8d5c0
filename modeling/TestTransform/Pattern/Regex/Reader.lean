/-
The state of a reader of patterns, and its moves.

The reader holds the pattern's characters, the place of the current one, the flags in force,
the groups numbered and the names taken so far, and the first fault of meaning met. A move
past a character can skip, in verbose mode, the blanks and `#` comments after it.
-/
import TestTransform.Pattern.Regex.Fault
import TestTransform.Text.Blank

namespace TestTransform
namespace Pattern
namespace Regex

structure Flags where
  caseless : Bool
  multiLine : Bool
  dotAll : Bool
  swapGreed : Bool
  unicode : Bool
  crlf : Bool
  /-- blanks and `#` comments between items are skipped -/
  verbose : Bool
deriving DecidableEq, Repr, Inhabited

def Flags.initial : Flags := ⟨false, false, false, false, true, false, false⟩

/-- Sets one flag, named by its letter, to `on`. -/
def Flags.set (f : Flags) (letter : Char) (on : Bool) : Flags :=
  match letter with
  | 'i' => { f with caseless := on }
  | 'm' => { f with multiLine := on }
  | 's' => { f with dotAll := on }
  | 'U' => { f with swapGreed := on }
  | 'u' => { f with unicode := on }
  | 'R' => { f with crlf := on }
  | 'x' => { f with verbose := on }
  | _ => f

def isFlagLetter (c : Char) : Bool := "imsUuRx".toList.contains c

structure Reader where
  chars : Array Char
  place : Place
  flags : Flags
  /-- groups numbered so far -/
  groups : Nat
  names : List (String × Span)
  /-- the first fault of meaning met so far -/
  pending : Option Fault

namespace Reader

def current? (r : Reader) : Option Char := r.chars[r.place.index]?

def isEof (r : Reader) : Bool := r.chars.size ≤ r.place.index

/-- The place just after the current character. -/
def nextPlace (r : Reader) : Place :=
  match r.current? with
  | some '\n' => ⟨r.place.index + 1, r.place.line + 1, 1⟩
  | some _ => ⟨r.place.index + 1, r.place.line, r.place.column + 1⟩
  | none => r.place

end Reader

abbrev Parse := StateT Reader (Except Fault)

def fail {α : Type} (kind : FaultKind) (span : Span) : Parse α := throw ⟨kind, span, none⟩

def here : Parse Place := return (← get).place

def current? : Parse (Option Char) := return (← get).current?

def atEnd : Parse Bool := return (← get).isEof

def flags : Parse Flags := return (← get).flags

/-- Moves past the current character; says whether a character follows. -/
def bump : Parse Bool := do
  modify (fun r => { r with place := r.nextPlace })
  return !(← atEnd)

def spanChar : Parse Span := do
  let r ← get
  return ⟨r.place, r.nextPlace⟩

def spanHere : Parse Span := do
  let p ← here
  return ⟨p, p⟩

/-- Notes a fault of meaning unless one was noted before. -/
def note (kind : FaultKind) (span : Span) : Parse Unit :=
  modify (fun r => { r with pending := r.pending.orElse (fun _ => some ⟨kind, span, none⟩) })

/-- The characters from the current one on. -/
def rest : Parse (List Char) := do
  let r ← get
  return (r.chars.toList.drop r.place.index)

def fuel : Parse Nat := return (← get).chars.size + 1

def startsWithChars : List Char → List Char → Bool
  | [], _ => true
  | _ :: _, [] => false
  | p :: ps, c :: cs => p == c && startsWithChars ps cs

/-- Moves past `pre` when the pattern goes on with it. -/
def bumpIf (pre : String) : Parse Bool := do
  if startsWithChars pre.toList (← rest) then
    for _ in pre.toList do
      let _ ← bump
    return true
  else return false

def skipLine : Nat → Parse Unit
  | 0 => pure ()
  | n + 1 => do
    match ← current? with
    | none => pure ()
    | some c =>
      let _ ← bump
      if c == '\n' then pure () else skipLine n

/-- In verbose mode, moves past blanks and comments. -/
def skipSpaceFor : Nat → Parse Unit
  | 0 => pure ()
  | n + 1 => do
    if !(← flags).verbose then return
    match ← current? with
    | some c =>
      if Text.isBlank c then
        let _ ← bump
        skipSpaceFor n
      else if c == '#' then
        let _ ← bump
        skipLine (← fuel)
        skipSpaceFor n
      else pure ()
    | none => pure ()

def bumpSpace : Parse Unit := do skipSpaceFor (← fuel)

def bumpAndBumpSpace : Parse Bool := do
  let _ ← bump
  bumpSpace
  return !(← atEnd)

/-- The first character after `cs` that is no blank and, once a `#` opened a comment, that
is no blank either; the comment itself is not skipped past its first character. -/
def firstSolid (inComment : Bool) : List Char → Option Char
  | [] => none
  | c :: cs =>
    if Text.isBlank c then firstSolid inComment cs
    else if !inComment && c == '#' then firstSolid true cs
    else some c

/-- The character after the current one, past blanks and comments in verbose mode. -/
def peekSpace : Parse (Option Char) := do
  let r ← get
  let after := r.chars.toList.drop (r.place.index + 1)
  if !r.flags.verbose then return after.head?
  if r.isEof then return none
  return (firstSolid false after).orElse (fun _ => after.head?)

def peek : Parse (Option Char) := do
  let r ← get
  return r.chars[r.place.index + 1]?

/-! ## Numbers -/

def skipBlanks : Nat → Parse Unit
  | 0 => pure ()
  | n + 1 => do
    match ← current? with
    | some c => if Text.isBlank c then do let _ ← bump; skipBlanks n else pure ()
    | none => pure ()

def skipBlanksSpaced : Nat → Parse Unit
  | 0 => pure ()
  | n + 1 => do
    match ← current? with
    | some c => if Text.isBlank c then do let _ ← bumpAndBumpSpace; skipBlanksSpaced n else pure ()
    | none => pure ()

def readDigits : Nat → Nat → Nat → Parse (Nat × Nat)
  | 0, v, k => pure (v, k)
  | n + 1, v, k => do
    match ← current? with
    | some c =>
      if c.isDigit then
        let _ ← bumpAndBumpSpace
        readDigits n (v * 10 + (c.toNat - '0'.toNat)) (k + 1)
      else pure (v, k)
    | none => pure (v, k)

/-- A decimal number below 2^32 with blanks around it, as in a counted repetition. The reader
moves past the number whether or not it is one, and its fault is given rather than raised, so
that a missing closing brace can be reported first. -/
def readCount : Parse (Except Fault Nat) := do
  skipBlanks (← fuel)
  let start ← here
  let (value, count) ← readDigits (← fuel) 0 0
  let span : Span := ⟨start, ← here⟩
  skipBlanksSpaced (← fuel)
  if count == 0 then return .error ⟨.repetitionCountDecimalEmpty, span, none⟩
  if value ≥ Nat.pow 2 32 then return .error ⟨.decimalInvalid, span, none⟩
  return .ok value

/-- Raises the fault of a number read earlier. -/
def ofCount (count : Except Fault Nat) : Parse Nat :=
  match count with
  | .ok n => pure n
  | .error f => throw f

end Regex
end Pattern
end TestTransform
