/-
Searching a text with a compiled pattern.

The search follows every path of the program at once, one character at a time. Threads are
kept in order of preference and a step already reached at a position is not entered again, so
each step of the program holds at most one thread per position. A new thread starts at each
position until some thread accepts; the match reported is the one of the most preferred
thread that accepts, which is the leftmost match, and among those the one the pattern prefers.

Positions are character indices; `Captures.span?` turns them into byte offsets of the text.
-/
import TestTransform.Pattern.Regex.Parse
import TestTransform.Pattern.Regex.Program
import TestTransform.Pattern.Regex.Footprint
import TestTransform.Text.Lines

namespace TestTransform
namespace Pattern

/-- A compiled pattern. -/
structure Regex where
  source : String
  program : Regex.Program
deriving Inhabited

namespace Regex

/-- For each slot, the position recorded there. -/
abbrev Slots := Array (Option Nat)

structure Threads where
  /-- the steps entered at this position -/
  entered : Array Bool
  /-- the threads waiting to consume or accept, most preferred first -/
  waiting : Array (Nat × Slots)

def Threads.empty (size : Nat) : Threads := ⟨Array.replicate size false, #[]⟩

/-- The characters on both sides of position `pos`. -/
def around (chars : Array Char) (pos : Nat) : Option Char × Option Char :=
  (if pos = 0 then none else chars[pos - 1]?, chars[pos]?)

/-- Adds the threads reachable from the pending ones without consuming a character. -/
def closure (prog : Program) (chars : Array Char) (pos : Nat) :
    Nat → List (Nat × Slots) → Threads → Threads
  | 0, _, t => t
  | _, [], t => t
  | fuel + 1, (pc, slots) :: pending, t =>
    if t.entered.getD pc true then closure prog chars pos fuel pending t
    else
      let t := { t with entered := t.entered.set! pc true }
      match prog.steps[pc]? with
      | some (.consume _ _) | some .accept =>
        closure prog chars pos fuel pending { t with waiting := t.waiting.push (pc, slots) }
      | some (.goto n) => closure prog chars pos fuel ((n, slots) :: pending) t
      | some (.split a b) => closure prog chars pos fuel ((a, slots) :: (b, slots) :: pending) t
      | some (.save k n) => closure prog chars pos fuel ((n, slots.set! k (some pos)) :: pending) t
      | some (.look l n) =>
        let (before, after) := around chars pos
        if l.holds before after then closure prog chars pos fuel ((n, slots) :: pending) t
        else closure prog chars pos fuel pending t
      | none => closure prog chars pos fuel pending t

def closureFuel (prog : Program) : Nat := 3 * prog.steps.size + 3

/-- Moves the threads over the character at `pos`, most preferred first; the first thread
that accepts ends the step and drops the threads after it. -/
def advance (prog : Program) (chars : Array Char) (pos : Nat) :
    List (Nat × Slots) → Threads → Threads × Option Slots
  | [], next => (next, none)
  | (pc, slots) :: rest, next =>
    match prog.steps[pc]? with
    | some .accept => (next, some slots)
    | some (.consume cls n) =>
      match chars[pos]? with
      | some c =>
        if cls.contains c then
          advance prog chars pos rest (closure prog chars (pos + 1) (closureFuel prog) [(n, slots)] next)
        else advance prog chars pos rest next
      | none => advance prog chars pos rest next
    | _ => advance prog chars pos rest next

/-- The slots of the preferred leftmost match starting at `origin` or later. -/
def searchFrom (prog : Program) (chars : Array Char) (origin : Nat) : Option Slots :=
  let initial : Slots := Array.replicate (2 * (prog.groups + 1)) none
  let rec loop : Nat → Nat → Threads → Option Slots → Option Slots
    | 0, _, _, found => found
    | k + 1, pos, curr, found =>
      if curr.waiting.isEmpty && found.isSome then found
      else
        let curr := if found.isNone then
            closure prog chars pos (closureFuel prog) [(prog.start, initial)] curr
          else curr
        let (next, matched) :=
          advance prog chars pos curr.waiting.toList (Threads.empty prog.steps.size)
        let found := matched.orElse (fun _ => found)
        if chars.size ≤ pos then found else loop k (pos + 1) next found
  loop (chars.size + 1 - origin) origin (Threads.empty prog.steps.size) none

/-- A match with its groups, over the characters of the text searched. -/
structure Captures where
  chars : Array Char
  slots : Slots

namespace Captures

/-- The character positions of group `k`, when it took part in the match. -/
def range? (c : Captures) (k : Nat) : Option (Nat × Nat) :=
  match c.slots[2 * k]?, c.slots[2 * k + 1]? with
  | some (some s), some (some e) => some (s, e)
  | _, _ => none

def byteOffset (chars : Array Char) (i : Nat) : Nat :=
  (chars.toList.take i).foldl (fun n ch => n + ch.utf8Size) 0

/-- The byte offsets of group `k` in the text. -/
def span? (c : Captures) (k : Nat) : Option (Nat × Nat) :=
  (c.range? k).map (fun (s, e) => (byteOffset c.chars s, byteOffset c.chars e))

/-- The text of group `k`, when it took part in the match. -/
def text? (c : Captures) (k : Nat) : Option String :=
  (c.range? k).map (fun (s, e) => String.ofList ((c.chars.toList.drop s).take (e - s)))

def text (c : Captures) (k : Nat) : String := (c.text? k).getD ""

def start (c : Captures) : Nat := ((c.range? 0).map Prod.fst).getD 0

def stop (c : Captures) : Nat := ((c.range? 0).map Prod.snd).getD 0

end Captures

/-- A reference in a replacement after `$`: a number, or a name of letters, digits and `_`,
optionally in braces; gives the reference and what follows it. -/
def groupRef (cs : List Char) : Option (String × List Char) :=
  match cs with
  | '{' :: more =>
    match more.findIdx? (· == '}') with
    | some i => if i == 0 then none else some (String.ofList (more.take i), more.drop (i + 1))
    | none => none
  | _ =>
    let name := cs.takeWhile (fun c => c.isAlphanum || c == '_')
    if name.isEmpty then none else some (String.ofList name, cs.drop name.length)

/-- The replacement for a match: `$n` and `$\x7bn\x7d` stand for group `n`, `$$` for a dollar
sign, and a `$` before anything else stands for itself. -/
def expandChars (c : Captures) : Nat → List Char → String
  | 0, _ => ""
  | _, [] => ""
  | fuel + 1, '$' :: '$' :: rest => "$" ++ expandChars c fuel rest
  | fuel + 1, '$' :: rest =>
    match groupRef rest with
    | some (name, after) =>
      let value := match Text.digitsValue? name with
        | some k => c.text k
        | none => ""
      value ++ expandChars c fuel after
    | none => "$" ++ expandChars c fuel rest
  | fuel + 1, ch :: rest => String.singleton ch ++ expandChars c fuel rest

def Captures.expand (c : Captures) (template : String) : String :=
  expandChars c (template.length + 1) template.toList

end Regex

namespace Regex

/-- The pattern compiled, or the report of its first fault. -/
def compile (pattern : String) : Except String Regex :=
  match parseTree pattern with
  | .ok (node, groups) =>
    if node.toExpr.fitsLimit then .ok ⟨pattern, Program.ofNode node groups⟩
    else .error s!"Compiled regex exceeds size limit of {sizeLimit} bytes."
  | .error f => .error (f.render pattern)

end Regex

/-- A fixed pattern of this library. It is read without the size check that `compile` makes,
as every fixed pattern is far below the limit; one that failed to read would match nothing. -/
def Regex.fixed (pattern : String) : Regex :=
  match parseTree pattern with
  | .ok (node, groups) => ⟨pattern, Program.ofNode node groups⟩
  | .error _ => ⟨pattern, ⟨#[], 0, 0⟩⟩

namespace Regex

def captures? (r : Regex) (s : String) : Option Captures :=
  let chars := s.toList.toArray
  (searchFrom r.program chars 0).map (fun slots => ⟨chars, slots⟩)

def isMatch (r : Regex) (s : String) : Bool := (r.captures? s).isSome

/-- The successive matches: each search starts where the last match ended, and an empty match
right at the end of the last one is passed over by starting one character later. -/
def capturesFrom (r : Regex) (chars : Array Char) : Nat → Nat → Option Nat → List Captures
  | 0, _, _ => []
  | fuel + 1, origin, lastEnd =>
    let found := (searchFrom r.program chars origin).map (fun slots => Captures.mk chars slots)
    let found := match found with
      | some m =>
        if m.start == m.stop && lastEnd == some m.stop then
          if chars.size ≤ origin then none
          else (searchFrom r.program chars (origin + 1)).map (fun slots => Captures.mk chars slots)
        else some m
      | none => none
    match found with
    | some m => m :: capturesFrom r chars fuel m.stop (some m.stop)
    | none => []

def capturesAll (r : Regex) (s : String) : List Captures :=
  let chars := s.toList.toArray
  capturesFrom r chars (2 * chars.size + 2) 0 none

/-- The text with the given matches replaced by the expansions of `template`. -/
def replaceMatches (chars : Array Char) (ms : List Captures) (template : String) : String :=
  let (out, last) := ms.foldl (fun (acc : String × Nat) m =>
    (acc.1 ++ String.ofList ((chars.toList.drop acc.2).take (m.start - acc.2)) ++ m.expand template,
      m.stop)) ("", 0)
  out ++ String.ofList (chars.toList.drop last)

/-- Every match replaced. -/
def replaceAll (r : Regex) (s : String) (template : String) : String :=
  replaceMatches s.toList.toArray (r.capturesAll s) template

/-- The first match replaced. -/
def replaceFirst (r : Regex) (s : String) (template : String) : String :=
  replaceMatches s.toList.toArray ((r.capturesAll s).take 1) template

end Regex

end Pattern
end TestTransform
