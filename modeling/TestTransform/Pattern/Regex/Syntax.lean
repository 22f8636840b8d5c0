/-
The meaning of a regular expression as a tree: character classes, assertions about the
neighbours of a position, numbered groups, sequences, alternatives in order of preference and
repetitions with bounds and greed. Literals are one-character classes; flags have been applied.
-/
import TestTransform.Pattern.CharClass

namespace TestTransform
namespace Pattern
namespace Regex

/-- Assertions about a position, decided by the characters before and after it. -/
inductive Look where
  | startText
  | endText
  /-- at the start or after a line feed -/
  | startLine
  /-- at the end or before a line feed -/
  | endLine
  /-- as `startLine`, with a carriage return that no line feed follows also ending a line -/
  | startLineCrlf
  | endLineCrlf
  /-- word characters on exactly one side; `unicode` picks the Unicode or the ASCII words -/
  | wordBoundary (unicode : Bool)
  | notWordBoundary (unicode : Bool)
  | wordStart (unicode : Bool)
  | wordEnd (unicode : Bool)
  | wordStartHalf (unicode : Bool)
  | wordEndHalf (unicode : Bool)
deriving DecidableEq, Repr

inductive Node where
  | empty
  | set (cls : CharClass)
  | look (l : Look)
  | capture (index : Nat) (body : Node)
  | concat (items : List Node)
  | alternate (items : List Node)
  | repetition (body : Node) (min : Nat) (max : Option Nat) (greedy : Bool)
deriving Repr, Inhabited

/-- Whether `c` is a word character, in Unicode's sense or ASCII's. -/
def isWord (unicode : Bool) (c : Char) : Bool :=
  if unicode then Unicode.isWordChar c else c.isAlphanum || c == '_'

/-- Whether a look holds between the character before a position and the one after it. -/
def Look.holds (l : Look) (before after : Option Char) : Bool :=
  let wordBefore := fun u => (before.map (isWord u)).getD false
  let wordAfter := fun u => (after.map (isWord u)).getD false
  match l with
  | .startText => before.isNone
  | .endText => after.isNone
  | .startLine => before.isNone || before == some '\n'
  | .endLine => after.isNone || after == some '\n'
  | .startLineCrlf => before.isNone || before == some '\n' || (before == some '\r' && after != some '\n')
  | .endLineCrlf => after.isNone || after == some '\r' || (after == some '\n' && before != some '\r')
  | .wordBoundary u => wordBefore u != wordAfter u
  | .notWordBoundary u => wordBefore u == wordAfter u
  | .wordStart u => !wordBefore u && wordAfter u
  | .wordEnd u => wordBefore u && !wordAfter u
  | .wordStartHalf u => !wordBefore u
  | .wordEndHalf u => !wordAfter u

end Regex
end Pattern
end TestTransform
