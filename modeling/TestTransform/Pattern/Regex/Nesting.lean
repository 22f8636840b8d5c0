/-
How deep the parts of a pattern nest.

A group, a repetition, a sequence or a choice of two parts or more, a bracketed class, a union
of two items or more inside brackets, and an operation between classes each open a level
around their parts; characters, escapes, flags and named classes open none. A pattern whose
levels go deeper than the limit is refused, at the first part too deep in a walk that visits
each part before its parts, and parts from left to right.
-/
import TestTransform.Pattern.Regex.Fault

namespace TestTransform
namespace Pattern
namespace Regex

inductive Nesting where
  | flat
  | level (span : Span) (parts : List Nesting)
deriving Repr, Inhabited

/-- The deepest level a pattern may reach. -/
def nestLimit : Nat := 250

mutual
/-- The span of the first part that lies deeper than `limit`, when `t` lies `depth` levels down. -/
def Nesting.tooDeep (limit depth : Nat) : Nesting → Option Span
  | .flat => none
  | .level span parts =>
    if limit < depth + 1 then some span else Nesting.tooDeepAmong limit (depth + 1) parts

/-- The first part too deep among parts that lie `depth` levels down. -/
def Nesting.tooDeepAmong (limit depth : Nat) : List Nesting → Option Span
  | [] => none
  | t :: ts =>
    match Nesting.tooDeep limit depth t with
    | some s => some s
    | none => Nesting.tooDeepAmong limit depth ts
end

/-- The nesting of a sequence or a choice: its only part, or a level around two or more. -/
def Nesting.around (span : Span) (parts : List Nesting) : Nesting :=
  match parts with
  | [] => .flat
  | [t] => t
  | ts => .level span ts

theorem tooDeep_flat (limit depth : Nat) : Nesting.flat.tooDeep limit depth = none := by
  simp [Nesting.tooDeep]

end Regex
end Pattern
end TestTransform
