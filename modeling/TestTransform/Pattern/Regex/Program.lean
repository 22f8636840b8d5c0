/-
A tree compiled to a program of steps for a simulation that follows all paths at once.

Each step names the steps that follow it. A `split` prefers its first branch, so the order of
the threads of the simulation is the order of preference of the matches, and the first thread
to accept gives the leftmost match that the tree prefers. Slots `2k` and `2k+1` record where
group `k` starts and ends; group 0 is the whole match.
-/
import TestTransform.Pattern.Regex.Syntax

namespace TestTransform
namespace Pattern
namespace Regex

inductive Step where
  /-- consume one character of the class -/
  | consume (cls : CharClass) (next : Nat)
  | split (first second : Nat)
  | goto (next : Nat)
  | save (slot : Nat) (next : Nat)
  | look (l : Look) (next : Nat)
  | accept
deriving Repr, Inhabited

structure Program where
  steps : Array Step
  start : Nat
  /-- groups, not counting the whole match -/
  groups : Nat
deriving Repr, Inhabited

/-- Appends a step and gives its index. -/
def emit (steps : Array Step) (s : Step) : Nat × Array Step := (steps.size, steps.push s)

/-- `count` nested optional copies of a body, each compiled by `body` in front of a step. -/
def compileOptionals (body : Nat → Array Step → Nat × Array Step) (count : Nat) (greedy : Bool)
    (next : Nat) (steps : Array Step) : Nat × Array Step :=
  match count with
  | 0 => (next, steps)
  | c + 1 =>
    let (innerAt, steps) := compileOptionals body c greedy next steps
    let (bodyAt, steps) := body innerAt steps
    emit steps (if greedy then .split bodyAt next else .split next bodyAt)

/-- `count` copies of a body in a row. -/
def compileCopies (body : Nat → Array Step → Nat × Array Step) (count : Nat) (next : Nat)
    (steps : Array Step) : Nat × Array Step :=
  match count with
  | 0 => (next, steps)
  | c + 1 =>
    let (restAt, steps) := compileCopies body c next steps
    body restAt steps

/-- `lo` copies of a body and then up to `hi - lo` optional ones, or a loop when `hi` is none. -/
def compileRepeat (body : Nat → Array Step → Nat × Array Step) (lo : Nat) (hi : Option Nat)
    (greedy : Bool) (next : Nat) (steps : Array Step) : Nat × Array Step :=
  let (tailAt, steps) := match hi with
    | none =>
      let loopAt := steps.size
      let steps := steps.push (.goto next)
      let (bodyAt, steps) := body loopAt steps
      let choice := if greedy then Step.split bodyAt next else Step.split next bodyAt
      (loopAt, steps.set! loopAt choice)
    | some h => compileOptionals body (h - lo) greedy next steps
  compileCopies body lo tailAt steps

mutual
/-- Compiles `node` in front of the step `next`: gives the first step of the code and the
steps with that code added. -/
def compileNode (node : Node) (next : Nat) (steps : Array Step) : Nat × Array Step :=
  match node with
  | .empty => (next, steps)
  | .set cls => emit steps (.consume cls next)
  | .look l => emit steps (.look l next)
  | .capture k body =>
    let (closeAt, steps) := emit steps (.save (2 * k + 1) next)
    let (bodyAt, steps) := compileNode body closeAt steps
    emit steps (.save (2 * k) bodyAt)
  | .concat items => compileSeq items next steps
  | .alternate items => compileAlternatives items next steps
  | .repetition body lo hi greedy => compileRepeat (compileNode body) lo hi greedy next steps

/-- A sequence, compiled from its end. -/
def compileSeq (items : List Node) (next : Nat) (steps : Array Step) : Nat × Array Step :=
  match items with
  | [] => (next, steps)
  | n :: rest =>
    let (restAt, steps) := compileSeq rest next steps
    compileNode n restAt steps

/-- Alternatives, each preferred to the ones after it. -/
def compileAlternatives (items : List Node) (next : Nat) (steps : Array Step) : Nat × Array Step :=
  match items with
  | [] => (next, steps)
  | [n] => compileNode n next steps
  | n :: rest =>
    let (restAt, steps) := compileAlternatives rest next steps
    let (nAt, steps) := compileNode n next steps
    emit steps (.split nAt restAt)
end

/-- The program of a tree with `groups` groups: the tree inside group 0, then acceptance. -/
def Program.ofNode (node : Node) (groups : Nat) : Program :=
  let (acceptAt, steps) := emit #[] .accept
  let (startAt, steps) := compileNode (.capture 0 node) acceptAt steps
  ⟨steps, startAt, groups⟩

end Regex
end Pattern
end TestTransform
