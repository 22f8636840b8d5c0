/-
The memory an expression's automaton takes while it is built, and the limit on it.

A pattern is compiled twice: forwards, with two states for every group, and backwards for
finding where matches start, without groups. Each is refused once its memory passes the
limit. A state takes 32 bytes, a transition of a state with several 8 more, and each branch
of a union 4 more. A state is added for every byte of a literal, for the ends of every group,
copy of a repetition and choice, and for the ends of every class; a class beyond ASCII is built
from its UTF-8 sequences. Forwards, equal states of one class are shared through a table of
10000 slots; backwards, the byte ranges that end equal suffixes are shared through a table of
1000 slots. Either table keeps only the last state of each slot, the slot being a hash of the
state's transitions and their targets, so the count depends on the numbering of the states. A
choice between two literals or more is built as a trie of their bytes. Unless every match
begins at the start of the text (backwards: ends at its end), a loop over any byte comes first.
-/
import TestTransform.Pattern.Regex.Expr

namespace TestTransform
namespace Pattern
namespace Regex

/-- The memory, in bytes, that a compiled pattern may take. -/
def sizeLimit : Nat := 10 * Nat.pow 2 20

/-- A transition on the bytes from `lo` to `hi` to the state `next`. -/
structure Transition where
  lo : Nat
  hi : Nat
  next : Nat
deriving BEq, Repr, Inhabited

/-- A built part: the state it starts at, and the state it ends at, which is later joined to
what follows it. -/
structure Part where
  start : Nat
  stop : Nat

/-- A node of the UTF-8 sequences of a class not yet turned into a state: its transitions, and
the range of its last transition, whose target is not known yet. -/
structure Utf8Node where
  trans : Array Transition
  last : Option (Nat × Nat)
deriving Inhabited

structure Builder where
  /-- one entry per state, true for a union -/
  unions : Array Bool
  /-- the bytes the states take beyond their fixed size -/
  extra : Nat
  limit : Nat
  /-- shared UTF-8 states: a slot holds the generation, the transitions and the state -/
  nodeCache : Array (Nat × Array Transition × Nat)
  /-- shared reverse suffixes: a slot holds the generation, the target and byte range, and
  the state -/
  suffixCache : Array (Nat × (Nat × Nat × Nat) × Nat)
  /-- entries of older generations count as absent -/
  generation : Nat
  /-- the UTF-8 nodes not yet turned into states -/
  pending : Array Utf8Node

namespace Builder

def fresh (limit : Nat) : Builder :=
  ⟨#[], 0, limit, Array.replicate 10000 (0, #[], 0), Array.replicate 1000 (0, (0, 0, 0), 0), 0, #[]⟩

def memory (b : Builder) : Nat := 32 * b.unions.size + b.extra

theorem memory_fresh (limit : Nat) : (fresh limit).memory = 0 := rfl

end Builder

/-- Building an automaton; it fails when the memory passes the limit. -/
abbrev Build := StateT Builder (Except Unit)

/-- Adds a state taking `extra` bytes beyond the fixed size; gives its number. -/
def addState (union : Bool) (extra : Nat) : Build Nat := do
  let (id, exceeded) ← modifyGet (fun b =>
    let b := { b with unions := b.unions.push union, extra := b.extra + extra }
    ((b.unions.size - 1, decide (b.limit < b.memory)), b))
  if exceeded then throw ()
  return id

/-- Joins the state `source` to a next state: a union gains a branch. -/
def patch (source : Nat) : Build Unit := do
  let exceeded ← modifyGet (fun b =>
    if b.unions.getD source false then
      let b := { b with extra := b.extra + 4 }
      (decide (b.limit < b.memory), b)
    else (false, b))
  if exceeded then throw ()

/-- A part of one state. -/
def single : Build Part := do
  let id ← addState false 0
  return ⟨id, id⟩

/-- Forgets the shared states of earlier classes. -/
def newGeneration : Build Unit := modify (fun b => { b with generation := b.generation + 1 })

/-! ## Hashing -/

def fnvPrime : UInt64 := 1099511628211

def fnvStart : UInt64 := 14695981039346656037

def mixIn (h : UInt64) (x : Nat) : UInt64 := (h ^^^ x.toUInt64) * fnvPrime

def nodeSlot (ts : Array Transition) : Nat :=
  (ts.foldl (fun h t => mixIn (mixIn (mixIn h t.lo) t.hi) t.next) fnvStart).toNat % 10000

def suffixSlot (key : Nat × Nat × Nat) : Nat :=
  (mixIn (mixIn (mixIn fnvStart key.1) key.2.1) key.2.2).toNat % 1000

theorem nodeSlot_lt (ts : Array Transition) : nodeSlot ts < 10000 := Nat.mod_lt _ (by decide)

theorem suffixSlot_lt (key : Nat × Nat × Nat) : suffixSlot key < 1000 := Nat.mod_lt _ (by decide)

/-! ## Classes -/

/-- A class within ASCII (or of bytes): an end state, then one state with a transition per
range. -/
def asciiClass (ranges : List (Nat × Nat)) : Build Part := do
  let stop ← addState false 0
  let start ← addState false (8 * ranges.length)
  return ⟨start, stop⟩

/-- The state of some transitions, shared with an equal one of this class when its slot
still holds it. -/
def nodeState (ts : Array Transition) : Build Nat := do
  let slot := nodeSlot ts
  let hit ← modifyGet (fun b =>
    match b.nodeCache[slot]? with
    | some (g, key, id) => (if g == b.generation && key == ts then some id else none, b)
    | none => (none, b))
  match hit with
  | some id => return id
  | none =>
    let id ← addState false (8 * ts.size)
    modify (fun b => { b with nodeCache := b.nodeCache.set! slot (b.generation, ts, id) })
    return id

/-- Takes the last pending node, its last transition going to `next`. -/
def popNode (next : Nat) : Build (Array Transition) :=
  modifyGet (fun b =>
    let node := b.pending.back?.getD default
    let trans := match node.last with
      | some (lo, hi) => node.trans.push ⟨lo, hi, next⟩
      | none => node.trans
    (trans, { b with pending := b.pending.pop }))

/-- The last pending node's last transition goes to `next`. -/
def closeLast (next : Nat) : Build Unit :=
  modify (fun b =>
    match b.pending.back? with
    | some node =>
      let node := match node.last with
        | some (lo, hi) => { trans := node.trans.push ⟨lo, hi, next⟩, last := none }
        | none => node
      { b with pending := b.pending.pop.push node }
    | none => b)

/-- Turns the pending nodes after the first `keep` into states, from the last one back. -/
def compilePending (target keep : Nat) : Build Unit := do
  let mut next := target
  for _ in [0:(← get).pending.size] do
    if keep + 1 < (← get).pending.size then
      let trans ← popNode next
      next ← nodeState trans
    else break
  closeLast next

/-- The length of the start of a sequence that the pending nodes already hold. -/
def sharedStart : List (Nat × Nat) → List Utf8Node → Nat
  | r :: rs, n :: ns => if n.last == some r then sharedStart rs ns + 1 else 0
  | _, _ => 0

/-- Adds a UTF-8 sequence to the pending nodes. -/
def addSequence (target : Nat) (seq : List (Nat × Nat)) : Build Unit := do
  let keep := sharedStart seq (← get).pending.toList
  compilePending target keep
  match seq.drop keep with
  | [] => pure ()
  | first :: more =>
    modify (fun b =>
      let pending := match b.pending.back? with
        | some node => b.pending.pop.push { node with last := some first }
        | none => b.pending
      { b with pending := more.foldl (fun p r => p.push ⟨#[], some r⟩) pending })

/-- A class beyond ASCII built forwards: its UTF-8 sequences, in order, with equal states
shared. -/
def forwardClass (ranges : List (Nat × Nat)) : Build Part := do
  let target ← addState false 0
  newGeneration
  modify (fun b => { b with pending := #[⟨#[], none⟩] })
  for (lo, hi) in ranges do
    for seq in utf8Sequences lo hi do
      addSequence target seq
  compilePending target 0
  let root ← popNode target
  let start ← nodeState root
  return ⟨start, target⟩

/-- The state of a byte range leading to `next`, shared with an equal one of this class when
its slot still holds it. -/
def suffixState (key : Nat × Nat × Nat) : Build Nat := do
  let slot := suffixSlot key
  let hit ← modifyGet (fun b =>
    match b.suffixCache[slot]? with
    | some (g, k, id) => (if g == b.generation && k == key then some id else none, b)
    | none => (none, b))
  match hit with
  | some id => return id
  | none =>
    let id ← addState false 0
    modify (fun b => { b with suffixCache := b.suffixCache.set! slot (b.generation, key, id) })
    return id

/-- A class beyond ASCII built backwards: a union of its UTF-8 sequences, each a chain of
byte ranges from its last byte, with equal suffixes shared. -/
def reverseClass (ranges : List (Nat × Nat)) : Build Part := do
  newGeneration
  let union ← addState true 0
  let altEnd ← addState false 0
  for (lo, hi) in ranges do
    for seq in utf8Sequences lo hi do
      let mut stop := altEnd
      for (blo, bhi) in seq do
        stop ← suffixState (stop, blo, bhi)
      patch union
  return ⟨union, altEnd⟩

def classPart (backwards : Bool) (ranges : List (Nat × Nat)) : Build Part :=
  if ranges.all (fun r => r.2 ≤ 0x7F) then asciiClass ranges
  else if backwards then reverseClass ranges
  else forwardClass ranges

/-! ## Choices of literals -/

/-- A node of a trie of literals: transitions on bytes, and the places where a literal ends
among them, which cut the transitions into chunks. -/
structure TrieNode where
  transitions : Array (Nat × Nat)
  chunks : Array (Nat × Nat)
deriving Inhabited

def TrieNode.activeStart (n : TrieNode) : Nat := (n.chunks.back?.map Prod.snd).getD 0

/-- The node reached from `source` on `byte`, added when there is none. -/
def trieStep (nodes : Array TrieNode) (source byte : Nat) : Array TrieNode × Nat :=
  let node := nodes.getD source default
  let active := (node.transitions.toList.drop node.activeStart)
  match active.find? (fun t => t.1 == byte) with
  | some t => (nodes, t.2)
  | none =>
    let place := node.activeStart + (active.filter (fun t => t.1 < byte)).length
    let next := nodes.size
    let node := { node with transitions := node.transitions.insertIdxIfInBounds place (byte, next) }
    ((nodes.push default).set! source node, next)

/-- Adds a literal to the trie: the node it ends at gains a chunk, unless it is a leaf that
already ends one. -/
def trieAdd (nodes : Array TrieNode) (bytes : List Nat) : Array TrieNode :=
  let (nodes, last) := bytes.foldl (fun (acc : Array TrieNode × Nat) b => trieStep acc.1 acc.2 b)
    (nodes, 0)
  let node := nodes.getD last default
  if node.transitions.isEmpty && !node.chunks.isEmpty then nodes
  else nodes.set! last { node with chunks := node.chunks.push (node.activeStart, node.transitions.size) }

/-- The chunks of a node's transitions: those cut off by ends of literals, then the rest. -/
def TrieNode.chunkList (n : TrieNode) : List (List (Nat × Nat)) :=
  let slice := fun (a b : Nat) => (n.transitions.toList.drop a).take (b - a)
  n.chunks.toList.map (fun c => slice c.1 c.2) ++ [slice n.activeStart n.transitions.size]

/-- Builds the trie from node `s`, depth first; gives the union state of the node. -/
def trieBuild (nodes : Array TrieNode) (stop : Nat) : Nat → Nat → Build Nat
  | 0, _ => throw ()
  | fuel + 1, s => do
    let mut union : Array Nat := #[]
    let mut first := true
    for chunk in (nodes.getD s default).chunkList do
      if !first then union := union.push stop
      first := false
      let mut sparse : Array Transition := #[]
      for (byte, next) in chunk do
        if (nodes.getD next default).transitions.isEmpty then
          sparse := sparse.push ⟨byte, byte, stop⟩
        else
          let child ← trieBuild nodes stop fuel next
          sparse := sparse.push ⟨byte, byte, child⟩
      if !sparse.isEmpty then
        let id ← addState false (if sparse.size == 1 then 0 else 8 * sparse.size)
        union := union.push id
    addState true (4 * union.size)

/-- A choice of literals, as a trie of their bytes (backwards: of their reversed bytes). -/
def literalChoice (backwards : Bool) (literals : List (List Nat)) : Build Part := do
  let nodes := literals.foldl (fun ns bs => trieAdd ns (if backwards then bs.reverse else bs))
    #[default]
  let stop ← addState false 0
  let longest := literals.foldl (fun m bs => max m bs.length) 0
  let start ← trieBuild nodes stop (longest + 2) 0
  return ⟨start, stop⟩

/-! ## Expressions -/

/-- Parts one after the other. -/
def sequenceOf (parts : List (Build Part)) : Build Part := do
  match parts with
  | [] => single
  | p :: ps =>
    let first ← p
    let mut stop := first.stop
    for q in ps do
      let c ← q
      patch stop
      stop := c.stop
    return ⟨first.start, stop⟩

/-- `n` copies of a part one after the other. -/
def copies (n : Nat) (part : Build Part) : Build Part := do
  if n == 0 then single
  else
    let first ← part
    let mut stop := first.stop
    for _ in [1:n] do
      let c ← part
      patch stop
      stop := c.stop
    return ⟨first.start, stop⟩

/-- A choice of parts, each preferred to the ones after it: a union and an end state. -/
def choiceOf (parts : List (Build Part)) : Build Part := do
  match parts with
  | [] => single
  | [p] => p
  | p1 :: p2 :: more =>
    let first ← p1
    let second ← p2
    let union ← addState true 0
    let stop ← addState false 0
    patch union
    patch first.stop
    patch union
    patch second.stop
    for p in more do
      let c ← p
      patch union
      patch c.stop
    return ⟨union, stop⟩

def optional (part : Build Part) : Build Part := do
  let union ← addState true 0
  let c ← part
  let stop ← addState false 0
  patch union
  patch union
  patch c.stop
  return ⟨union, stop⟩

/-- At least `n` copies; `nonEmpty` when every match of one copy takes a byte. -/
def atLeast (n : Nat) (nonEmpty : Bool) (part : Build Part) : Build Part := do
  if n == 0 then
    if nonEmpty then
      let union ← addState true 0
      let c ← part
      patch union
      patch c.stop
      return ⟨union, union⟩
    else
      let c ← part
      let plus ← addState true 0
      patch c.stop
      patch plus
      let question ← addState true 0
      let stop ← addState false 0
      patch question
      patch question
      patch plus
      return ⟨question, stop⟩
  else if n == 1 then
    let c ← part
    let union ← addState true 0
    patch c.stop
    patch union
    return ⟨c.start, union⟩
  else
    let front ← copies (n - 1) part
    let last ← part
    let union ← addState true 0
    patch front.stop
    patch last.stop
    patch union
    return ⟨front.start, union⟩

/-- From `lo` to `hi` copies: `lo` copies, then each further copy optional. -/
def between (lo hi : Nat) (part : Build Part) : Build Part := do
  let front ← copies lo part
  if lo == hi then return front
  let stop ← addState false 0
  let mut prevEnd := front.stop
  for _ in [lo:hi] do
    let union ← addState true 0
    let c ← part
    patch prevEnd
    patch union
    patch union
    prevEnd := c.stop
  patch prevEnd
  return ⟨front.start, stop⟩

def literalBytes? : Expr → Option (List Nat)
  | .literal bs => some bs
  | _ => none

mutual
/-- How deep an expression nests. -/
def Expr.depth : Expr → Nat
  | .repetition _ _ _ sub | .capture _ sub => sub.depth + 1
  | .concat items | .alternation items => Expr.depthAmong items + 1
  | _ => 1

def Expr.depthAmong : List Expr → Nat
  | [] => 0
  | e :: es => max e.depth (Expr.depthAmong es)
end

/-- Builds an expression, backwards or not, with the states of groups or without. -/
def buildExpr (backwards groups : Bool) : Nat → Expr → Build Part
  | 0, _ => throw ()
  | fuel + 1, e =>
    match e with
    | .empty => single
    | .literal bs => sequenceOf (bs.map (fun _ => single))
    | .cls c => classPart backwards c.ranges
    | .look _ => single
    | .capture _ sub =>
      if groups then do
        let start ← addState false 0
        let inner ← buildExpr backwards groups fuel sub
        let stop ← addState false 0
        patch start
        patch inner.stop
        return ⟨start, stop⟩
      else buildExpr backwards groups fuel sub
    | .concat items =>
      sequenceOf ((if backwards then items.reverse else items).map (buildExpr backwards groups fuel))
    | .alternation items =>
      let literals := items.filterMap literalBytes?
      if literals.length ≤ 1 || literals.length < items.length then
        choiceOf (items.map (buildExpr backwards groups fuel))
      else literalChoice backwards literals
    | .repetition lo hi _ sub =>
      let part := buildExpr backwards groups fuel sub
      match hi with
      | some 1 => if lo == 0 then optional part else between lo 1 part
      | none => atLeast lo (0 < sub.minLength.getD 0) part
      | some h => between lo h part

/-- The whole automaton: a loop over any byte unless every match is anchored, then the
expression (as group 0, forwards), then the match state. -/
def buildAutomaton (backwards groups : Bool) (e : Expr) : Build Unit := do
  let anchored := if backwards then e.endsWith .endText else e.beginsWith .startText
  let front ← if anchored then single else atLeast 0 true (asciiClass [(0, 0xFF)])
  let body := buildExpr backwards groups (e.depth + 1) e
  let one ← if groups then do
      let start ← addState false 0
      let inner ← body
      let stop ← addState false 0
      patch start
      patch inner.stop
      pure (⟨start, stop⟩ : Part)
    else body
  let _ ← addState false 0
  patch one.stop
  patch front.stop

/-- Whether both automata of an expression stay within the limit. -/
def Expr.fitsLimit (e : Expr) : Bool :=
  match (buildAutomaton false true e).run (Builder.fresh sizeLimit) with
  | .error _ => false
  | .ok _ =>
    match (buildAutomaton true false e).run (Builder.fresh sizeLimit) with
    | .error _ => false
    | .ok _ => true

end Regex
end Pattern
end TestTransform
