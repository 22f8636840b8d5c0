/-
A pattern's tree in the simplest form that matches the same texts, ready to be built into an
automaton.

Characters become literal byte strings, and neighbouring literals of a sequence join into
one. Sequences and alternatives inside their like are flattened, and empty items leave a
sequence. A choice between single characters, or between classes, is one class; a choice
between sequences with a common start takes the start out. A repetition of something that
can only match the empty text is done at most once, and one repeated exactly once is itself.
-/
import TestTransform.Pattern.Regex.Syntax
import TestTransform.Pattern.Regex.Utf8

namespace TestTransform
namespace Pattern
namespace Regex

inductive Expr where
  | empty
  | literal (bytes : List Nat)
  /-- a class of no character, or of two or more -/
  | cls (c : CharClass)
  | look (l : Look)
  | repetition (min : Nat) (max : Option Nat) (greedy : Bool) (sub : Expr)
  | capture (index : Nat) (sub : Expr)
  | concat (items : List Expr)
  | alternation (items : List Expr)
deriving Repr, Inhabited, BEq

namespace Expr

/-- The number of bytes of the encoding of a code point. -/
def encodedLength (n : Nat) : Nat := (utf8Bytes n).length

mutual
/-- The fewest bytes of a match; none when nothing matches. -/
def minLength : Expr → Option Nat
  | .empty | .look _ => some 0
  | .literal bs => some bs.length
  | .cls c => c.ranges.head?.map (fun r => encodedLength r.1)
  | .repetition lo _ _ sub => (minLength sub).map (· * lo)
  | .capture _ sub => minLength sub
  | .concat items => minLengthSum items
  | .alternation items => minLengthLeast items

def minLengthSum : List Expr → Option Nat
  | [] => some 0
  | e :: es => do pure ((← minLength e) + (← minLengthSum es))

def minLengthLeast : List Expr → Option Nat
  | [] => none
  | [e] => minLength e
  | e :: es => do pure (min (← minLength e) (← minLengthLeast es))
end

mutual
/-- The most bytes of a match; none when there is no bound, or nothing matches. -/
def maxLength : Expr → Option Nat
  | .empty | .look _ => some 0
  | .literal bs => some bs.length
  | .cls c => c.ranges.getLast?.map (fun r => encodedLength r.2)
  | .repetition _ hi _ sub => do pure ((← maxLength sub) * (← hi))
  | .capture _ sub => maxLength sub
  | .concat items => maxLengthSum items
  | .alternation items => maxLengthMost items

def maxLengthSum : List Expr → Option Nat
  | [] => some 0
  | e :: es => do pure ((← maxLength e) + (← maxLengthSum es))

def maxLengthMost : List Expr → Option Nat
  | [] => none
  | [e] => maxLength e
  | e :: es => do pure (max (← maxLength e) (← maxLengthMost es))
end

/-- Whether only the empty text matches. -/
def matchesOnlyEmpty (e : Expr) : Bool := e.maxLength == some 0

mutual
/-- Whether every match begins with an assertion that `look` holds. -/
def beginsWith (look : Look) : Expr → Bool
  | .look l => l == look
  | .repetition lo _ _ sub => lo > 0 && beginsWith look sub
  | .capture _ sub => beginsWith look sub
  | .concat items => beginsWithFirst look items
  | .alternation items => beginsWithAll look items
  | _ => false

/-- Whether the items up to and including the first one that can match a character hold
the assertion. -/
def beginsWithFirst (look : Look) : List Expr → Bool
  | [] => false
  | e :: es => beginsWith look e || (e.matchesOnlyEmpty && beginsWithFirst look es)

def beginsWithAll (look : Look) : List Expr → Bool
  | [] => true
  | e :: es => beginsWith look e && beginsWithAll look es
end

mutual
/-- Whether every match ends with an assertion that `look` holds. -/
def endsWith (look : Look) : Expr → Bool
  | .look l => l == look
  | .repetition lo _ _ sub => lo > 0 && endsWith look sub
  | .capture _ sub => endsWith look sub
  | .concat items => endsWithLast look items
  | .alternation items => endsWithAll look items
  | _ => false

/-- Whether some item that only the empty text can follow to the end holds the assertion. -/
def endsWithLast (look : Look) : List Expr → Bool
  | [] => false
  | e :: es => endsWithLast look es || (endsWith look e && es.all matchesOnlyEmpty)

def endsWithAll (look : Look) : List Expr → Bool
  | [] => true
  | e :: es => endsWith look e && endsWithAll look es
end

/-! ## Simplifying constructors -/

/-- A class: a literal when it holds one character, or a class. -/
def ofClass (c : CharClass) : Expr :=
  match c.ranges with
  | [(lo, hi)] => if lo == hi then .literal (utf8Bytes lo) else .cls c
  | _ => .cls c

/-- A sequence with nested sequences flattened, empty items left out and neighbouring
literals joined. -/
def sequence (items : List Expr) : Expr :=
  let flat := items.flatMap (fun e =>
    match e with
    | .concat inner => inner
    | .empty => []
    | e => [e])
  let joined := flat.foldr (fun e acc =>
    match e, acc with
    | .literal a, .literal b :: rest => .literal (a ++ b) :: rest
    | e, acc => e :: acc) []
  match joined with
  | [] => .empty
  | [e] => e
  | es => .concat es

/-- The single character of a literal, when it is the encoding of one. -/
def singleChar? : Expr → Option Nat
  | .literal bs =>
    match bs with
    | [a] => if a < 0x80 then some a else none
    | [a, b] => if 0xC0 ≤ a && a < 0xE0 then some ((a - 0xC0) * 0x40 + (b - 0x80)) else none
    | [a, b, c] =>
      if 0xE0 ≤ a && a < 0xF0 then some (((a - 0xE0) * 0x40 + (b - 0x80)) * 0x40 + (c - 0x80))
      else none
    | [a, b, c, d] =>
      if 0xF0 ≤ a then some ((((a - 0xF0) * 0x40 + (b - 0x80)) * 0x40 + (c - 0x80)) * 0x40 + (d - 0x80))
      else none
    | _ => none
  | _ => none

def classOf? : Expr → Option CharClass
  | .cls c => some c
  | _ => none

def itemsOf? : Expr → Option (List Expr)
  | .concat items => some items
  | _ => none

/-- The length of the longest common start of two lists. -/
def commonStart : List Expr → List Expr → Nat
  | a :: as, b :: bs => if a == b then commonStart as bs + 1 else 0
  | _, _ => 0

/-- A choice with nested choices flattened, where a choice of single characters or of
classes is one class; `none` when it is neither. -/
def mergedChoice (flat : List Expr) : Option Expr :=
  match flat.mapM singleChar? with
  | some cs => some (ofClass (CharClass.ofChars (cs.map Char.ofNat)))
  | none => (flat.mapM classOf?).map (fun cls => ofClass (cls.foldl CharClass.union CharClass.empty))

def flattenChoice (items : List Expr) : List Expr :=
  items.flatMap (fun e =>
    match e with
    | .alternation inner => inner
    | e => [e])

/-- A choice without taking out a common start. -/
def plainChoice (items : List Expr) : Expr :=
  match flattenChoice items with
  | [] => .cls CharClass.empty
  | [e] => e
  | flat => (mergedChoice flat).getD (.alternation flat)

/-- A choice with nested choices flattened; a choice of single characters or of classes is
one class, and a choice of sequences with a common start takes that start out. -/
def choice (items : List Expr) : Expr :=
  match flattenChoice items with
  | [] => .cls CharClass.empty
  | [e] => e
  | flat =>
    match mergedChoice flat with
    | some e => e
    | none =>
      match flat.mapM itemsOf? with
      | some (first :: rest) =>
        let common := rest.foldl (fun n items => min n (commonStart first items)) first.length
        if common == 0 then .alternation flat
        else
          let suffixes := (first :: rest).map (fun items => sequence (items.drop common))
          sequence (first.take common ++ [plainChoice suffixes])
      | _ => .alternation flat

/-- A repetition, done at most once when only the empty text matches, and left out when
done exactly once or never. -/
def repeatOf (lo : Nat) (hi : Option Nat) (greedy : Bool) (sub : Expr) : Expr :=
  let (lo, hi) := if sub.matchesOnlyEmpty then (min lo 1, some (min (hi.getD 1) 1)) else (lo, hi)
  if lo == 0 && hi == some 0 then .empty
  else if lo == 1 && hi == some 1 then sub
  else .repetition lo hi greedy sub

end Expr

mutual
/-- The simplest form of a tree. -/
def Node.toExpr : Node → Expr
  | .empty => .empty
  | .set cls => Expr.ofClass cls
  | .look l => .look l
  | .capture k body => .capture k body.toExpr
  | .concat items => Expr.sequence (Node.toExprs items)
  | .alternate items => Expr.choice (Node.toExprs items)
  | .repetition body lo hi greedy => Expr.repeatOf lo hi greedy body.toExpr

/-- The simplest forms of trees, in order. -/
def Node.toExprs : List Node → List Expr
  | [] => []
  | n :: ns => n.toExpr :: Node.toExprs ns
end

end Regex
end Pattern
end TestTransform
