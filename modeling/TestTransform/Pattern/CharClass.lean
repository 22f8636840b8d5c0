/-
Classes of characters, held as sorted lists of disjoint, non-adjacent inclusive ranges of code
points. Union, complement, intersection and the two differences keep that form, so two
classes with the same members have the same ranges.
-/
import TestTransform.Unicode.Char
import TestTransform.Data.Table

namespace TestTransform
namespace Pattern

/-- The largest code point. -/
def maxCodePoint : Nat := 0x10FFFF

structure CharClass where
  ranges : List (Nat × Nat)
deriving DecidableEq, Repr, Inhabited

namespace CharClass

/-- Ranges sorted by their start, joined from the range `cur` on: overlapping and adjacent ones
become one. -/
def joinFrom (cur : Nat × Nat) : List (Nat × Nat) → List (Nat × Nat)
  | [] => [cur]
  | b :: rest =>
    if b.1 ≤ cur.2 + 1 then joinFrom (cur.1, max cur.2 b.2) rest
    else cur :: joinFrom b rest

/-- Sorted ranges with overlapping and adjacent ones joined. -/
def joinSorted : List (Nat × Nat) → List (Nat × Nat)
  | [] => []
  | a :: rest => joinFrom a rest

/-- The class of any ranges; empty ones (`lo > hi`) are dropped. -/
def ofRanges (rs : List (Nat × Nat)) : CharClass :=
  ⟨joinSorted (sortBy (fun a b => a.1 ≤ b.1) (rs.filter (fun r => r.1 ≤ r.2)))⟩

def empty : CharClass := ⟨[]⟩

def any : CharClass := ⟨[(0, maxCodePoint)]⟩

def single (c : Char) : CharClass := ⟨[(c.toNat, c.toNat)]⟩

def ofChars (cs : List Char) : CharClass := ofRanges (cs.map (fun c => (c.toNat, c.toNat)))

/-- Whether sorted ranges hold `n`; the search stops at the first range above it. -/
def rangesHold (n : Nat) : List (Nat × Nat) → Bool
  | [] => false
  | r :: rest => if n < r.1 then false else n ≤ r.2 || rangesHold n rest

def contains (cls : CharClass) (c : Char) : Bool := rangesHold c.toNat cls.ranges

def isEmpty (cls : CharClass) : Bool := cls.ranges.isEmpty

def union (a b : CharClass) : CharClass := ofRanges (a.ranges ++ b.ranges)

/-- The code points from `lo` up that none of the sorted ranges holds. -/
def gapsFrom (lo : Nat) : List (Nat × Nat) → List (Nat × Nat)
  | [] => if lo ≤ maxCodePoint then [(lo, maxCodePoint)] else []
  | r :: rest => (if lo < r.1 then [(lo, r.1 - 1)] else []) ++ gapsFrom (r.2 + 1) rest

def negate (cls : CharClass) : CharClass := ⟨gapsFrom 0 cls.ranges⟩

def inter (a b : CharClass) : CharClass := (union a.negate b.negate).negate

def diff (a b : CharClass) : CharClass := inter a b.negate

def symmDiff (a b : CharClass) : CharClass := diff (union a b) (inter a b)

/-! ## Case folding -/

/-- The class with the other characters of every member's simple case folding class added. -/
def caseFold (cls : CharClass) : CharClass :=
  let members : Unicode.RangeTable := ⟨cls.ranges.toArray⟩
  let added := Unicode.foldOrbits.filter (fun o => o.any members.contains)
  ofRanges (cls.ranges ++ added.flatten.map (fun n => (n, n)))

/-- The class with the other case of every ASCII letter added. -/
def caseFoldAscii (cls : CharClass) : CharClass :=
  let shifted := cls.ranges.flatMap (fun r =>
    let upper := (max r.1 0x41, min r.2 0x5A)
    let lower := (max r.1 0x61, min r.2 0x7A)
    (if upper.1 ≤ upper.2 then [(upper.1 + 32, upper.2 + 32)] else []) ++
      (if lower.1 ≤ lower.2 then [(lower.1 - 32, lower.2 - 32)] else []))
  ofRanges (cls.ranges ++ shifted)

/-! ## Named classes -/

def digit : CharClass := ⟨[(0x30, 0x39)]⟩

def asciiWord : CharClass := ofRanges [(0x30, 0x39), (0x41, 0x5A), (0x5F, 0x5F), (0x61, 0x7A)]

def asciiSpace : CharClass := ofRanges [(0x09, 0x0D), (0x20, 0x20)]

def unicodeWord : CharClass := ⟨Unicode.Data.wordRanges⟩

def unicodeDigit : CharClass := ⟨Unicode.Data.digitRanges⟩

/-- The White_Space characters. -/
def unicodeSpace : CharClass :=
  ofRanges [(0x09, 0x0D), (0x20, 0x20), (0x85, 0x85), (0xA0, 0xA0), (0x1680, 0x1680),
    (0x2000, 0x200A), (0x2028, 0x2029), (0x202F, 0x202F), (0x205F, 0x205F), (0x3000, 0x3000)]

/-- The bracketed ASCII classes such as `[:alpha:]`, by name. -/
def ascii? (name : String) : Option CharClass :=
  match name with
  | "alnum" => some (ofRanges [(0x30, 0x39), (0x41, 0x5A), (0x61, 0x7A)])
  | "alpha" => some (ofRanges [(0x41, 0x5A), (0x61, 0x7A)])
  | "ascii" => some ⟨[(0, 0x7F)]⟩
  | "blank" => some (ofRanges [(0x09, 0x09), (0x20, 0x20)])
  | "cntrl" => some (ofRanges [(0, 0x1F), (0x7F, 0x7F)])
  | "digit" => some digit
  | "graph" => some ⟨[(0x21, 0x7E)]⟩
  | "lower" => some ⟨[(0x61, 0x7A)]⟩
  | "print" => some ⟨[(0x20, 0x7E)]⟩
  | "punct" => some (ofRanges [(0x21, 0x2F), (0x3A, 0x40), (0x5B, 0x60), (0x7B, 0x7E)])
  | "space" => some asciiSpace
  | "upper" => some ⟨[(0x41, 0x5A)]⟩
  | "word" => some asciiWord
  | "xdigit" => some (ofRanges [(0x30, 0x39), (0x41, 0x46), (0x61, 0x66)])
  | _ => none

end CharClass

end Pattern
end TestTransform
