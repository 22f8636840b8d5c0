/-
How alike two words are, by the Jaro measure.

Two characters match when they are equal, the one in the second word is not matched yet, and
their places differ by at most half the longer length, less one. With `m` matches, `t` of
them out of order (half the matched places whose characters differ), and lengths `a` and `b`,
the similarity is (m/a + m/b + (m - t)/m) / 3; it is 0 without matches, and two empty words
are alike. The measure is computed in binary64 arithmetic: each quotient and each sum is
rounded to the nearest binary64 value, and so is the cut at 0.7. The rounding decides cases
on the cut itself: one letter against a ten-letter word that starts with it is exactly 0.7 as
a fraction, but 0.7000000000000001 in binary64, above the cut.
-/
import TestTransform.Decimal.Binary64
namespace TestTransform
namespace Text

/-- A fraction of natural numbers. -/
structure Fraction where
  num : Nat
  den : Nat
deriving Repr

namespace Fraction

/-- Whether `x` is below `y`; both denominators are positive where this is used. -/
def lt (x y : Fraction) : Bool := x.num * y.den < y.num * x.den

def add (x y : Fraction) : Fraction := ⟨x.num * y.den + y.num * x.den, x.den * y.den⟩

/-- The nonnegative fraction rounded to the nearest binary64 value, ties to even. -/
def rounded (x : Fraction) : Fraction :=
  match Decimal.Binary64.decode (Decimal.Binary64.ofRatio x.num x.den) with
  | some v =>
    let (n, d) := Decimal.Binary64.scale v.significand v.exponent
    ⟨n, d⟩
  | none => x

/-- The binary64 sum of two binary64 values. -/
def plus (x y : Fraction) : Fraction := (x.add y).rounded

end Fraction

/-- The binary64 value nearest to 0.7, the cut for words alike. -/
def similarityCut : Fraction := Fraction.rounded ⟨7, 10⟩

/-- The matches of the first word in the second: for each character of the first, whether it
matched, and for each of the second, whether it was matched. -/
def jaroMatches (xs ys : List Char) (range : Nat) : List Bool × List Bool :=
  xs.zipIdx.foldl (fun (acc : List Bool × List Bool) (c, i) =>
    let lo := i - range
    let hi := min ys.length (i + range + 1)
    let hit := (List.range' lo (hi - lo)).find? (fun j => ys[j]? == some c && !(acc.2.getD j false))
    match hit with
    | some j => (acc.1 ++ [true], acc.2.set j true)
    | none => (acc.1 ++ [false], acc.2)) ([], List.replicate ys.length false)

/-- The characters of a word at the places marked. -/
def marked (cs : List Char) (marks : List Bool) : List Char :=
  (cs.zip marks).filterMap (fun (c, m) => if m then some c else none)

/-- The Jaro similarity of two words, as binary64 arithmetic gives it. -/
def jaro (a b : String) : Fraction :=
  let xs := a.toList
  let ys := b.toList
  let n := xs.length
  let k := ys.length
  if n == 0 && k == 0 then ⟨1, 1⟩
  else if n == 0 || k == 0 then ⟨0, 1⟩
  else
    let (xMarks, yMarks) := jaroMatches xs ys (max n k / 2 - 1)
    let xMatched := marked xs xMarks
    let yMatched := marked ys yMarks
    let m := xMatched.length
    if m == 0 then ⟨0, 1⟩
    else
      let t := ((xMatched.zip yMatched).filter (fun (x, y) => x != y)).length / 2
      let sum := (Fraction.rounded ⟨m, n⟩).plus (Fraction.rounded ⟨m, k⟩)
      let sum := sum.plus (Fraction.rounded ⟨m - t, m⟩)
      Fraction.rounded ⟨sum.num, 3 * sum.den⟩

/-- The candidates more than 0.7 alike to `word`, least alike first; equally alike ones keep
their order. -/
def similar (word : String) (candidates : List String) : List String :=
  let scored := (candidates.map (fun c => (jaro word c, c))).filter (fun (s, _) => similarityCut.lt s)
  (scored.mergeSort (fun x y => !(y.1.lt x.1))).map Prod.snd

end Text
end TestTransform
