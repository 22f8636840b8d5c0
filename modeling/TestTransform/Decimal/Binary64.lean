/-
Binary64 values in exact arithmetic.

A finite binary64 value is `(-1)^s · m · 2^e`; `decode` reads that triple from a bit pattern
and `ofRatio` rounds a positive ratio of naturals to the nearest pattern, ties to the even
significand, as binary64 conversion does. `shortest` finds the fewest decimal digits that read
back as a given value: the decimal nearest to it among those with the least count of
significant digits that fall in its rounding interval. Everything is in `Nat` and `Int`, so
the statements about it are statements about numbers.
-/
namespace TestTransform
namespace Decimal

/-- A finite binary64 value `(-1)^negative · significand · 2^exponent`, with the significand's
hidden bit made explicit, and whether the value is the smallest of a binade (its gap below is
half the gap above). -/
structure Binary64 where
  negative : Bool
  significand : Nat
  exponent : Int
  narrowBelow : Bool
deriving Repr, DecidableEq

namespace Binary64

def fractionBits : Nat := 52

def exponentBias : Int := 1075

/-- `none` for infinities and NaN. -/
def decode (bits : UInt64) : Option Binary64 :=
  let raw := bits.toNat
  let negative := raw / Nat.pow 2 63 == 1
  let field : Nat := (raw / Nat.pow 2 52) % 2048
  let fraction : Nat := raw % Nat.pow 2 52
  if field == 2047 then none
  else if field == 0 then some ⟨negative, fraction, -1074, false⟩
  else some ⟨negative, fraction + Nat.pow 2 52, (field : Int) - exponentBias, fraction == 0 && field > 1⟩

def isZero (v : Binary64) : Bool := v.significand == 0

/-- The pattern of `(-1)^negative · q · 2^e` for a significand `q < 2^53` already rounded. -/
def encode (negative : Bool) (q : Nat) (e : Int) : UInt64 :=
  let sign := if negative then Nat.pow 2 63 else 0
  if q < Nat.pow 2 52 then (sign + q).toUInt64
  else if e > 971 then (sign + 2047 * Nat.pow 2 52).toUInt64
  else (sign + (e + exponentBias).toNat * Nat.pow 2 52 + (q - Nat.pow 2 52)).toUInt64

/-- `num / den` rounded to the nearest integer, a tie going to the even one. -/
def roundHalfEven (num den : Nat) : Nat :=
  let q := num / den
  let r := num % den
  if 2 * r < den then q
  else if 2 * r > den then q + 1
  else if q % 2 == 0 then q else q + 1

/-- `a · 2^k` as a ratio of naturals, for `k` of either sign. -/
def scale (a : Nat) (k : Int) : Nat × Nat :=
  if k ≥ 0 then (a * Nat.pow 2 k.toNat, 1) else (a, Nat.pow 2 (-k).toNat)

/-- The binary64 pattern nearest to `num / den`, ties to even; infinity past the largest
finite value. -/
def ofRatio (num den : Nat) : UInt64 :=
  if num == 0 || den == 0 then 0
  else
    -- an exponent `e` with `2^52 ≤ num / (den · 2^e) < 2^54`
    let e : Int := (num.log2 : Int) - den.log2 - 53
    let e := if e < -1074 then -1074 else e
    let (n, d) := scale num (-e)
    let q := roundHalfEven n (d * den)
    if q < Nat.pow 2 53 then encode false q e
    else
      let e := e + 1
      let (n, d) := scale num (-e)
      let q := roundHalfEven n (d * den)
      if q < Nat.pow 2 53 then encode false q e
      else encode false (q / 2) (e + 1)

/-- `10^k` rounded to binary64. -/
def powerOfTen (k : Nat) : UInt64 := ofRatio (Nat.pow 10 k) 1

end Binary64

/-- A positive decimal `digits · 10^exponent`. -/
structure Scientific where
  digits : Nat
  exponent : Int
deriving Repr, DecidableEq

namespace Scientific

/-- The same number with no trailing zero in `digits`. -/
def trim (s : Scientific) : Scientific :=
  go 20 s
where
  go : Nat → Scientific → Scientific
    | 0, s => s
    | fuel + 1, s =>
      if s.digits != 0 && s.digits % 10 == 0 then go fuel ⟨s.digits / 10, s.exponent + 1⟩ else s

def digitCount (n : Nat) : Nat := (Nat.toDigits 10 n).length

end Scientific

namespace Binary64

/-- A positive rational `num / den` with `den > 0`. -/
structure Ratio where
  num : Nat
  den : Nat

def Ratio.ofDecimal (d : Nat) (k : Int) : Ratio :=
  if k ≥ 0 then ⟨d * Nat.pow 10 k.toNat, 1⟩ else ⟨d, Nat.pow 10 (-k).toNat⟩

/-- `compare (a.num / a.den) (b.num / b.den)`. -/
def Ratio.cmp (a b : Ratio) : Ordering := compare (a.num * b.den) (b.num * a.den)

/-- The value and the ends of its rounding interval, over one denominator; the ends belong
to the interval when the significand is even. -/
structure Interval where
  low : Ratio
  value : Ratio
  high : Ratio
  closed : Bool

def interval (v : Binary64) : Interval :=
  -- in quarter gaps: the unit is 2^(exponent - 2)
  let t := v.exponent - 2
  let up : Nat := if t ≥ 0 then Nat.pow 2 t.toNat else 1
  let den : Nat := if t ≥ 0 then 1 else Nat.pow 2 (-t).toNat
  let m := v.significand
  let below := if v.narrowBelow then 4 * m - 1 else 4 * m - 2
  { low := ⟨below * up, den⟩, value := ⟨4 * m * up, den⟩, high := ⟨(4 * m + 2) * up, den⟩,
    closed := m % 2 == 0 }

def Interval.contains (i : Interval) (c : Ratio) : Bool :=
  match c.cmp i.low, c.cmp i.high with
  | .eq, _ => i.closed
  | _, .eq => i.closed
  | .gt, .lt => true
  | _, _ => false

/-- The `k` with `10^k ≤ v < 10^(k+1)`. -/
def decimalExponent (v : Ratio) : Int :=
  adjust 12 (Int.fdiv (((v.num.log2 : Int) - v.den.log2) * 30103) 100000)
where
  adjust : Nat → Int → Int
    | 0, k => k
    | fuel + 1, k =>
      if (Ratio.ofDecimal 1 (k + 1)).cmp v != .gt then adjust fuel (k + 1)
      else if (Ratio.ofDecimal 1 k).cmp v == .gt then adjust fuel (k - 1)
      else k

/-- The decimal with `n` significant digits nearest to the value that lies in its rounding
interval, if one does; of two at equal distance, the one with the even last digit. -/
def withDigits (i : Interval) (e10 : Int) (n : Nat) : Option Scientific :=
  let k := e10 - n + 1
  let v := i.value
  let d := if k ≥ 0 then v.num / (v.den * Nat.pow 10 k.toNat) else v.num * Nat.pow 10 (-k).toNat / v.den
  match i.contains (Ratio.ofDecimal d k), i.contains (Ratio.ofDecimal (d + 1) k) with
  | true, true =>
    match (Ratio.mk (2 * v.num) v.den).cmp (Ratio.ofDecimal (2 * d + 1) k) with
    | .lt => some ⟨d, k⟩
    | .gt => some ⟨d + 1, k⟩
    | .eq => if d % 2 == 0 then some ⟨d, k⟩ else some ⟨d + 1, k⟩
  | true, false => some ⟨d, k⟩
  | false, true => some ⟨d + 1, k⟩
  | false, false => none

/-- The shortest decimal that reads back as a nonzero finite value, trailing zeros moved into
the exponent. Seventeen significant digits always suffice. -/
def shortest (v : Binary64) : Scientific :=
  let i := interval v
  let e10 := decimalExponent i.value
  let found := (List.range 17).findSome? (fun n => withDigits i e10 (n + 1))
  (found.getD ⟨v.significand, 0⟩).trim

end Binary64

end Decimal
end TestTransform
