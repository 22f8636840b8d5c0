/-
Writing JSON values as text.

Members and items are written in the order the value holds them. A string is quoted with the
two-character escapes for the quote, the backslash and the five named controls, `\u00xx`
(lowercase) for the other controls, and every other character as itself. Integers are written
in decimal; a float in its shortest decimal form (`Float text` below). `compact` puts nothing
between tokens; `pretty` puts each member and item on a line of its own, indented by two
spaces a level.
-/
import TestTransform.Json.Value
import TestTransform.Decimal.Binary64

namespace TestTransform
namespace Json

open Decimal

def hexDigit (n : Nat) : Char := "0123456789abcdef".toList.getD n '0'

/-- The characters standing for `c` inside a quoted string. -/
def escapeChar (c : Char) : List Char :=
  match c with
  | '"' => ['\\', '"']
  | '\\' => ['\\', '\\']
  | '\n' => ['\\', 'n']
  | '\r' => ['\\', 'r']
  | '\t' => ['\\', 't']
  | '\x08' => ['\\', 'b']
  | '\x0c' => ['\\', 'f']
  | c =>
    if c.toNat < 0x20 then ['\\', 'u', '0', '0', hexDigit (c.toNat / 16), hexDigit (c.toNat % 16)]
    else [c]

def quote (s : String) : String :=
  String.ofList ('"' :: (s.toList.flatMap escapeChar ++ ['"']))

/-! ## Float text

A float is written with the fewest significant digits that read back. With `L` digits and the
decimal point `kk` places from the left of them: an integral value below 10^16 is written out
in full with `.0`; a value with `0 < kk ≤ 16` is written with a point inside its digits; one
with `-5 < kk ≤ 0` as `0.` and `-kk` zeros before its digits; any other as one digit, a point
and the rest (the point left out for a single digit), then `e` and the exponent `kk - 1`
with its sign, `+` or `-`. Zero is `0.0` or `-0.0`; infinities and NaN are `null`.
-/

def zeros (n : Nat) : String := String.ofList (List.replicate n '0')

/-- An exponent with its sign always written. -/
def signedText (e : Int) : String := if 0 ≤ e then "+" ++ toString e else toString e

/-- The text of `digits · 10^exponent`, laid out as described above. -/
def scientificText (s : Scientific) : String :=
  let ds := toString s.digits
  let len : Int := ds.length
  let k := s.exponent
  let kk := len + k
  if 0 ≤ k && kk ≤ 16 then ds ++ zeros k.toNat ++ ".0"
  else if 0 < kk && kk ≤ 16 then
    String.ofList (ds.toList.take kk.toNat) ++ "." ++ String.ofList (ds.toList.drop kk.toNat)
  else if -5 < kk && kk ≤ 0 then "0." ++ zeros (-kk).toNat ++ ds
  else if ds.length == 1 then ds ++ "e" ++ signedText (kk - 1)
  else
    String.ofList (ds.toList.take 1) ++ "." ++ String.ofList (ds.toList.drop 1) ++ "e" ++
      signedText (kk - 1)

def floatText (bits : UInt64) : String :=
  match Binary64.decode bits with
  | none => "null"
  | some v =>
    let sign := if v.negative then "-" else ""
    if v.isZero then sign ++ "0.0" else sign ++ scientificText (Binary64.shortest v)

def Number.text : Number → String
  | .nat n => toString n
  | .neg n => toString n
  | .float bits => floatText bits

namespace Value

mutual
def compact : Value → String
  | .null => "null"
  | .bool b => if b then "true" else "false"
  | .num n => n.text
  | .str s => quote s
  | .arr xs => "[" ++ compactItems xs ++ "]"
  | .obj ms => "\x7b" ++ compactMembers ms ++ "\x7d"

def compactItems : List Value → String
  | [] => ""
  | [x] => compact x
  | x :: xs => compact x ++ "," ++ compactItems xs

def compactMembers : List (String × Value) → String
  | [] => ""
  | [(k, x)] => quote k ++ ":" ++ compact x
  | (k, x) :: ms => quote k ++ ":" ++ compact x ++ "," ++ compactMembers ms
end

def indent (level : Nat) : String := String.ofList (List.replicate (2 * level) ' ')

mutual
def prettyAt (level : Nat) : Value → String
  | .arr [] => "[]"
  | .obj [] => "\x7b\x7d"
  | .arr xs => "[\n" ++ prettyItems (level + 1) xs ++ "\n" ++ indent level ++ "]"
  | .obj ms => "\x7b\n" ++ prettyMembers (level + 1) ms ++ "\n" ++ indent level ++ "\x7d"
  | v => compactScalar v

def prettyItems (level : Nat) : List Value → String
  | [] => ""
  | [x] => indent level ++ prettyAt level x
  | x :: xs => indent level ++ prettyAt level x ++ ",\n" ++ prettyItems level xs

def prettyMembers (level : Nat) : List (String × Value) → String
  | [] => ""
  | [(k, x)] => indent level ++ quote k ++ ": " ++ prettyAt level x
  | (k, x) :: ms => indent level ++ quote k ++ ": " ++ prettyAt level x ++ ",\n" ++ prettyMembers level ms

def compactScalar : Value → String
  | .null => "null"
  | .bool b => if b then "true" else "false"
  | .num n => n.text
  | .str s => quote s
  | _ => ""
end

def pretty (v : Value) : String := prettyAt 0 v

end Value

end Json
end TestTransform
