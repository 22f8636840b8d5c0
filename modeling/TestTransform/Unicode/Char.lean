/-
Classes of characters.

* Word characters and decimal digits, the classes of patterns, follow Unicode 16.0 like the
  pattern tables: alphabetic, marks, decimal digits, connector punctuation and the join
  controls. Below U+0080 they are the letters, the digits and `_`.
* The other classes follow Unicode 17.0.
  * Alphabetic and numeric characters (general category N) decide the identifiers of capture
    groups.
  * Grapheme extenders and printable characters decide how a string is shown: an extender, or
    a character that is not printable, is written as its code point.
* Simple case folding: the classes of characters that fold to one character.
-/
import TestTransform.Unicode.Table
import TestTransform.Unicode.Data.Classes
import TestTransform.Unicode.Data.Fold
namespace TestTransform
namespace Unicode

def wordTable : RangeTable := ⟨Data.wordRanges.toArray⟩

def digitTable : RangeTable := ⟨Data.digitRanges.toArray⟩

def numberTable : RangeTable := .ofLines Data.numberRanges

def unprintableTable : RangeTable := .ofLines Data.unprintableRanges

def alphabeticTable : RangeTable := .ofLines Data.alphabeticRanges

def graphemeExtendTable : RangeTable := .ofLines Data.graphemeExtendRanges

/-- Word characters: letters, marks, decimal digits, connector punctuation and the join
controls. -/
def isWordChar (c : Char) : Bool :=
  if c.toNat < 0x80 then c.isAlphanum || c == '_' else wordTable.contains c.toNat

/-- Decimal digits, general category Nd. -/
def isDecimalDigit (c : Char) : Bool :=
  if c.toNat < 0x80 then c.isDigit else digitTable.contains c.toNat

def isAlphabetic (c : Char) : Bool :=
  if c.toNat < 0x80 then c.isAlpha else alphabeticTable.contains c.toNat

/-- Numbers: general categories Nd, Nl and No. -/
def isNumeric (c : Char) : Bool :=
  if c.toNat < 0x80 then c.isDigit else numberTable.contains c.toNat

def isAlphanumeric (c : Char) : Bool := isAlphabetic c || isNumeric c

/-- Characters that extend the grapheme before them; none is below U+0300. -/
def isGraphemeExtend (c : Char) : Bool :=
  c.toNat ≥ 0x300 && graphemeExtendTable.contains c.toNat

/-- Printable characters: all but controls, formats, surrogates, private use, unassigned code
points, separators other than the space, and default-ignorable code points such as the Hangul
fillers. -/
def isPrintable (c : Char) : Bool :=
  if c.toNat < 0x80 then 0x20 ≤ c.toNat && c.toNat < 0x7F
  else !unprintableTable.contains c.toNat

/-- The classes of characters with one simple case folding, each in increasing order. -/
def foldOrbits : List (List Nat) :=
  (tokens Data.foldClasses).map (fun t => (t.splitOn ",").filterMap hexValue?)

/-- Each character of a folding class with its class, by code point. -/
def foldTable : RunTable :=
  let entries := (tokens Data.foldClasses).flatMap (fun t =>
    ((t.splitOn ",").filterMap hexValue?).map (fun n => (⟨n, n, t⟩ : Run)))
  ⟨(entries.mergeSort (fun a b => a.lo ≤ b.lo)).toArray⟩

/-- The characters with the same simple case folding as `n`, `n` included. -/
def foldOrbit (n : Nat) : List Nat :=
  match foldTable.find? n with
  | some t => (t.splitOn ",").filterMap hexValue?
  | none => [n]

end Unicode
end TestTransform
