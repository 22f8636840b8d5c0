/-
Reading the packed Unicode tables of `Unicode.Data`.

A packed table is a list of lines; its tokens are the lines' blank-separated words. A range
token is `lo-hi` or a single code point `lo`, in lowercase hexadecimal; a run token is a range
token, a colon and a value. The tables list their ranges in increasing order, disjoint, so a
lookup is a binary search (`RangeTable.contains`, `RunTable.find?`).
-/
namespace TestTransform
namespace Unicode

/-- The value of a hexadecimal digit. -/
def hexDigit? (c : Char) : Option Nat :=
  if '0' ≤ c && c ≤ '9' then some (c.toNat - '0'.toNat)
  else if 'a' ≤ c && c ≤ 'f' then some (c.toNat - 'a'.toNat + 10)
  else if 'A' ≤ c && c ≤ 'F' then some (c.toNat - 'A'.toNat + 10)
  else none

/-- The value of a hexadecimal numeral of at least one digit. -/
def hexValue? (s : String) : Option Nat :=
  if s.isEmpty then none
  else s.toList.foldl (fun acc c => acc.bind (fun n => (hexDigit? c).map (n * 16 + ·))) (some 0)

/-- The blank-separated words of a packed table's lines. -/
def tokens (lines : List String) : List String :=
  lines.flatMap (fun l => (l.splitOn " ").filter (fun w => !w.isEmpty))

/-- A range token: `lo-hi`, or `lo` for a range of one code point. -/
def rangeOf? (t : String) : Option (Nat × Nat) :=
  match t.splitOn "-" with
  | [a] => (hexValue? a).map (fun n => (n, n))
  | [a, b] => do pure (← hexValue? a, ← hexValue? b)
  | _ => none

/-- The ranges of a packed range table. -/
def rangesOf (lines : List String) : List (Nat × Nat) :=
  (tokens lines).filterMap rangeOf?

/-- A range of code points that share one value. -/
structure Run where
  lo : Nat
  hi : Nat
  value : String
deriving Inhabited, Repr

/-- A run token `lo-hi:value`. -/
def runOf? (t : String) : Option Run :=
  match t.splitOn ":" with
  | [r, v] => (rangeOf? r).map (fun (lo, hi) => ⟨lo, hi, v⟩)
  | _ => none

/-- The runs of a packed run table. -/
def runsOf (lines : List String) : List Run :=
  (tokens lines).filterMap runOf?

/-- The ranges of the runs whose value passes `keep`, in order. -/
def rangesWhere (runs : List Run) (keep : String → Bool) : List (Nat × Nat) :=
  (runs.filter (fun r => keep r.value)).map (fun r => (r.lo, r.hi))

/-- The entries `key:value` of a packed name table. -/
def pairsOf (lines : List String) : List (String × String) :=
  (tokens lines).filterMap (fun t =>
    match t.splitOn ":" with
    | [k, v] => some (k, v)
    | _ => none)

/-- Sorted, disjoint ranges of code points, searched by halving. -/
structure RangeTable where
  ranges : Array (Nat × Nat)

namespace RangeTable

def ofLines (lines : List String) : RangeTable := ⟨(rangesOf lines).toArray⟩

/-- Whether a range of `t.ranges[lo:hi]` holds `n`. -/
def containsIn (t : RangeTable) (n : Nat) (lo hi : Nat) (hhi : hi ≤ t.ranges.size) : Bool :=
  if h : lo < hi then
    let mid := (lo + hi) / 2
    have : mid < t.ranges.size := by omega
    let r := t.ranges[mid]
    if n < r.1 then t.containsIn n lo mid (by omega)
    else if r.2 < n then t.containsIn n (mid + 1) hi hhi
    else true
  else false
termination_by hi - lo

/-- Whether a range of the table holds `n`. -/
def contains (t : RangeTable) (n : Nat) : Bool := t.containsIn n 0 t.ranges.size (Nat.le_refl _)

end RangeTable

/-- Sorted, disjoint runs of code points, searched by halving. -/
structure RunTable where
  runs : Array Run

namespace RunTable

def ofLines (lines : List String) : RunTable := ⟨(runsOf lines).toArray⟩

/-- The value of the run of `t.runs[lo:hi]` that holds `n`. -/
def findIn (t : RunTable) (n : Nat) (lo hi : Nat) (hhi : hi ≤ t.runs.size) : Option String :=
  if h : lo < hi then
    let mid := (lo + hi) / 2
    have : mid < t.runs.size := by omega
    let r := t.runs[mid]
    if n < r.lo then t.findIn n lo mid (by omega)
    else if r.hi < n then t.findIn n (mid + 1) hi hhi
    else some r.value
  else none
termination_by hi - lo

/-- The value of the run that holds `n`. -/
def find? (t : RunTable) (n : Nat) : Option String := t.findIn n 0 t.runs.size (Nat.le_refl _)

end RunTable

example : hexValue? "ff" = some 255 := by decide

example : rangeOf? "41-5a" = some (0x41, 0x5a) := by cbv

end Unicode
end TestTransform
