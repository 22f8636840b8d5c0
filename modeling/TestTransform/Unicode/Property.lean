/-
Unicode properties by name: loose matching of names, and the code points of a property or of
a property's value.

Names are matched loosely: case, blanks, `_` and `-` do not count, nor does an `is` in front,
and characters beyond ASCII are dropped. The tables name each property and value by its full
name; a lookup gives `none` when the table has no code points under that name.
-/
import TestTransform.Unicode.Table
import TestTransform.Unicode.Data.Age
import TestTransform.Unicode.Data.Alias
import TestTransform.Unicode.Data.Category
import TestTransform.Unicode.Data.Property
import TestTransform.Unicode.Data.Script
import TestTransform.Unicode.Data.Segment

namespace TestTransform
namespace Unicode

/-- The loose form of a name: without an `is` in front, blanks, `_`, `-` and characters beyond
ASCII, and in lower case. A name that is `is` and one more letter `c` stays `isc`, the
abbreviation of a property of its own. -/
def looseName (name : String) : String :=
  let cs := name.toList
  let (startsIs, body) := match cs with
    | a :: b :: more =>
      if (a == 'i' || a == 'I') && (b == 's' || b == 'S') then (true, more) else (false, cs)
    | _ => (false, cs)
  let kept := (body.filter (fun c => c != ' ' && c != '_' && c != '-' && c.toNat < 0x80)).map
    Char.toLower
  if startsIs && kept == ['c'] then "isc" else String.ofList kept

/-- The entry of `key` in a name table. -/
def lookupName (table : List (String × String)) (key : String) : Option String :=
  (table.find? (fun e => e.1 == key)).map Prod.snd

def propertyNameTable : List (String × String) := pairsOf Data.propertyNames

def categoryNameTable : List (String × String) := pairsOf Data.categoryValues

def scriptNameTable : List (String × String) := pairsOf Data.scriptValues

def ageNameTable : List (String × String) := pairsOf Data.ageValues

/-- The full name of a property, from its loose name. -/
def propertyName? (loose : String) : Option String := lookupName propertyNameTable loose

/-- The full name of a general category, from its loose name. -/
def categoryName? (loose : String) : Option String := lookupName categoryNameTable loose

/-- The full name of a script, from its loose name. -/
def scriptName? (loose : String) : Option String := lookupName scriptNameTable loose

/-- The full names of the values of a property whose values have names, by property. -/
def valueNames? (property : String) : Option (List (String × String)) :=
  match property with
  | "General_Category" => some categoryNameTable
  | "Script" | "Script_Extensions" => some scriptNameTable
  | "Age" => some ageNameTable
  | "Grapheme_Cluster_Break" => some (pairsOf Data.graphemeBreakValues)
  | "Word_Break" => some (pairsOf Data.wordBreakValues)
  | "Sentence_Break" => some (pairsOf Data.sentenceBreakValues)
  | _ => none

/-! ## Code points -/

def categoryRunList : List Run := runsOf Data.categoryRuns

/-- The ranges not covered by sorted, disjoint ranges, up to U+10FFFF. -/
def gaps (lo : Nat) : List (Nat × Nat) → List (Nat × Nat)
  | [] => if lo ≤ 0x10FFFF then [(lo, 0x10FFFF)] else []
  | r :: rest => (if lo < r.1 then [(lo, r.1 - 1)] else []) ++ gaps (r.2 + 1) rest

/-- The unassigned code points. -/
def unassignedRanges : List (Nat × Nat) := gaps 0 (rangesWhere categoryRunList (fun _ => true))

/-- The code points of a general category or a group of them, by full name. The group of
others includes the unassigned code points. -/
def categoryRanges? (name : String) : Option (List (Nat × Nat)) :=
  match lookupName (pairsOf Data.categoryCodes) name with
  | none => none
  | some "Cn" => some unassignedRanges
  | some "LC" => some (rangesWhere categoryRunList (fun v => v == "Lu" || v == "Ll" || v == "Lt"))
  | some "C" => some (rangesWhere categoryRunList (fun v => v.startsWith "C") ++ unassignedRanges)
  | some code =>
    if code.length == 1 then some (rangesWhere categoryRunList (fun v => v.startsWith code))
    else some (rangesWhere categoryRunList (· == code))

/-- Ranges, or none when there are none. -/
def nonEmpty (rs : List (Nat × Nat)) : Option (List (Nat × Nat)) :=
  if rs.isEmpty then none else some rs

/-- The four-letter code of a script, by full name. -/
def scriptCode? (name : String) : Option String := lookupName (pairsOf Data.scriptCodes) name

/-- The code points of a script, by full name. -/
def scriptRanges? (name : String) : Option (List (Nat × Nat)) := do
  let code ← scriptCode? name
  nonEmpty (rangesWhere (runsOf Data.scriptRuns) (· == code))

/-- The code points whose script extensions include a script, by full name. -/
def scriptExtensionRanges? (name : String) : Option (List (Nat × Nat)) := do
  let code ← scriptCode? name
  nonEmpty (rangesWhere (runsOf Data.scriptExtensionRuns) (fun v => (v.splitOn ",").contains code))

/-- The major and minor number of a version written `major.minor` or `Vmajor_minor`. -/
def versionOf? (v : String) : Option (Nat × Nat) :=
  let digits := if v.startsWith "V" then (v.drop 1).toString.replace "_" "." else v
  match digits.splitOn "." with
  | [a, b] => do pure (← a.toNat?, ← b.toNat?)
  | _ => none

/-- Whether version `a` is at most version `b`. -/
def versionLe (a b : Nat × Nat) : Bool := a.1 < b.1 || (a.1 == b.1 && a.2 ≤ b.2)

/-- The code points assigned in a version or before it, by full name (`V6_0`). -/
def ageRanges? (name : String) : Option (List (Nat × Nat)) := do
  let target ← versionOf? name
  nonEmpty (rangesWhere (runsOf Data.ageRuns) (fun v =>
    match versionOf? v with
    | some w => versionLe w target
    | none => false))

/-- The code points of a value of a segmentation property, by full names. -/
def segmentRanges? (property value : String) : Option (List (Nat × Nat)) :=
  let runs := match property with
    | "Grapheme_Cluster_Break" => Data.graphemeBreakRuns
    | "Word_Break" => Data.wordBreakRuns
    | "Sentence_Break" => Data.sentenceBreakRuns
    | _ => []
  nonEmpty (rangesWhere (runsOf runs) (· == value))

/-- The code points of a binary property, by full name. -/
def binaryRanges? (name : String) : Option (List (Nat × Nat)) :=
  (findLines Data.binaryProperties name).map rangesOf
where
  findLines (table : List (String × List String)) (key : String) : Option (List String) :=
    (table.find? (fun e => e.1 == key)).map Prod.snd

end Unicode
end TestTransform
