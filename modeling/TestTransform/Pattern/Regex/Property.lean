/-
The class of a `\p{...}` escape.

A single name is tried, loosely matched, first as a property (the abbreviations `cf`, `sc`
and `lc` excepted, which name general categories), then as a general category, then as a
script. A property named with a value is a general category, a script, an age (every code
point assigned up to that version), a set of script extensions, or a value of a
segmentation property. A property that has code points of its own is a binary property; any
other name refused gives "property not found", and a value refused gives "property value not
found".
-/
import TestTransform.Pattern.CharClass
import TestTransform.Pattern.Regex.Fault
import TestTransform.Unicode.Property

namespace TestTransform
namespace Pattern
namespace Regex

/-- What a `\p` escape names: a property or value by itself, or a property and a value. -/
inductive PropertyQuery where
  | named (name : String)
  | valued (property value : String)
deriving DecidableEq, Repr

/-- The properties whose values are looked up by name, beside the category and the script. -/
def valuedProperties : List String :=
  ["Age", "Script_Extensions", "Grapheme_Cluster_Break", "Word_Break", "Sentence_Break"]

/-- The full name of a general category from its loose name; `any`, `assigned` and `ascii`
are categories too. -/
def categoryOf? (loose : String) : Option String :=
  match loose with
  | "any" => some "Any"
  | "assigned" => some "Assigned"
  | "ascii" => some "ASCII"
  | _ => Unicode.categoryName? loose

/-- What a query names, by full names, before its code points are looked up. -/
inductive PropertyName where
  | binary (name : String)
  | category (name : String)
  | script (name : String)
  | value (property value : String)

/-- The full names of a query, or why it names nothing. -/
def PropertyQuery.resolve : PropertyQuery → Except FaultKind PropertyName
  | .named name =>
    let loose := Unicode.looseName name
    let asProperty := if loose == "cf" || loose == "sc" || loose == "lc" then none
      else Unicode.propertyName? loose
    match asProperty, categoryOf? loose, Unicode.scriptName? loose with
    | some p, _, _ => .ok (.binary p)
    | none, some c, _ => .ok (.category c)
    | none, none, some s => .ok (.script s)
    | none, none, none => .error .unicodePropertyNotFound
  | .valued property value =>
    let loose := Unicode.looseName value
    match Unicode.propertyName? (Unicode.looseName property) with
    | none => .error .unicodePropertyNotFound
    | some "General_Category" =>
      match categoryOf? loose with
      | some c => .ok (.category c)
      | none => .error .unicodePropertyValueNotFound
    | some "Script" =>
      match Unicode.scriptName? loose with
      | some s => .ok (.script s)
      | none => .error .unicodePropertyValueNotFound
    | some p =>
      if !valuedProperties.contains p then .error .unicodePropertyValueNotFound
      else
        match (Unicode.valueNames? p).bind (fun t => Unicode.lookupName t loose) with
        | some v => .ok (.value p v)
        | none => .error .unicodePropertyValueNotFound

def classOf (found : Option (List (Nat × Nat))) (missing : FaultKind) : Except FaultKind CharClass :=
  match found with
  | some rs => .ok (CharClass.ofRanges rs)
  | none => .error missing

/-- The code points a resolved name stands for. The surrogates have no class: no character
is one. -/
def PropertyName.toClass : PropertyName → Except FaultKind CharClass
  | .binary "White_Space" => .ok CharClass.unicodeSpace
  | .binary name => classOf (Unicode.binaryRanges? name) .unicodePropertyNotFound
  | .category "Any" => .ok CharClass.any
  | .category "ASCII" => .ok ⟨[(0, 0x7F)]⟩
  | .category "Assigned" =>
    (classOf (Unicode.categoryRanges? "Unassigned") .unicodePropertyValueNotFound).map CharClass.negate
  | .category "Decimal_Number" => .ok CharClass.unicodeDigit
  | .category "Surrogate" => .error .unicodePropertyValueNotFound
  | .category name => classOf (Unicode.categoryRanges? name) .unicodePropertyValueNotFound
  | .script name => classOf (Unicode.scriptRanges? name) .unicodePropertyValueNotFound
  | .value "Age" v => classOf (Unicode.ageRanges? v) .unicodePropertyValueNotFound
  | .value "Script_Extensions" v =>
    classOf (Unicode.scriptExtensionRanges? v) .unicodePropertyValueNotFound
  | .value p v => classOf (Unicode.segmentRanges? p v) .unicodePropertyValueNotFound

/-- The class of a query, or why there is none. -/
def PropertyQuery.toClass (q : PropertyQuery) : Except FaultKind CharClass :=
  q.resolve >>= PropertyName.toClass

end Regex
end Pattern
end TestTransform
