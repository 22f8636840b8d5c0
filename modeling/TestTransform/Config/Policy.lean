/-
Which compiler diagnostics are reported, and how.

A setting is a switch or a record: colours (`pretty`), codes to ignore (numbers, or texts of
comma-separated codes), a pattern that the path of a reported file must match, and whether
diagnostics only warn. The policy made from it always ignores codes 6059, 18002 and 18003 and
any codes from the environment; its list of ignored codes is sorted without repeats.
-/
import TestTransform.Diagnostic.Basic
import TestTransform.Diagnostic.Code
import TestTransform.Error
import TestTransform.Pattern.Regex.Search
import TestTransform.Data.Table

namespace TestTransform
namespace Config

open Json Pattern

inductive CodeItem where
  | number (n : Nat)
  /-- `"TS2322"`, `"2322"` or several of them separated by commas -/
  | text (s : String)
deriving DecidableEq, Repr

inductive CodeList where
  | one (item : CodeItem)
  | many (items : List CodeItem)
deriving DecidableEq, Repr

structure DiagnosticsOptions where
  pretty : Option Bool
  ignoreCodes : Option CodeList
  pathRegex : Option String
  warnOnly : Bool
deriving DecidableEq, Repr

/-- Diagnostics as the user writes them: a switch or a record. -/
inductive DiagnosticsSetting where
  | toggle (on : Bool)
  | options (o : DiagnosticsOptions)
deriving DecidableEq, Repr

namespace CodeItem

def shape : Shape := .oneOf "CodeItem" [.u32, .text "a string"]

def ofDecoded : Decoded → CodeItem
  | .variant 0 d => .number (d.nat?.getD 0)
  | d => .text ((match d with | .variant _ e => e.str? | e => e.str?).getD "")

def toValue : CodeItem → Value
  | .number n => .ofNat n
  | .text s => .str s

/-- The codes of an item; a text that is no list of codes fails with the text. -/
def codes : CodeItem → Except ConfigError (List Nat)
  | .number n => .ok [n]
  | .text s =>
    match Diagnostic.parseCodes s with
    | .ok cs => .ok cs
    | .error v => .error (.invalidDiagnosticCode v)

end CodeItem

namespace CodeList

def shape : Shape := .oneOf "CodeList" [CodeItem.shape, .seq CodeItem.shape]

def ofDecoded : Decoded → CodeList
  | .variant 0 d => .one (CodeItem.ofDecoded d)
  | .variant _ d => .many (d.itemList.map CodeItem.ofDecoded)
  | d => .one (CodeItem.ofDecoded d)

def items : CodeList → List CodeItem
  | .one i => [i]
  | .many is => is

def toValue : CodeList → Value
  | .one i => i.toValue
  | .many is => .arr (is.map CodeItem.toValue)

def codes (l : CodeList) : Except ConfigError (List Nat) := do
  let lists ← l.items.mapM CodeItem.codes
  pure lists.flatten

end CodeList

namespace DiagnosticsSetting

def optionsShape : Shape := .record "DiagnosticsOptions" [
  .optional "pretty" (.optional .flag), .optional "ignoreCodes" (.optional CodeList.shape),
  .optional "pathRegex" (.optional (.text "a string")), .optional "warnOnly" .flag]

def shape : Shape := .oneOf "DiagnosticsSetting" [.flag, optionsShape]

def ofDecoded : Decoded → DiagnosticsSetting
  | .variant 0 d => .toggle d.boolD
  | .variant _ d =>
    .options ⟨(d.field 0).bool?, (d.field 1).present?.map CodeList.ofDecoded, (d.field 2).str?,
      (d.field 3).boolD⟩
  | d => .toggle d.boolD

def ofValue (v : Value) : Except DataFault DiagnosticsSetting := (shape.decode v).map ofDecoded

def toValue : DiagnosticsSetting → Value
  | .toggle b => .bool b
  | .options o =>
    .obj (((o.ignoreCodes.map (fun l => [("ignoreCodes", l.toValue)])).getD []) ++
      ((o.pathRegex.map (fun p => [("pathRegex", Value.str p)])).getD []) ++
      ((o.pretty.map (fun b => [("pretty", Value.bool b)])).getD []) ++
      [("warnOnly", .bool o.warnOnly)])

end DiagnosticsSetting

/-- Codes that are never reported: 6059 (`rootDir` should contain all sources), 18002 (the
`files` list is empty), 18003 (no inputs found). -/
def alwaysIgnored : List Nat := [6059, 18002, 18003]

/-- Sorted, each value once. -/
def sortedCodes (cs : List Nat) : List Nat :=
  (sortBy (· ≤ ·) cs).eraseDups

/-- Whether `x` is in the ascending list `xs`, found by halving. A window of `size` elements from
`base` keeps the part from its middle on unless the middle element is above `x`, and loses the
part before it otherwise; the one element left is compared with `x`. -/
def searchSorted (xs : List Nat) (x : Nat) : Bool :=
  xs.length != 0 && go xs.length 0
where
  go (size base : Nat) : Bool :=
    if size ≤ 1 then xs.getD base 0 == x
    else
      let mid := base + size / 2
      go (size - size / 2) (if xs.getD mid 0 > x then base else mid)
  termination_by size
  decreasing_by omega

structure Policy where
  enabled : Bool
  pretty : Bool
  /-- raise a compile fault rather than only report -/
  throws : Bool
  ignoreCodes : List Nat
  pathRegex : Option Regex

namespace Policy

def ofSetting (setting : Option DiagnosticsSetting) (envCodes : List Nat) :
    Except ConfigError Policy := do
  let base : Policy := ⟨true, true, true, alwaysIgnored ++ envCodes, none⟩
  let p ← match setting with
    | none | some (.toggle true) => pure base
    | some (.toggle false) => pure { base with enabled := false, throws := false }
    | some (.options o) => do
      let extra ← match o.ignoreCodes with
        | some l => l.codes
        | none => pure []
      let regex ← match o.pathRegex with
        | some pattern =>
          match Regex.compile pattern with
          | .ok r => pure (some r)
          | .error m => throw (ConfigError.invalidRegex "diagnostics.pathRegex" m)
        | none => pure none
      pure { base with pretty := o.pretty.getD true, throws := !o.warnOnly,
                       ignoreCodes := base.ignoreCodes ++ extra, pathRegex := regex }
  pure { p with ignoreCodes := sortedCodes p.ignoreCodes }

/-- Whether diagnostics of `file` are wanted at all. -/
def shouldReport (p : Policy) (file : Path) : Bool :=
  p.enabled && (p.pathRegex.map (fun r => r.isMatch file.text)).getD true

/-- The diagnostics without ignored codes and without those of files not reported. Ignored
codes are looked up by halving, as the list is ascending. -/
def filter (p : Policy) (ds : List Diagnostic) : List Diagnostic :=
  ds.filter (fun d => !searchSorted p.ignoreCodes d.code && (d.file.map p.shouldReport).getD true)

end Policy

end Config
end TestTransform
