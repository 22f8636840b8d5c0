/-
Diagnostic codes as users write them: `2322`, `TS2322` or `ts2322`, blanks around allowed, and
lists of them separated by commas, where empty entries are skipped.
-/
import TestTransform.Text.Blank

namespace TestTransform
namespace Diagnostic

def u32Limit : Nat := Nat.pow 2 32

/-- A decimal number below 2^32, an optional `+` in front, nothing else. -/
def parseU32 (s : String) : Option Nat :=
  let cs := s.toList
  let digits := match cs with
    | '+' :: rest => rest
    | _ => cs
  if digits.isEmpty || !digits.all Char.isDigit then none
  else
    let n := digits.foldl (fun n c => n * 10 + (c.toNat - '0'.toNat)) 0
    if n < u32Limit then some n else none

/-- A code such as `TS2322`; on failure, the text as given. -/
def parseCode (value : String) : Except String Nat :=
  let trimmed := Text.trim value
  let digits :=
    if trimmed.startsWith "TS" || trimmed.startsWith "ts" then String.ofList (trimmed.toList.drop 2)
    else trimmed
  match parseU32 digits with
  | some n => .ok n
  | none => .error value

/-- The codes of a comma-separated list, entries that are blank skipped; the first entry
that is not a code fails the whole list. -/
def parseCodes (value : String) : Except String (List Nat) :=
  ((value.splitOn ",").filter (fun part => !(Text.trim part).isEmpty)).mapM parseCode

end Diagnostic
end TestTransform
