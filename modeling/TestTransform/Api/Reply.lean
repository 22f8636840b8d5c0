/-
Requests and replies of the JSON-lines interface.

A request is a JSON object naming an operation in `op`; its reply is `{"ok": value}`, or
`{"error": kind, "message": text}` when the operation fails. A request that cannot be
understood (a missing or mistyped field, an unknown operation) is refused with the kind
`DriverError`.
-/
import TestTransform.Json.Write
import TestTransform.Path

namespace TestTransform
namespace Api

open Json

def ok (v : Value) : Value := .obj [("ok", v)]

def failure (kind message : String) : Value := .obj [("error", .str kind), ("message", .str message)]

def refusal (message : String) : Value := failure "DriverError" message

/-- A reply or a refusal: what decoding a request yields. -/
abbrev Decoding (α : Type) := Except String α

def field? (req : Value) (name : String) : Option Value :=
  match req.get? name with
  | some .null => none
  | v => v

def text (req : Value) (name : String) : Decoding String :=
  match req.get? name with
  | some (.str s) => .ok s
  | _ => .error ("missing string field '" ++ name ++ "'")

def text? (req : Value) (name : String) : Decoding (Option String) :=
  match req.get? name with
  | some (.str s) => .ok (some s)
  | none | some .null => .ok none
  | _ => .error ("field '" ++ name ++ "' must be a string")

def flag (req : Value) (name : String) : Bool :=
  match req.get? name with
  | some (.bool b) => b
  | _ => false

def texts (req : Value) (name : String) : Decoding (List String) :=
  match req.get? name with
  | none | some .null => .ok []
  | some (.arr xs) => xs.mapM (fun x => match x with
      | .str s => .ok s
      | _ => .error ("field '" ++ name ++ "' must be a list of strings"))
  | _ => .error ("field '" ++ name ++ "' must be a list of strings")

def natural (req : Value) (name : String) : Decoding Nat :=
  match req.get? name with
  | some (.num (.nat n)) => .ok n
  | _ => .error ("missing integer field '" ++ name ++ "'")

def natural? (req : Value) (name : String) (dflt : Nat) : Decoding Nat :=
  match req.get? name with
  | none | some .null => .ok dflt
  | some (.num (.nat n)) => .ok n
  | _ => .error ("field '" ++ name ++ "' must be an integer")

def list (req : Value) (name : String) : List Value :=
  match req.get? name with
  | some (.arr xs) => xs
  | _ => []

def path (p : Path) : Value := .str p.text

def paths (ps : List Path) : Value := .arr (ps.map path)

def strings (xs : List String) : Value := .arr (xs.map .str)

def optPath : Option Path → Value
  | some p => path p
  | none => .null

def optText : Option String → Value
  | some s => .str s
  | none => .null

def bool (b : Bool) : Value := .bool b

def nat (n : Nat) : Value := .num (.nat n)

/-- The reply of a decoding: its value, or the refusal. -/
def ofDecoding (d : Decoding Value) : Value :=
  match d with
  | .ok v => v
  | .error m => refusal m

end Api
end TestTransform
