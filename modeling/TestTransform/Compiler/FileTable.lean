/-
The table of source files kept for the compiler: each path (paths being equal when their
components are) has a text, a version and perhaps the output compiled from that text.

Setting a text is the only way texts and versions change: a new path starts at version 1, a
different text raises the version by one and forgets the output, and the same text changes
nothing. An output is given back only for the project version it was stored with.
-/
import TestTransform.Compiler.Output
import TestTransform.Data.Table

namespace TestTransform
namespace Compiler

/-- What setting a text did. -/
inductive FileUpdate where
  | added
  | changed
  | unchanged
deriving DecidableEq, Repr

/-- New files and changed texts both make the project dirty. -/
def FileUpdate.isDirty : FileUpdate → Bool
  | .unchanged => false
  | _ => true

def FileUpdate.name : FileUpdate → String
  | .added => "Added"
  | .changed => "Changed"
  | .unchanged => "Unchanged"

structure FileRecord where
  text : String
  version : Nat
  /-- the output of the current text, and the project version it was compiled at -/
  output : Option (Nat × Output)
deriving Repr, Inhabited

structure FileTable where
  entries : List (Path × FileRecord)
deriving Repr, Inhabited

namespace FileTable

def empty : FileTable := ⟨[]⟩

def get? (t : FileTable) (p : Path) : Option FileRecord :=
  (t.entries.find? (fun e => e.1 == p)).map Prod.snd

def contains (t : FileTable) (p : Path) : Bool := (t.get? p).isSome

def modify (t : FileTable) (p : Path) (f : FileRecord → FileRecord) : FileTable :=
  ⟨t.entries.map (fun e => if e.1 == p then (e.1, f e.2) else e)⟩

/-- Sets the text of `p`. -/
def update (t : FileTable) (p : Path) (text : String) : FileUpdate × FileTable :=
  match t.get? p with
  | some r =>
    if r.text == text then (.unchanged, t)
    else (.changed, t.modify p (fun r => ⟨text, r.version + 1, none⟩))
  | none => (.added, ⟨t.entries ++ [(p, ⟨text, 1, none⟩)]⟩)

def version? (t : FileTable) (p : Path) : Option Nat := (t.get? p).map FileRecord.version

def text? (t : FileTable) (p : Path) : Option String := (t.get? p).map FileRecord.text

def texts (t : FileTable) : List String := t.entries.map (·.2.text)

/-- Remembers `o` as the output of the current text of `p`. -/
def storeOutput (t : FileTable) (p : Path) (projectVersion : Nat) (o : Output) : FileTable :=
  t.modify p (fun r => { r with output := some (projectVersion, o) })

/-- The stored output of `p`, when the project has not changed since. -/
def output? (t : FileTable) (p : Path) (projectVersion : Nat) : Option Output :=
  (t.get? p).bind (fun r => r.output.bind (fun (v, o) => if v == projectVersion then some o else none))

/-- The paths, in order. -/
def paths (t : FileTable) : List Path :=
  sortBy (fun a b => compare a b != .gt) (t.entries.map Prod.fst)

def size (t : FileTable) : Nat := t.entries.length

def isEmpty (t : FileTable) : Bool := t.entries.isEmpty

end FileTable

end Compiler
end TestTransform
