/-
Operations on a file store, and the reading of the files a request brings along.
-/
import TestTransform.Api.Compile
import TestTransform.FileStore

namespace TestTransform
namespace Api

open Json

def ioFailure (e : IoError) : Value := failure "io" e.message

/-- The files of a request in the order they are added: an object in ascending byte order of
its paths, a list of `[path, content]` pairs as listed. -/
def filesOf (req : Value) : Decoding (List (Path × String)) :=
  match req.get? "files" with
  | none | some .null => .ok []
  | some (.obj ms) => (Value.sortMembers ms).mapM (fun (p, v) => do
      pure (⟨p⟩, ← contentOf v))
  | some (.arr xs) => xs.mapM (fun x => match x with
      | .arr [.str p, v] => do pure (⟨p⟩, ← contentOf v)
      | _ => .error "files must be [path, content] pairs")
  | _ => .error "files must be an object or a list"

/-- The store of a request with its files written: the simulated disk when `real_fs` is set,
else a store in memory. -/
def storeOf (req : Value) : Decoding FileStore := do
  let files ← filesOf req
  let start := if flag req "real_fs" then FileStore.emptyDisk FileStore.diskRoot
    else FileStore.emptyMemory
  files.foldlM (fun s (p, c) => match s.write p c with
    | .ok s => .ok s
    | .error e => .error ("cannot write " ++ p.text ++ ": " ++ e.message)) start

def pathField (req : Value) (name : String) : Decoding Path := do
  pure ⟨← text req name⟩

/-- One step on a file store: its reply and the store after it. -/
def storeStep (s : FileStore) (step : Value) : Decoding (Value × FileStore) := do
  let op ← text step "op"
  let reply {α : Type} (r : Except IoError α) (f : α → Value) : Value :=
    match r with
    | .ok a => ok (f a)
    | .error e => ioFailure e
  match op with
  | "write_file" =>
    match s.write (← pathField step "path") (← text step "content") with
    | .ok s => pure (ok .null, s)
    | .error e => pure (ioFailure e, s)
  | "read_file" => pure (reply (s.read (← pathField step "path")) .str, s)
  | "remove_file" =>
    match s.remove (← pathField step "path") with
    | .ok s => pure (ok .null, s)
    | .error e => pure (ioFailure e, s)
  | "file_exists" => pure (ok (bool (s.hasFile (← pathField step "path"))), s)
  | "modified" =>
    pure (reply (s.modified (← pathField step "path"))
      (fun n => if s.isDisk then bool true else nat (1000 * n)), s)
  | "list_files" => pure (reply (s.listFiles (← pathField step "dir")) paths, s)
  | _ => throw ("unknown fs step '" ++ op ++ "'")

/-- The replies of steps run one after another; a refused step leaves the store as it was. -/
def storeSteps (start : FileStore) (steps : List Value) : List Value :=
  (steps.foldl (fun (acc : List Value × FileStore) step =>
    match storeStep acc.2 step with
    | .ok (v, s) => (v :: acc.1, s)
    | .error m => (refusal m :: acc.1, acc.2)) ([], start)).1.reverse

/-- `fs`: steps on one file store. -/
def fileSystem (req : Value) : Decoding Value := do
  pure (ok (.arr (storeSteps (← storeOf req) (list req "steps"))))

end Api
end TestTransform
