/-
Operations on dependency graphs kept in one file store.
-/
import TestTransform.Api.Store
import TestTransform.Api.Failure
import TestTransform.Cache.Graph

namespace TestTransform
namespace Api

open Json Cache

/-- Graph caches over one store, by instance number; each is opened when first used. -/
structure GraphDesk where
  store : FileStore
  cacheDir : Option Path
  caches : List (Nat × GraphCache)

namespace GraphDesk

def cache (d : GraphDesk) (k : Nat) : GraphCache :=
  match d.caches.lookup k with
  | some c => c
  | none => GraphCache.ofDirectory d.store d.cacheDir

def put (d : GraphDesk) (k : Nat) (c : GraphCache) : GraphDesk :=
  { d with caches := (k, c) :: d.caches.filter (·.1 != k) }

/-- Instance `k` opened again on what the store holds now. -/
def reopen (d : GraphDesk) (k : Nat) : GraphDesk :=
  d.put k (GraphCache.ofDirectory d.store d.cacheDir)

/-- Instance `k` records the modules of `p` for `content`, saving its graph when the entry
changed; says whether it changed. -/
def record (d : GraphDesk) (k : Nat) (p : Path) (content : String) (modules : List Path) :
    Bool × GraphDesk :=
  let (changed, c, store) := (d.cache k).record d.store p content modules
  (changed, { d.put k c with store := store })

end GraphDesk

def lengthValue (n : Nat) : Value := .obj [("is_empty", bool (n == 0)), ("len", nat n)]

def modulesValue : Option (List Path) → Value
  | some ms => paths ms
  | none => .null

def doneOrFailure (r : Except CacheError FileStore) (d : GraphDesk) : Value × GraphDesk :=
  match r with
  | .ok store => (ok (.str "ok"), { d with store := store })
  | .error e => (cacheFailure e, d)

/-- Instance `k` drops its graph and the file; the store is kept when the file cannot go. -/
def GraphDesk.clear (d : GraphDesk) (k : Nat) : Value × GraphDesk :=
  let (c, r) := (d.cache k).clear d.store
  doneOrFailure r (d.put k c)

/-- One step on the graph caches: its reply and the caches after it. -/
def graphStep (d : GraphDesk) (step : Value) : Decoding (Value × GraphDesk) := do
  let op ← text step "op"
  let k ← natural? step "instance" 0
  let c := d.cache k
  let d := d.put k c
  let reply (v : Value) := pure (ok v, d)
  match op with
  | "open" =>
    let d := d.reopen k
    pure (ok (nat (d.cache k).graph.size), d)
  | "record" =>
    let (changed, d) := d.record k (← pathField step "path") (← text step "content")
      ((← texts step "modules").map Path.mk)
    pure (ok (bool changed), d)
  | "lookup" => reply (modulesValue (c.lookup (← pathField step "path")))
  | "lookup_valid" => reply (modulesValue (c.lookupValid (← pathField step "path") (← text step "content")))
  | "entry" => reply ((c.entry? (← pathField step "path")).elim .null GraphEntry.toValue)
  | "dependents_of" => reply (paths (c.dependentsOf (← pathField step "module")))
  | "entries" => reply (.arr (c.graph.entries.map (fun (p, e) => .arr [path p, e.toValue])))
  | "len" => reply (lengthValue c.graph.size)
  | "clear" => pure (d.clear k)
  | "save" => pure (doneOrFailure (c.save d.store) d)
  | "load" =>
    let c := c.load d.store
    pure (ok (nat c.graph.size), d.put k c)
  | "file_path" => reply (optPath c.filePath)
  | "debug" => reply (.str c.describe)
  | "graph_json" =>
    match Graph.ofJson (← text step "json") with
    | .ok g => reply (.obj [("json", .str g.toJson), ("len", nat g.size)])
    | .error e => pure (cacheFailure e, d)
  | "read_file" => reply (optText (d.store.read (← pathField step "path")).toOption)
  | "write_file" | "remove_file" =>
    let (v, store) ← storeStep d.store step
    pure (v, { d with store := store })
  | _ => throw ("unknown graph step '" ++ op ++ "'")

/-- `graph`: steps on graph caches sharing one store. -/
def dependencyGraph (req : Value) : Decoding Value := do
  let store ← storeOf req
  let cacheDir := (← text? req "cache_dir").map Path.mk
  let start : GraphDesk := ⟨store, cacheDir, []⟩
  let replies := (((list req "steps").foldl (fun (acc : List Value × GraphDesk) step =>
    match graphStep acc.2 step with
    | .ok (v, d) => (v :: acc.1, d)
    | .error m => (refusal m :: acc.1, acc.2)) ([], start)).1.reverse)
  pure (ok (.arr replies))

end Api
end TestTransform
