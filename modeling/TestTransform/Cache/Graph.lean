/-
The dependency graph: for each test file, the modules it imports, directly or not, with the
content they were resolved from.

Entries are kept in path order, one per path (paths are equal when their components are). An
entry describes only the content it was recorded for. The graph is persisted as one JSON
object, path to `{fileContent, resolvedModuleNames}`, in a file of the cache directory whose
name is a fixed digest; recording a changed entry rewrites that file at once, and a missing or
unreadable file leaves the graph as it was or empty.
-/
import TestTransform.FileStore
import TestTransform.Hash.Key
import TestTransform.Json.Shape
import TestTransform.Error

namespace TestTransform
namespace Cache

open Json

structure GraphEntry where
  /-- the content the modules were resolved from -/
  content : String
  modules : List Path
deriving Inhabited

namespace GraphEntry

/-- Entries are the same when their contents are and their modules are, in order. -/
def same (a b : GraphEntry) : Bool := a.content == b.content && a.modules == b.modules

def isValidFor (e : GraphEntry) (content : String) : Bool := e.content == content

def toValue (e : GraphEntry) : Value :=
  .obj [("fileContent", .str e.content), ("resolvedModuleNames", .arr (e.modules.map (.str ·.text)))]

end GraphEntry

/-- Entries by path, in path order, one per path. -/
structure Graph where
  entries : List (Path × GraphEntry)
deriving Inhabited

namespace Graph

def empty : Graph := ⟨[]⟩

def get? (g : Graph) (p : Path) : Option GraphEntry :=
  (g.entries.find? (·.1 == p)).map Prod.snd

/-- `entries` with `(p, e)` at its place in path order; an entry of an equal path keeps its
path and takes `e`. -/
def insertSorted (p : Path) (e : GraphEntry) : List (Path × GraphEntry) → List (Path × GraphEntry)
  | [] => [(p, e)]
  | (q, f) :: rest =>
    match compare p q with
    | .lt => (p, e) :: (q, f) :: rest
    | .eq => (q, e) :: rest
    | .gt => (q, f) :: insertSorted p e rest

/-- Adds or replaces the entry of `p`; says whether anything changed. -/
def insert (g : Graph) (p : Path) (e : GraphEntry) : Bool × Graph :=
  match g.get? p with
  | some old => if old.same e then (false, g) else (true, ⟨insertSorted p e g.entries⟩)
  | none => (true, ⟨insertSorted p e g.entries⟩)

def size (g : Graph) : Nat := g.entries.length

/-- The recorded files whose modules include `module`, in path order. -/
def dependentsOf (g : Graph) (module : Path) : List Path :=
  (g.entries.filter (fun (_, e) => e.modules.any (· == module))).map Prod.fst

def toValue (g : Graph) : Value := .obj (g.entries.map (fun (p, e) => (p.text, e.toValue)))

def toJson (g : Graph) : String := g.toValue.compact

def entryShape : Shape := .record "DependencyGraphEntry" [
  .needed "fileContent" (.text "a string"),
  .needed "resolvedModuleNames" (.seq (.text "path string"))]

def shape : Shape := .dict entryShape

/-- The graph of a JSON text. Its entries are added in the order of the text, so of two keys
naming one path the first key stays with the last entry. -/
def ofJson (text : String) : Except CacheError Graph :=
  match shape.readText text with
  | .error e => .error (.serialization e.message)
  | .ok d =>
    .ok (d.documentEntries.foldl (fun g (k, e) =>
      (g.insert ⟨k⟩ ⟨((e.field 0).str?).getD "", (e.field 1).strs.map Path.mk⟩).2) empty)

end Graph

/-- A graph kept in memory and, with a cache directory, in one file of it. -/
structure GraphCache where
  /-- where the graph is persisted; `none` keeps it in memory only -/
  filePath : Option Path
  graph : Graph
deriving Inhabited

namespace GraphCache

/-- Replaces the graph by the persisted one; a missing file changes nothing, an unreadable
one leaves the graph empty, and its fault is given back. -/
def loadChecked (c : GraphCache) (store : FileStore) : GraphCache × Option CacheError :=
  match c.filePath with
  | none => (c, none)
  | some p =>
    if !store.hasFile p then (c, none)
    else
      match (store.read p).mapError (fun e => CacheError.io p e.message) >>= Graph.ofJson with
      | .ok g => ({ c with graph := g }, none)
      | .error e => ({ c with graph := Graph.empty }, some e)

/-- Replaces the graph by the persisted one, as `loadChecked` does. -/
def load (c : GraphCache) (store : FileStore) : GraphCache := (c.loadChecked store).1

/-- A cache for `cacheDir` with whatever is persisted there, and the fault of a file that
could not be read. -/
def openChecked (store : FileStore) (cacheDir : Option Path) : GraphCache × Option CacheError :=
  (GraphCache.mk (cacheDir.map (· / Hash.graphFileName)) Graph.empty).loadChecked store

/-- A cache for `cacheDir` with whatever is persisted there. -/
def ofDirectory (store : FileStore) (cacheDir : Option Path) : GraphCache :=
  (openChecked store cacheDir).1

/-- Writes the graph to its file. -/
def save (c : GraphCache) (store : FileStore) : Except CacheError FileStore := do
  let p ← match c.filePath with
    | some p => pure p
    | none => throw .noCacheDirectory
  (store.write p c.graph.toJson).mapError (fun e => .io p e.message)

/-- Records the modules of `p` for `content`; a change is persisted at once, and a failure to
persist it is passed over. Says whether the entry changed. -/
def record (c : GraphCache) (store : FileStore) (p : Path) (content : String) (modules : List Path) :
    Bool × GraphCache × FileStore :=
  let (changed, g) := c.graph.insert p ⟨content, modules⟩
  let c := { c with graph := g }
  if changed && c.filePath.isSome then
    match c.save store with
    | .ok store => (true, c, store)
    | .error _ => (true, c, store)
  else (changed, c, store)

def lookup (c : GraphCache) (p : Path) : Option (List Path) := (c.graph.get? p).map GraphEntry.modules

/-- The modules of `p`, only when they were recorded for `content`. -/
def lookupValid (c : GraphCache) (p : Path) (content : String) : Option (List Path) :=
  ((c.graph.get? p).filter (·.isValidFor content)).map GraphEntry.modules

def entry? (c : GraphCache) (p : Path) : Option GraphEntry := c.graph.get? p

def dependentsOf (c : GraphCache) (module : Path) : List Path := c.graph.dependentsOf module

/-- Drops every entry, and the file; the graph is empty even when the file cannot go. -/
def clear (c : GraphCache) (store : FileStore) : GraphCache × Except CacheError FileStore :=
  let c := { c with graph := Graph.empty }
  match c.filePath with
  | some p =>
    if store.hasFile p then (c, (store.remove p).mapError (fun e => .io p e.message))
    else (c, .ok store)
  | none => (c, .ok store)

/-- The text that names the cache, its file and its size. -/
def describe (c : GraphCache) : String :=
  let file := match c.filePath with
    | some p => "Some(" ++ Text.shown p.text ++ ")"
    | none => "None"
  "DependencyGraphCache \x7b file_path: " ++ file ++ ", entries: " ++ toString c.graph.size ++ " \x7d"

end GraphCache

end Cache
end TestTransform
