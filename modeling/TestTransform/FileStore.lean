/-
Where files are read and written: a store in memory, or a simulated disk.

Paths are normalized lexically on every access. The store in memory keeps a logical clock that
advances by one on every write and touch, and a file's modification time is the clock at its
last write. The disk keeps directories as well as files: writing a file creates its missing
parent directories, which stay when files are removed, and its faults are those of an
operating system (a missing entry, a file where a directory is needed, a directory where a
file is needed, an entry that already exists).

Listing a directory gives every file below it in path order, skipping anything below it named
`node_modules`; listing a file gives the file.
-/
import TestTransform.Path
import TestTransform.Data.Table

namespace TestTransform

/-- The faults of an operating system, as numbered by it. -/
inductive OsError where
  | notFound
  | alreadyExists
  | notADirectory
  | isADirectory
deriving DecidableEq, Repr

def OsError.text : OsError → String
  | .notFound => "No such file or directory (os error 2)"
  | .alreadyExists => "File exists (os error 17)"
  | .notADirectory => "Not a directory (os error 20)"
  | .isADirectory => "Is a directory (os error 21)"

inductive IoError where
  /-- the store in memory has no file at the path as given -/
  | noSuchFile (path : Path)
  | os (e : OsError)
  /-- a fault met while listing the directory `path` -/
  | walk (path : Path) (e : OsError)
deriving Repr

def IoError.message : IoError → String
  | .noSuchFile p => "no such file: " ++ p.text
  | .os e => e.text
  | .walk p e => "IO error for operation on " ++ p.text ++ ": " ++ e.text

structure StoredFile where
  content : String
  /-- the clock at the last write -/
  modified : Nat
deriving Repr, Inhabited

inductive FileStore where
  | memory (files : List (Path × StoredFile)) (clock : Nat)
  | disk (files : List (Path × String)) (dirs : List Path)
deriving Repr

namespace FileStore

def emptyMemory : FileStore := .memory [] 0

/-- The directory below which the simulated disk's files are written. -/
def diskRoot : Path := ⟨"/tmp/.tmpr00tq9"⟩

def isDisk : FileStore → Bool
  | .disk _ _ => true
  | .memory _ _ => false

/-- A disk holding only the directory `root` and the directories above it. -/
def emptyDisk (root : Path) : FileStore := .disk [] root.normalize.ancestors

def lookup {α : Type} (entries : List (Path × α)) (p : Path) : Option α :=
  (entries.find? (fun e => e.1 == p)).map Prod.snd

def without {α : Type} (entries : List (Path × α)) (p : Path) : List (Path × α) :=
  entries.filter (fun e => !(e.1 == p))

def put {α : Type} (entries : List (Path × α)) (p : Path) (a : α) : List (Path × α) :=
  if (lookup entries p).isSome then entries.map (fun e => if e.1 == p then (e.1, a) else e)
  else entries ++ [(p, a)]

/-- What stands at a path of the disk. -/
inductive Entry where
  | file
  | directory
  | nothing
deriving DecidableEq

def diskEntry (files : List (Path × String)) (dirs : List Path) (p : Path) : Entry :=
  if (lookup files p).isSome then .file
  else if dirs.any (· == p) then .directory
  else .nothing

/-- Whether the directories above `p` can be passed through: the first of them, from the top,
that is missing or a file decides the fault. -/
def passAbove (files : List (Path × String)) (dirs : List Path) (p : Path) : Option OsError :=
  let above := (p.ancestors.drop 1).reverse
  above.findSome? (fun a =>
    match diskEntry files dirs a with
    | .file => some .notADirectory
    | .nothing => some .notFound
    | .directory => none)

/-- The disk state after creating `dir` and its missing parents, or the fault. -/
def makeDirs (files : List (Path × String)) (dirs : List Path) (dir : Path) :
    Except OsError (List Path) :=
  let chain := dir.ancestors.reverse
  chain.foldlM (fun (ds : List Path) (a : Path) =>
    if a.isEmpty then .ok ds
    else match diskEntry files ds a with
      | .directory => .ok ds
      | .file => .error (if a == dir then .alreadyExists else .notADirectory)
      | .nothing => .ok (ds ++ [a])) dirs

/-- The text of a file. -/
def read (s : FileStore) (p : Path) : Except IoError String :=
  let key := p.normalize
  match s with
  | .memory files _ =>
    match lookup files key with
    | some f => .ok f.content
    | none => .error (.noSuchFile p)
  | .disk files dirs =>
    match passAbove files dirs key with
    | some e => .error (.os e)
    | none =>
      match lookup files key, diskEntry files dirs key with
      | some t, _ => .ok t
      | none, .directory => .error (.os .isADirectory)
      | none, _ => .error (.os .notFound)

/-- Writes a whole file, creating parent directories on the disk. -/
def write (s : FileStore) (p : Path) (content : String) : Except IoError FileStore :=
  let key := p.normalize
  match s with
  | .memory files clock => .ok (.memory (put files key ⟨content, clock + 1⟩) (clock + 1))
  | .disk files dirs =>
    let parentDirs := match key.parent with
      | some d => makeDirs files dirs d
      | none => .ok dirs
    match parentDirs with
    | .error e => .error (.os e)
    | .ok dirs =>
      match diskEntry files dirs key with
      | .directory => .error (.os .isADirectory)
      | _ => .ok (.disk (put files key content) dirs)

/-- Creates the directory `dir` and the missing ones above it on the disk; a store in memory
has no directories to create. -/
def makeDir (s : FileStore) (dir : Path) : Except IoError FileStore :=
  match s with
  | .memory _ _ => .ok s
  | .disk files dirs =>
    match makeDirs files dirs dir.normalize with
    | .ok dirs => .ok (.disk files dirs)
    | .error e => .error (.os e)

/-- Advances the clock, and moves the file's modification time to it when the file exists. -/
def touch (s : FileStore) (p : Path) : FileStore :=
  let key := p.normalize
  match s with
  | .memory files clock =>
    .memory (files.map (fun e => if e.1 == key then (e.1, { e.2 with modified := clock + 1 }) else e))
      (clock + 1)
  | d => d

def remove (s : FileStore) (p : Path) : Except IoError FileStore :=
  let key := p.normalize
  match s with
  | .memory files clock =>
    if (lookup files key).isSome then .ok (.memory (without files key) clock)
    else .error (.noSuchFile p)
  | .disk files dirs =>
    match passAbove files dirs key with
    | some e => .error (.os e)
    | none =>
      match diskEntry files dirs key with
      | .file => .ok (.disk (without files key) dirs)
      | .directory => .error (.os .isADirectory)
      | .nothing => .error (.os .notFound)

/-- Whether a file (not a directory) is at `p`. -/
def hasFile (s : FileStore) (p : Path) : Bool :=
  let key := p.normalize
  match s with
  | .memory files _ => (lookup files key).isSome
  | .disk files _ => (lookup files key).isSome

/-- The modification time of `p` in clock ticks (always 0 on the disk). -/
def modified (s : FileStore) (p : Path) : Except IoError Nat :=
  let key := p.normalize
  match s with
  | .memory files _ =>
    match lookup files key with
    | some f => .ok f.modified
    | none => .error (.noSuchFile p)
  | .disk files dirs =>
    match passAbove files dirs key with
    | some e => .error (.os e)
    | none =>
      match diskEntry files dirs key with
      | .nothing => .error (.os .notFound)
      | _ => .ok 0

def sortPaths (ps : List Path) : List Path := sortBy (fun a b => compare a b != .gt) ps

/-- Whether `p` lies below `dir` (or is `dir`) with no `node_modules` on the way. -/
def listedBelow (dir p : Path) : Bool :=
  match p.stripPrefix dir with
  | some rest => !rest.hasComponent "node_modules"
  | none => false

/-- Every file below `dir`, in path order. -/
def listFiles (s : FileStore) (dir : Path) : Except IoError (List Path) :=
  let key := dir.normalize
  match s with
  | .memory files _ => .ok (sortPaths ((files.map Prod.fst).filter (listedBelow key)))
  | .disk files dirs =>
    match passAbove files dirs key with
    | some e => .error (.walk dir e)
    | none =>
      match diskEntry files dirs key with
      | .nothing => .error (.walk dir .notFound)
      | .file => .ok [key]
      | .directory => .ok (sortPaths ((files.map Prod.fst).filter (listedBelow key)))

/-- The texts of the files the store holds. -/
def texts : FileStore → List String
  | .memory files _ => files.map (·.2.content)
  | .disk files _ => files.map (·.2)

/-- The paths of the stored files, in order. -/
def paths (s : FileStore) : List Path :=
  match s with
  | .memory files _ => sortPaths (files.map Prod.fst)
  | .disk files _ => sortPaths (files.map Prod.fst)

end FileStore

end TestTransform
