/-
File paths as texts with a component structure.

A path's components are: a root when it starts with `/`; then its `/`-separated names, where
empty names are skipped, `.` is skipped except as the first component of a relative path, and
`..` is a parent step. Paths compare and order by their components, a name by its bytes, a
root before `.` before `..` before any name.

`normalize` folds a path's components one by one: `.` is dropped, `..` removes the last
component when there is one that is not the root (a `..` included), and otherwise is kept.
`resolve base p` normalizes `p` when it is absolute and `base` joined with `p` otherwise.
-/
import TestTransform.Text.Shown
import TestTransform.Text.Lines

namespace TestTransform

structure Path where
  text : String
deriving Repr, Inhabited, Hashable

namespace Path

inductive Component where
  | root
  | current
  | parent
  | normal (name : String)
deriving DecidableEq, Repr, Inhabited

def Component.rank : Component → Nat
  | .root => 0
  | .current => 1
  | .parent => 2
  | .normal _ => 3

def Component.cmp : Component → Component → Ordering
  | .normal a, .normal b => compare a b
  | a, b => compare a.rank b.rank

def Component.text : Component → String
  | .root => "/"
  | .current => "."
  | .parent => ".."
  | .normal n => n

def isAbsolute (p : Path) : Bool := p.text.toList.head? == some '/'

/-- The names between slashes, empty ones included. -/
def segments (p : Path) : List String := (p.text.toList.splitOn '/').map String.ofList

/-- A segment that names no component after the first: empty or `.`. -/
def isBlankSegment (seg : String) : Bool := seg == "" || seg == "."

/-- The component a segment names, if any; `first` tells the segment that starts a relative
path, where `.` is a component. -/
def segmentComponent (first : Bool) (seg : String) : Option Component :=
  if seg == ".." then some .parent
  else if seg == "." then (if first then some .current else none)
  else if seg == "" then none
  else some (.normal seg)

/-- The components, each with the index of the segment it stands in. -/
def indexedComponents (p : Path) : List (Component × Nat) :=
  let segs := p.segments.zipIdx
  if p.isAbsolute then (Component.root, 0) :: (segs.drop 1).filterMap (fun (s, i) =>
    (segmentComponent false s).map (fun c => (c, i)))
  else segs.filterMap (fun (s, i) => (segmentComponent (i == 0) s).map (fun c => (c, i)))

def components (p : Path) : List Component := p.indexedComponents.map Prod.fst

/-- The path of a list of components, separated by single slashes. -/
def ofComponents (cs : List Component) : Path :=
  match cs with
  | .root :: rest => ⟨"/" ++ "/".intercalate (rest.map Component.text)⟩
  | _ => ⟨"/".intercalate (cs.map Component.text)⟩

def compareComponents : List Component → List Component → Ordering
  | [], [] => .eq
  | [], _ :: _ => .lt
  | _ :: _, [] => .gt
  | a :: as, b :: bs =>
    match a.cmp b with
    | .eq => compareComponents as bs
    | o => o

instance : Ord Path := ⟨fun a b => compareComponents a.components b.components⟩

instance : BEq Path := ⟨fun a b => a.components == b.components⟩

instance : ToString Path := ⟨Path.text⟩

def empty : Path := ⟨""⟩

def isEmpty (p : Path) : Bool := p.text.isEmpty

/-- `p` followed by `q`: `q` itself when absolute, else with one slash between them. -/
def join (p q : Path) : Path :=
  if q.isAbsolute then q
  else if p.text.isEmpty || p.text.endsWith "/" then ⟨p.text ++ q.text⟩
  else ⟨p.text ++ "/" ++ q.text⟩

instance : HDiv Path Path Path := ⟨join⟩

instance : HDiv Path String Path := ⟨fun p s => join p ⟨s⟩⟩

/-- The path without its last component, when that is a name, `.` or `..`. -/
def parent (p : Path) : Option Path :=
  match p.indexedComponents.reverse with
  | [] => none
  | (.root, _) :: _ => none
  | [_] => some ⟨""⟩
  | _ :: (.root, _) :: _ => some ⟨"/"⟩
  | _ :: (_, k) :: _ => some ⟨"/".intercalate (p.segments.take (k + 1))⟩

def fileName (p : Path) : Option String :=
  match p.components.getLast? with
  | some (.normal n) => some n
  | _ => none

/-- The name split at its last dot, unless the dot begins it: stem and extension. -/
def splitName (name : String) : String × Option String :=
  if name == ".." then (name, none)
  else
    let cs := name.toList
    match cs.reverse.findIdx? (· == '.') with
    | none => (name, none)
    | some k =>
      let at_ := cs.length - 1 - k
      if at_ == 0 then (name, none)
      else (String.ofList (cs.take at_), some (String.ofList (cs.drop (at_ + 1))))

def extension (p : Path) : Option String := p.fileName.bind (fun n => (splitName n).2)

def fileStem (p : Path) : Option String := p.fileName.map (fun n => (splitName n).1)

/-- The path with its extension replaced by `ext` (removed when `ext` is empty); unchanged
when it has no file name. -/
def withExtension (p : Path) (ext : String) : Path :=
  match p.fileStem with
  | none => p
  | some stem =>
    let kept := (p.segments.reverse.dropWhile isBlankSegment).reverse
    let name := if ext.isEmpty then stem else stem ++ "." ++ ext
    ⟨"/".intercalate (kept.dropLast ++ [name])⟩

def isPrefixOf : List Component → List Component → Bool
  | [], _ => true
  | _ :: _, [] => false
  | a :: as, b :: bs => a == b && isPrefixOf as bs

def startsWith (p base : Path) : Bool := isPrefixOf base.components p.components

/-- The segments of a path after its first `n` components. -/
def segmentsAfter : Nat → Bool → List String → List String
  | 0, _, segs => segs
  | _, _, [] => []
  | n + 1, first, seg :: rest =>
    if first || !(seg == "" || seg == ".") then segmentsAfter n false rest
    else segmentsAfter (n + 1) false rest

/-- What follows `base` in `p`, when `base` is a leading run of `p`'s components: the rest of
`p`'s text as written, without blank segments at either end. -/
def stripPrefix (p base : Path) : Option Path :=
  if p.startsWith base then
    let n := base.components.length
    if n == 0 then some p
    else
      let rest := (segmentsAfter n true p.segments).dropWhile isBlankSegment
      some ⟨"/".intercalate (rest.reverse.dropWhile isBlankSegment).reverse⟩
  else none

/-- `p`, its parent, the parent of that, and so on. -/
def ancestors (p : Path) : List Path :=
  go (p.components.length + 1) p
where
  go : Nat → Path → List Path
    | 0, p => [p]
    | fuel + 1, p =>
      match p.parent with
      | some q => p :: go fuel q
      | none => [p]

/-- One step of `normalize`: the path so far with a component added. -/
def pushComponent (out : List Component) : Component → List Component
  | .current => out
  | .parent =>
    match out.reverse with
    | [] => out ++ [.parent]
    | .root :: _ => out ++ [.parent]
    | _ :: rest => rest.reverse
  | c => out ++ [c]

def normalize (p : Path) : Path := ofComponents (p.components.foldl pushComponent [])

def resolve (base p : Path) : Path :=
  if p.isAbsolute then p.normalize else (join base p).normalize

/-- The text with every backslash turned into a slash. -/
def slashed (p : Path) : String := Text.replace p.text "\\" "/"

/-- The path between double quotes, escaped as diagnostic texts show strings. -/
def shown (p : Path) : String := Text.shown p.text

/-- Declaration files are those whose name ends in `.d.ts`, `.d.mts` or `.d.cts`. -/
def isDeclarationFile (p : Path) : Bool :=
  match p.fileName with
  | some n => n.endsWith ".d.ts" || n.endsWith ".d.mts" || n.endsWith ".d.cts"
  | none => false

def hasComponent (p : Path) (name : String) : Bool := p.components.contains (.normal name)

end Path

end TestTransform
