/-
Finite maps kept as lists of entries in strictly increasing key order.

A table is the shape in which configuration maps, dependency graphs and file tables are
iterated: by key, smallest first. `insert` replaces the entry of an equal key in place, so
the list stays sorted and free of duplicates; `get?` reads the entry back.

Lists that are not tables (codes, paths, ranges) are put in order by `sortBy`, a stable sort
by insertion.
-/
namespace TestTransform

/-- `a` put into `xs` before the first element that it is `le` to. -/
def insertBy {α : Type} (le : α → α → Bool) (a : α) : List α → List α
  | [] => [a]
  | b :: rest => if le a b then a :: b :: rest else b :: insertBy le a rest

/-- The elements of `xs` in the order of `le`; elements that `le` cannot tell apart keep their
order. -/
def sortBy {α : Type} (le : α → α → Bool) (xs : List α) : List α := xs.foldr (insertBy le) []

structure Table (κ : Type) (α : Type) where
  entries : List (κ × α)
deriving Repr, Inhabited

namespace Table

variable {κ α β : Type} [Ord κ]

def empty : Table κ α := ⟨[]⟩

def insertInto (k : κ) (v : α) : List (κ × α) → List (κ × α)
  | [] => [(k, v)]
  | (k', v') :: rest =>
    match compare k k' with
    | .lt => (k, v) :: (k', v') :: rest
    | .eq => (k, v) :: rest
    | .gt => (k', v') :: insertInto k v rest

def insert (t : Table κ α) (k : κ) (v : α) : Table κ α := ⟨insertInto k v t.entries⟩

def get? (t : Table κ α) (k : κ) : Option α :=
  (t.entries.find? (fun e => compare e.1 k == .eq)).map (·.2)

def contains (t : Table κ α) (k : κ) : Bool := (t.get? k).isSome

def erase (t : Table κ α) (k : κ) : Table κ α :=
  ⟨t.entries.filter (fun e => compare e.1 k != .eq)⟩

def ofList (entries : List (κ × α)) : Table κ α :=
  entries.foldl (fun t e => t.insert e.1 e.2) empty

def keys (t : Table κ α) : List κ := t.entries.map (·.1)

def values (t : Table κ α) : List α := t.entries.map (·.2)

def size (t : Table κ α) : Nat := t.entries.length

def isEmpty (t : Table κ α) : Bool := t.entries.isEmpty

def map (f : α → β) (t : Table κ α) : Table κ β := ⟨t.entries.map (fun e => (e.1, f e.2))⟩

/-- Applies `f` to the entry of `k`, or to nothing when there is none. -/
def alter (t : Table κ α) (k : κ) (f : Option α → α) : Table κ α := t.insert k (f (t.get? k))

end Table

end TestTransform
