import TestTransform.Proofs.PathNormal
import TestTransform.Proofs.InsertionSort

/-
Paths are ordered by their components.

A component is ordered by its rank and then, among names, by its text: the order of the pair of
its rank and its name. Paths are ordered by their lists of components, one component after
another. So `compare` is a total preorder on paths in which two paths are level exactly when
they are equal as paths. A list of paths sorted by `compare` with no two of them equal is then
strictly ascending, and two strictly ascending lists of paths with the same components have the
same components in the same order.
-/

namespace TestTransform
namespace Path

open Std

/-- The name of a component, empty for all but names. -/
def Component.name : Component → String
  | .normal n => n
  | _ => ""

theorem Component.cmp_eq_compareLex :
    Component.cmp = compareLex (compareOn Component.rank) (compareOn Component.name) := by
  funext a b
  cases a <;> cases b <;> rfl

instance : TransCmp Component.cmp := Component.cmp_eq_compareLex ▸ inferInstance

instance : LawfulEqCmp Component.cmp where
  eq_of_compare {a b} h := by
    rw [Component.cmp_eq_compareLex, compareLex_eq_eq] at h
    have hrank : a.rank = b.rank := LawfulEqOrd.eq_of_compare h.1
    have hname : a.name = b.name := LawfulEqOrd.eq_of_compare h.2
    cases a <;> cases b <;> simp_all [Component.rank, Component.name]

theorem compareComponents_eq_compareLex : compareComponents = List.compareLex Component.cmp := by
  funext as bs
  induction as generalizing bs with
  | nil => cases bs <;> rfl
  | cons a as ih =>
    cases bs with
    | nil => rfl
    | cons b bs =>
      unfold compareComponents List.compareLex
      cases a.cmp b <;> simp [ih]

theorem compare_def (a b : Path) :
    compare a b = List.compareLex Component.cmp a.components b.components := by
  show compareComponents _ _ = _
  rw [compareComponents_eq_compareLex]

instance : TransOrd Path where
  eq_swap {a b} := by
    rw [compare_def, compare_def]
    exact OrientedCmp.eq_swap
  isLE_trans {a b c} := by
    simp only [compare_def]
    exact TransCmp.isLE_trans

/-- Two paths are level exactly when they are equal as paths. -/
theorem compare_eq_iff_beq {a b : Path} : compare a b = .eq ↔ (a == b) = true := by
  rw [compare_def, LawfulEqCmp.compare_eq_iff_eq, beq_iff_components]

/-! ## Sorting paths -/

/-- The order paths are sorted by. -/
theorem sortLE_iff_isLE (a b : Path) : (compare a b != .gt) = (compare a b).isLE := by
  cases compare a b <;> rfl

theorem sortLE_trans {a b c : Path} (hab : (compare a b != .gt) = true)
    (hbc : (compare b c != .gt) = true) : (compare a c != .gt) = true := by
  rw [sortLE_iff_isLE] at *
  exact TransOrd.isLE_trans hab hbc

theorem sortLE_total (a b : Path) : (compare a b != .gt || compare b a != .gt) = true := by
  cases h : compare a b
  · rfl
  · rfl
  · rw [OrientedCmp.lt_of_gt h]
    rfl

/-- A list of paths sorted by the program is sorted. -/
theorem sortBy_sorted (ps : List Path) :
    (sortBy (fun a b => compare a b != .gt) ps).Pairwise
      (fun a b => (compare a b != .gt) = true) :=
  @pairwise_sortBy Path (fun a b => compare a b != .gt) (fun _ _ _ => sortLE_trans) sortLE_total ps

/-- A sorted list of paths with no two of them equal is strictly ascending. -/
theorem pairwise_lt_of_sorted {ps : List Path}
    (hs : ps.Pairwise (fun a b => (compare a b != .gt) = true))
    (hd : ps.Pairwise (fun a b => (a == b) = false)) :
    ps.Pairwise (fun a b => compare a b = .lt) := by
  refine (hs.and hd).imp (fun {a b} ⟨hle, hne⟩ => ?_)
  cases h : compare a b
  · rfl
  · rw [compare_eq_iff_beq.mp h] at hne
    cases hne
  · rw [h] at hle
    cases hle

/-- Two strictly ascending lists of paths with the same components have them in the same
order. -/
theorem components_eq_of_mem_iff {ps qs : List Path}
    (hp : ps.Pairwise (fun a b => compare a b = .lt)) (hq : qs.Pairwise (fun a b => compare a b = .lt))
    (hmem : ∀ cs, cs ∈ ps.map components ↔ cs ∈ qs.map components) :
    ps.map components = qs.map components := by
  let lt : List Component → List Component → Prop := fun x y => List.compareLex Component.cmp x y = .lt
  have : Std.Irrefl lt := ⟨fun x h => by
    have : List.compareLex Component.cmp x x = .eq := ReflCmp.compare_self
    simp only [lt, this] at h
    cases h⟩
  have : Std.Antisymm lt := ⟨fun x y hxy hyx => by
    have := OrientedCmp.gt_of_lt hxy
    simp only [lt, this] at hyx
    cases hyx⟩
  have hmap : ∀ {rs : List Path}, rs.Pairwise (fun a b => compare a b = .lt) →
      (rs.map components).Pairwise lt := fun hr =>
    List.pairwise_map.mpr (hr.imp (fun h => by rw [compare_def] at h; exact h))
  exact (hmap hp).eq_of_mem_iff (hmap hq) hmem

end Path
end TestTransform
