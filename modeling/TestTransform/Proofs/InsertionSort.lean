import TestTransform.Data.Table

/-
Sorting by insertion.

`sortBy le` keeps the elements of its list (`sortBy_perm`), and when `le` is total and
transitive it puts them in the order of `le` (`pairwise_sortBy`). Both follow from the same
facts about inserting one element, by induction on the list.
-/

namespace TestTransform

variable {α : Type} {le : α → α → Bool}

theorem insertBy_perm (a : α) : ∀ xs : List α, (insertBy le a xs).Perm (a :: xs)
  | [] => .refl _
  | b :: rest => by
    unfold insertBy
    split
    · exact .refl _
    · exact ((insertBy_perm a rest).cons b).trans (.swap a b rest)

theorem sortBy_cons (a : α) (xs : List α) : sortBy le (a :: xs) = insertBy le a (sortBy le xs) :=
  rfl

theorem sortBy_perm : ∀ xs : List α, (sortBy le xs).Perm xs
  | [] => .refl _
  | a :: xs => (insertBy_perm a _).trans ((sortBy_perm xs).cons a)

@[simp]
theorem mem_sortBy {xs : List α} {a : α} : a ∈ sortBy le xs ↔ a ∈ xs :=
  (sortBy_perm xs).mem_iff

section Order

variable (htrans : ∀ a b c, le a b = true → le b c = true → le a c = true)
  (htotal : ∀ a b, (le a b || le b a) = true)
include htrans htotal

/-- Inserting into a sorted list keeps it sorted. -/
theorem pairwise_insertBy (a : α) :
    ∀ xs : List α, xs.Pairwise (le · · = true) → (insertBy le a xs).Pairwise (le · · = true)
  | [], _ => List.pairwise_singleton _ _
  | b :: rest, hs => by
    unfold insertBy
    split
    · -- `a` goes first: it is below `b`, and `b` is below the rest
      next hab =>
      refine List.Pairwise.cons (fun c hc => ?_) hs
      rcases List.mem_cons.mp hc with rfl | hc
      · exact hab
      · exact htrans a b c hab (List.rel_of_pairwise_cons hs hc)
    · -- `b` stays first: it is below `a` by totality, and below the rest
      next hab =>
      have hba : le b a = true := by simpa [hab] using htotal a b
      refine List.Pairwise.cons (fun c hc => ?_) (pairwise_insertBy a rest hs.of_cons)
      rcases List.mem_cons.mp ((insertBy_perm a rest).mem_iff.mp hc) with rfl | hc
      · exact hba
      · exact List.rel_of_pairwise_cons hs hc

theorem pairwise_sortBy : ∀ xs : List α, (sortBy le xs).Pairwise (le · · = true)
  | [] => List.Pairwise.nil
  | a :: xs => pairwise_insertBy htrans htotal a _ (pairwise_sortBy xs)

end Order

end TestTransform
