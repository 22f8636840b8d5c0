import TestTransform.Proofs.PathNormal

/-
Breadth-first closures over paths.

A search from `root` along `next` proceeds in rounds: round `k + 1` takes the successors of
round `k`'s frontier, in order, and keeps those not found before, each once (`fresh`); what the
rounds found is their frontiers one after another. A queue walk pops one path at a time and
appends the fresh successors to its queue and to what it found; draining one frontier from the
queue is exactly one round (`queueWalk_drain`), so a walk given one step per path it will ever
pop ends with what the rounds found once their frontier is empty (`queueWalk_rounds`).

Paths are told apart as paths, by their components. When every successor is a normalized path,
that is equality, and then the rounds find every path reachable from `root` and nothing else,
each once (`mem_found_iff`, `found_nodup`). When the successors all lie in a list `U`, the
frontier is empty after `U.length + 1` rounds (`frontier_universe`).
-/

namespace TestTransform

/-- Among normalized paths, equal as paths is equal. -/
theorem Path.eq_of_beq_normalized {a b : Path} (h : (a == b) = true) (ha : a.normalize = a)
    (hb : b.normalize = b) : a = b := by
  rw [← ha, ← hb] at h ⊢
  exact Path.beq_normalize_iff.mp h

namespace Breadth

/-- The paths of `ms` that neither `seen` nor an earlier path of `ms` holds, in order. -/
def fresh (seen : List Path) : List Path → List Path
  | [] => []
  | m :: ms => if seen.any (· == m) then fresh seen ms else m :: fresh (seen ++ [m]) ms

/-- The rounds of a breadth-first search from `root`: what rounds `1` to `k` found, and the
frontier of round `k` (`root` alone for round `0`). -/
def rounds (next : Path → List Path) (root : Path) : Nat → List Path × List Path
  | 0 => ([], [root])
  | k + 1 =>
    let r := rounds next root k
    let new := fresh r.1 (r.2.flatMap next)
    (r.1 ++ new, new)

/-- A queue walk with one step for each path it pops. -/
def queueWalk (next : Path → List Path) : Nat → List Path → List Path → List Path
  | 0, _, seen => seen
  | _ + 1, [], seen => seen
  | n + 1, f :: queue, seen =>
    queueWalk next n (queue ++ fresh seen (next f)) (seen ++ fresh seen (next f))

/-- The paths reached from `root` by one step of `next` or more. -/
inductive Reaches (next : Path → List Path) (root : Path) : Path → Prop
  | edge {x : Path} : x ∈ next root → Reaches next root x
  | step {y x : Path} : Reaches next root y → x ∈ next y → Reaches next root x

/-! ## Fresh paths -/

theorem fresh_append (seen a b : List Path) :
    fresh seen (a ++ b) = fresh seen a ++ fresh (seen ++ fresh seen a) b := by
  induction a generalizing seen with
  | nil => simp [fresh]
  | cons m a ih =>
    simp only [List.cons_append, fresh]
    split
    · exact ih seen
    · simp [ih]

theorem mem_of_mem_fresh {seen ms : List Path} {x : Path} (h : x ∈ fresh seen ms) : x ∈ ms := by
  induction ms generalizing seen with
  | nil => simp [fresh] at h
  | cons m ms ih =>
    simp only [fresh] at h
    split at h
    · exact List.mem_cons_of_mem m (ih h)
    · rcases List.mem_cons.mp h with rfl | h
      · exact List.mem_cons_self
      · exact List.mem_cons_of_mem m (ih h)

/-- What is found fresh is new: appending it to `seen` keeps the paths distinct. -/
theorem nodup_append_fresh {seen : List Path} (hs : seen.Nodup) (ms : List Path) :
    (seen ++ fresh seen ms).Nodup := by
  induction ms generalizing seen with
  | nil => simpa [fresh] using hs
  | cons m ms ih =>
    simp only [fresh]
    split
    · exact ih hs
    · rename_i hnew
      have hm : m ∉ seen := fun hm => hnew (List.any_eq_true.mpr ⟨m, hm, Path.beq_self m⟩)
      have hs' : (seen ++ [m]).Nodup := List.nodup_append.mpr
        ⟨hs, List.nodup_singleton m, fun a ha b hb hab => hm (by simp_all)⟩
      simpa using ih hs'

/-- Among normalized paths, one of `ms` was seen before or is found fresh. -/
theorem mem_or_mem_fresh {seen ms : List Path} {x : Path} (hx : x ∈ ms)
    (hseen : ∀ s ∈ seen, s.normalize = s) (hms : ∀ m ∈ ms, m.normalize = m) :
    x ∈ seen ∨ x ∈ fresh seen ms := by
  induction ms generalizing seen with
  | nil => simp at hx
  | cons m ms ih =>
    have hms' : ∀ m' ∈ ms, m'.normalize = m' := fun m' h => hms m' (List.mem_cons_of_mem m h)
    simp only [fresh]
    split
    · rename_i hold
      rcases List.mem_cons.mp hx with rfl | hx
      · -- a path equal as a path to a normalized one is that path
        obtain ⟨s, hs, hsx⟩ := List.any_eq_true.mp hold
        have : s = x := Path.eq_of_beq_normalized hsx (hseen s hs) (hms x List.mem_cons_self)
        exact Or.inl (this ▸ hs)
      · exact ih hx hseen hms'
    · rcases List.mem_cons.mp hx with rfl | hx
      · exact Or.inr List.mem_cons_self
      · have hseen' : ∀ s ∈ seen ++ [m], s.normalize = s := by
          intro s hs
          rcases List.mem_append.mp hs with hs | hs
          · exact hseen s hs
          · exact (List.mem_singleton.mp hs) ▸ hms m List.mem_cons_self
        rcases ih hx hseen' hms' with h | h
        · rcases List.mem_append.mp h with h | h
          · exact Or.inl h
          · exact Or.inr (List.mem_singleton.mp h ▸ List.mem_cons_self)
        · exact Or.inr (List.mem_cons_of_mem m h)

/-! ## The queue walk drains one round at a time -/

variable {next : Path → List Path} {root : Path}

theorem queueWalk_nil (n : Nat) (seen : List Path) : queueWalk next n [] seen = seen := by
  cases n <;> rfl

/-- Popping the paths of `F` from the front of the queue appends their fresh successors, in
order, behind whatever waited after them. -/
theorem queueWalk_drain (F : List Path) :
    ∀ (P seen : List Path) (n : Nat),
      queueWalk next (F.length + n) (F ++ P) seen =
        queueWalk next n (P ++ fresh seen (F.flatMap next)) (seen ++ fresh seen (F.flatMap next)) := by
  induction F with
  | nil => intro P seen n; simp [fresh]
  | cons f F ih =>
    intro P seen n
    rw [List.length_cons, Nat.add_right_comm, List.cons_append, queueWalk, List.append_assoc,
      ih, List.flatMap_cons, fresh_append]
    simp only [List.append_assoc]

theorem rounds_succ (k : Nat) :
    rounds next root (k + 1) =
      ((rounds next root k).1 ++ fresh (rounds next root k).1 ((rounds next root k).2.flatMap next),
        fresh (rounds next root k).1 ((rounds next root k).2.flatMap next)) := rfl

theorem found_succ (k : Nat) :
    (rounds next root (k + 1)).1 = (rounds next root k).1 ++ (rounds next root (k + 1)).2 := rfl

/-- The walk from `root` with one step more than round `k` found has worked through the rounds
up to `k + 1`. -/
theorem queueWalk_rounds (k : Nat) :
    ∀ n, queueWalk next (n + 1 + (rounds next root k).1.length) [root] [] =
      queueWalk next n (rounds next root (k + 1)).2 (rounds next root (k + 1)).1 := by
  induction k with
  | zero =>
    intro n
    have h := @queueWalk_drain next [root] [] [] n
    simpa [rounds, Nat.add_comm] using h
  | succ k ih =>
    intro n
    have hlen : (rounds next root (k + 1)).1.length =
        (rounds next root k).1.length + (rounds next root (k + 1)).2.length := by
      rw [found_succ, List.length_append]
    have h := @queueWalk_drain next (rounds next root (k + 1)).2 [] (rounds next root (k + 1)).1 n
    rw [List.append_nil, List.nil_append] at h
    rw [hlen, show n + 1 + ((rounds next root k).1.length + (rounds next root (k + 1)).2.length) =
      (n + (rounds next root (k + 1)).2.length) + 1 + (rounds next root k).1.length by omega, ih,
      Nat.add_comm n, h]
    rfl

/-! ## The rounds end -/

theorem frontier_succ_nil {k : Nat} (h : (rounds next root k).2 = []) :
    (rounds next root (k + 1)).2 = [] := by
  simp [rounds_succ, h, fresh]

theorem found_nodup (k : Nat) : (rounds next root k).1.Nodup := by
  induction k with
  | zero => exact List.nodup_nil
  | succ k ih => exact nodup_append_fresh ih _

theorem mem_of_mem_frontier {k : Nat} {x : Path} (h : x ∈ (rounds next root (k + 1)).2) :
    ∃ y ∈ (rounds next root k).2, x ∈ next y := by
  rw [rounds_succ] at h
  exact List.mem_flatMap.mp (mem_of_mem_fresh h)

/-- Each round after the first either finds nothing or makes what was found longer. -/
theorem frontier_nil_or_length (k : Nat) :
    (rounds next root (k + 1)).2 = [] ∨ k + 1 ≤ (rounds next root (k + 1)).1.length := by
  induction k with
  | zero =>
    rw [found_succ]
    cases (rounds next root 1).2 with
    | nil => exact Or.inl rfl
    | cons _ _ => exact Or.inr (by simp [rounds])
  | succ k ih =>
    rcases ih with h | h
    · exact Or.inl (frontier_succ_nil h)
    · rw [found_succ (k + 1), List.length_append]
      cases (rounds next root (k + 2)).2 with
      | nil => exact Or.inl rfl
      | cons _ _ => exact Or.inr (by simp only [List.length_cons]; omega)

theorem found_subset {U : List Path} (hU : ∀ y, ∀ x ∈ next y, x ∈ U) (k : Nat) :
    ∀ x ∈ (rounds next root k).1, x ∈ U := by
  induction k with
  | zero => simp [rounds]
  | succ k ih =>
    intro x hx
    rcases List.mem_append.mp hx with hx | hx
    · exact ih x hx
    · obtain ⟨y, -, hxy⟩ := mem_of_mem_frontier hx
      exact hU y x hxy

/-- The paths found are distinct paths of `U`, so there are at most `U.length` of them. -/
theorem found_length_le {U : List Path} (hU : ∀ y, ∀ x ∈ next y, x ∈ U) (k : Nat) :
    (rounds next root k).1.length ≤ U.length :=
  ((found_nodup k).subperm (found_subset hU k)).length_le

/-- When every successor lies in `U`, nothing is left after `U.length + 1` rounds. -/
theorem frontier_universe {U : List Path} (hU : ∀ y, ∀ x ∈ next y, x ∈ U) :
    (rounds next root (U.length + 1)).2 = [] := by
  rcases @frontier_nil_or_length next root U.length with h | h
  · exact h
  · have hle := @found_length_le next root U hU (U.length + 1)
    omega

/-! ## What the rounds find -/

theorem found_mono {j k : Nat} (hjk : j ≤ k) :
    ∀ x ∈ (rounds next root j).1, x ∈ (rounds next root k).1 := by
  induction hjk with
  | refl => exact fun _ h => h
  | step _ ih => exact fun x hx => List.mem_append_left _ (ih x hx)

theorem mem_found_exists_frontier {k : Nat} {x : Path} (h : x ∈ (rounds next root k).1) :
    ∃ j < k, x ∈ (rounds next root (j + 1)).2 := by
  induction k with
  | zero => simp [rounds] at h
  | succ k ih =>
    rcases List.mem_append.mp h with h | h
    · obtain ⟨j, hj, hx⟩ := ih h
      exact ⟨j, by omega, hx⟩
    · exact ⟨k, by omega, h⟩

theorem reaches_of_found (k : Nat) :
    (∀ x ∈ (rounds next root k).1, Reaches next root x) ∧
      ∀ y ∈ (rounds next root k).2, y = root ∨ Reaches next root y := by
  induction k with
  | zero => simp [rounds]
  | succ k ih =>
    -- a path found in round `k + 1` follows a path of round `k`'s frontier
    have hnew : ∀ x ∈ (rounds next root (k + 1)).2, Reaches next root x := by
      intro x hx
      obtain ⟨y, hy, hxy⟩ := mem_of_mem_frontier hx
      rcases ih.2 y hy with rfl | hreach
      · exact .edge hxy
      · exact .step hreach hxy
    refine ⟨fun x hx => ?_, fun y hy => Or.inr (hnew y hy)⟩
    rcases List.mem_append.mp hx with hx | hx
    · exact ih.1 x hx
    · exact hnew x hx

section Normalized

variable (hnext : ∀ y, ∀ x ∈ next y, x.normalize = x)
include hnext

theorem found_normalized (k : Nat) : ∀ x ∈ (rounds next root k).1, x.normalize = x := by
  intro x hx
  obtain ⟨j, -, hx⟩ := mem_found_exists_frontier hx
  obtain ⟨y, -, hxy⟩ := mem_of_mem_frontier hx
  exact hnext y x hxy

/-- A successor of a path in round `j`'s frontier is found by round `j + 1`. -/
theorem next_frontier_found {j : Nat} {y x : Path} (hy : y ∈ (rounds next root j).2)
    (hx : x ∈ next y) : x ∈ (rounds next root (j + 1)).1 := by
  have hflat : x ∈ (rounds next root j).2.flatMap next := List.mem_flatMap.mpr ⟨y, hy, hx⟩
  have hmem := mem_or_mem_fresh hflat (@found_normalized next root hnext j)
    (fun m hm => by
      obtain ⟨y', -, hm⟩ := List.mem_flatMap.mp hm
      exact hnext y' m hm)
  rw [rounds_succ]
  rcases hmem with h | h
  · exact List.mem_append_left _ h
  · exact List.mem_append_right _ h

/-- Once the frontier is empty, the rounds have found every path reachable from `root`, and
only those. -/
theorem mem_found_iff {k : Nat} (hend : (rounds next root (k + 1)).2 = []) (x : Path) :
    x ∈ (rounds next root k).1 ↔ Reaches next root x := by
  have hstable : (rounds next root (k + 1)).1 = (rounds next root k).1 := by
    rw [found_succ, hend, List.append_nil]
  -- the successors of `root` and of every path found are found
  have hclosed : ∀ y, (y = root ∨ y ∈ (rounds next root k).1) →
      ∀ x ∈ next y, x ∈ (rounds next root k).1 := by
    rintro y (rfl | hy) x hx
    · rw [← hstable]
      exact found_mono (by omega) x (next_frontier_found hnext (j := 0) (by simp [rounds]) hx)
    · obtain ⟨j, hj, hyj⟩ := mem_found_exists_frontier hy
      rw [← hstable]
      exact found_mono (by omega) x (next_frontier_found hnext hyj hx)
  constructor
  · exact fun hx => (reaches_of_found k).1 x hx
  · intro hr
    induction hr with
    | edge hx => exact hclosed _ (Or.inl rfl) _ hx
    | step _ hx ih => exact hclosed _ (Or.inr ih) _ hx

end Normalized

end Breadth
end TestTransform
