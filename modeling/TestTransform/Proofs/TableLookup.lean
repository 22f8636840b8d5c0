import TestTransform.Proofs.PassedOptions

/-
Looking up a key in a table built by insertion, and in an object whose members are sorted.

A table built from a list of entries answers, for each key, the value of the key's last entry
in the list (`get?_ofList`), and its entries stay strictly ascending by key (`ofList_sorted`).
An object's members sorted through such a table therefore answer every look-up as the members
did before sorting (`Json.Value.get?_sortMembers`), since a look-up in an object also takes the
last member of a key.
-/

namespace TestTransform

namespace Table

variable {κ α : Type} [Ord κ] [Std.LawfulEqOrd κ]

/-! ## Look-up after insertion -/

/-- Inserting `k` puts its entry before every entry a look-up of `k` could find. -/
theorem find?_insertInto (k j : κ) (v : α) :
    ∀ es : List (κ × α), (insertInto k v es).find? (fun e => compare e.1 j == .eq) =
      if compare k j = .eq then some (k, v) else es.find? (fun e => compare e.1 j == .eq)
  | [] => by
    by_cases h : compare k j = .eq <;> simp [insertInto, h]
  | (k', v') :: es => by
    unfold insertInto
    split
    · by_cases h : compare k j = .eq <;> simp [h]
    · next heq =>
      have hk : k = k' := Std.LawfulEqOrd.eq_of_compare heq
      subst hk
      by_cases h : compare k j = .eq <;> simp [h]
    · next hgt =>
      -- `k` goes after `k'`, so `k'` cannot answer a look-up that `k` answers
      have hne : compare k' j = .eq → compare k j ≠ .eq := by
        intro h1 h2
        rw [Std.LawfulEqOrd.eq_of_compare h1, ← Std.LawfulEqOrd.eq_of_compare h2] at hgt
        simp at hgt
      by_cases h : compare k j = .eq
      · have h' : compare k' j ≠ .eq := fun e => hne e h
        simp [h, h', find?_insertInto k j v es]
      · rw [List.find?_cons, List.find?_cons, find?_insertInto k j v es]
        simp only [if_neg h]

theorem get?_insert (t : Table κ α) (k j : κ) (v : α) :
    (t.insert k v).get? j = if compare k j = .eq then some v else t.get? j := by
  unfold get? insert
  rw [find?_insertInto]
  split <;> rfl

theorem get?_foldl_insert (j : κ) :
    ∀ (l : List (κ × α)) (t : Table κ α), (l.foldl (fun t e => t.insert e.1 e.2) t).get? j =
      ((l.reverse.find? (fun e => compare e.1 j == .eq)).map (·.2)).or (t.get? j)
  | [], t => by simp
  | e :: l, t => by
    rw [List.foldl_cons, get?_foldl_insert j l, get?_insert, List.reverse_cons, List.find?_append]
    by_cases h : compare e.1 j = .eq <;> cases (l.reverse.find? fun e => compare e.1 j == .eq) <;>
      simp [h]

/-- A table built from a list holds, for each key, the value of its last entry in the list. -/
theorem get?_ofList (l : List (κ × α)) (j : κ) :
    (ofList l).get? j = (l.reverse.find? (fun e => compare e.1 j == .eq)).map (·.2) := by
  rw [ofList, get?_foldl_insert]
  cases (l.reverse.find? fun e => compare e.1 j == .eq) <;> rfl

/-! ## Order of the entries -/

/-- Entries strictly ascending by key, as every table built by inserting keeps them. -/
def Sorted (es : List (κ × α)) : Prop := es.Pairwise (fun a b => compare a.1 b.1 = .lt)

/-- With keys strictly ascending, the last entry of a key is its first. -/
theorem reverse_find?_of_sorted (j : κ) :
    ∀ {es : List (κ × α)}, Sorted es →
      es.reverse.find? (fun e => compare e.1 j == .eq) = es.find? (fun e => compare e.1 j == .eq)
  | [], _ => rfl
  | e :: es, h => by
    unfold Sorted at h
    rw [List.pairwise_cons] at h
    rw [List.reverse_cons, List.find?_append, reverse_find?_of_sorted j h.2]
    by_cases he : compare e.1 j = .eq
    · -- every later key is above `e.1`, which is `j`
      have hnone : es.find? (fun e => compare e.1 j == .eq) = none := by
        rw [List.find?_eq_none]
        intro x hx hxj
        have hx' : x.1 = j := Std.LawfulEqOrd.eq_of_compare (by simpa using hxj)
        have hlt := h.1 x hx
        rw [hx', he] at hlt
        cases hlt
      simp [hnone, he]
    · simp [he]

variable [Std.TransOrd κ]

theorem insertInto_sorted (k : κ) (v : α) :
    ∀ {es : List (κ × α)}, Sorted es → Sorted (insertInto k v es)
  | [], _ => by simp [Sorted, insertInto]
  | (k', v') :: es, h => by
    unfold Sorted at h ⊢
    rw [List.pairwise_cons] at h
    obtain ⟨hk', hes⟩ := h
    unfold insertInto
    split
    · next hlt =>
      refine List.Pairwise.cons (fun x hx => ?_) (List.Pairwise.cons hk' hes)
      rcases List.mem_cons.mp hx with rfl | hx
      · exact hlt
      · exact Std.TransCmp.lt_trans hlt (hk' x hx)
    · next heq =>
      have hk : k = k' := Std.LawfulEqOrd.eq_of_compare heq
      subst hk
      exact List.Pairwise.cons hk' hes
    · next hgt =>
      refine List.Pairwise.cons (fun x hx => ?_) (insertInto_sorted k v hes)
      rcases mem_insertInto hx with rfl | hx
      · exact Std.OrientedCmp.lt_of_gt hgt
      · exact hk' x hx

theorem ofList_sorted (l : List (κ × α)) : Sorted (ofList l).entries := by
  -- every insertion of the fold keeps the entries ascending
  suffices h : ∀ (l : List (κ × α)) (t : Table κ α), Sorted t.entries →
      Sorted (l.foldl (fun t e => t.insert e.1 e.2) t).entries from
    h l empty List.Pairwise.nil
  intro l
  induction l with
  | nil => exact fun _ ht => ht
  | cons e l ih => exact fun t ht => ih _ (insertInto_sorted e.1 e.2 ht)

end Table

namespace Json

/-! ## Members of an object -/

theorem beq_eq_compare_eq (a b : String) : (a == b) = (compare a b == .eq) := by
  by_cases h : a = b
  · subst h
    simp
  · have hc : compare a b ≠ .eq := fun hc => h (Std.LawfulEqOrd.eq_of_compare hc)
    simp [h, hc]

@[simp] theorem Value.get?_obj (ms : List (String × Value)) (k : String) :
    Value.get? (.obj ms) k = (ms.reverse.find? (·.1 == k)).map (·.2) := rfl

theorem sortMembers_sorted (ms : List (String × Value)) : Table.Sorted (Value.sortMembers ms) :=
  Table.ofList_sorted ms

/-- Sorting an object's members keeps the answer of every look-up: both take the last member
of a key. -/
theorem Value.get?_sortMembers (ms : List (String × Value)) (k : String) :
    Value.get? (.obj (Value.sortMembers ms)) k = Value.get? (.obj ms) k := by
  have hpred : (fun e : String × Value => e.1 == k) = (fun e => compare e.1 k == .eq) :=
    funext fun e => beq_eq_compare_eq e.1 k
  rw [Value.get?_obj, Value.get?_obj, Value.sortMembers, hpred,
    Table.reverse_find?_of_sorted k (Table.ofList_sorted ms)]
  exact Table.get?_ofList ms k

end Json

end TestTransform
