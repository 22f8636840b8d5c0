import Mathlib
import TestTransform.Path

/-
Normalized paths.

`normalize` leaves a path whose components are canonical: a root or not, then a `..` or not,
then names. The text `ofComponents` writes for a canonical list reads back as the same list,
and folding a canonical list again changes nothing; so normalizing twice is normalizing once,
and paths with the same components normalize to the same text.
-/

namespace TestTransform
namespace Path

/-- The pieces of a list split at `x` hold no `x`. -/
theorem not_mem_of_mem_splitOn {α : Type} [BEq α] [LawfulBEq α] (x : α) :
    ∀ (xs l : List α), l ∈ xs.splitOn x → x ∉ l := by
  intro xs
  induction xs with
  | nil => simp [List.splitOn_nil]
  | cons a xs ih =>
    intro l hl
    rw [List.splitOn_cons_eq_if_modifyHead] at hl
    split at hl
    · rcases List.mem_cons.mp hl with rfl | hl
      · simp
      · exact ih l hl
    · obtain ⟨y, ys, hys⟩ := List.exists_cons_of_ne_nil (List.splitOn_ne_nil x xs)
      rw [hys, List.modifyHead_cons] at hl
      rcases List.mem_cons.mp hl with rfl | hl
      · have hy := ih y (by rw [hys]; exact List.mem_cons_self)
        have hax : a ≠ x := by simpa using ‹¬(a == x) = true›
        simp [hy, Ne.symm hax]
      · exact ih l (by rw [hys]; exact List.mem_cons_of_mem y hl)

theorem not_slash_of_mem_segments (p : Path) : ∀ s ∈ p.segments, '/' ∉ s.toList := by
  intro s hs
  obtain ⟨piece, hpiece, rfl⟩ := List.mem_map.mp hs
  simpa using not_mem_of_mem_splitOn '/' p.text.toList piece hpiece

/-- A name that a segment can stand for: not empty, not `.` or `..`, and without a slash. -/
def IsName (n : String) : Prop := n ≠ "" ∧ n ≠ "." ∧ n ≠ ".." ∧ '/' ∉ n.toList

/-- A component that its own text names wherever it stands after the first: `..` or a name. -/
def Component.Spelled : Component → Prop
  | .parent => True
  | .normal n => IsName n
  | _ => False

/-- A component that can follow the first one: `.`, `..` or a name. -/
def Component.Inner (c : Component) : Prop := c = .current ∨ c.Spelled

/-- The components `normalize` leaves: a root or not, a `..` or not, then names. -/
def Canonical (cs : List Component) : Prop :=
  ∃ (pre : List Component) (names : List String), cs = pre ++ names.map .normal ∧
    pre ∈ ([[], [.root], [.parent], [.root, .parent]] : List (List Component)) ∧
    ∀ n ∈ names, IsName n

/-! ## Reading components from segments -/

theorem segmentComponent_inner {b : Bool} {s : String} {c : Component}
    (hs : '/' ∉ s.toList) (h : segmentComponent b s = some c) : c.Inner := by
  unfold segmentComponent at h
  by_cases h1 : s = ".."
  · simp only [h1, beq_self_eq_true, if_true, Option.some.injEq] at h
    subst h
    exact Or.inr trivial
  by_cases h2 : s = "."
  · subst h2
    cases b <;> simp_all [Component.Inner]
  by_cases h3 : s = ""
  · simp_all
  simp only [beq_iff_eq, h1, h2, h3, if_false, Option.some.injEq] at h
  subst h
  exact Or.inr ⟨h3, h2, h1, hs⟩

theorem segmentComponent_text {b : Bool} {c : Component} (hc : c.Spelled) :
    segmentComponent b c.text = some c := by
  cases c with
  | parent => rfl
  | normal n =>
    obtain ⟨h1, h2, h3, -⟩ := hc
    simp [segmentComponent, Component.text, h1, h2, h3]
  | root => exact hc.elim
  | current => exact hc.elim

theorem filterMap_segmentComponent_text (b : Bool) :
    ∀ cs : List Component, (∀ c ∈ cs, c.Spelled) →
      (cs.map Component.text).filterMap (segmentComponent b) = cs := by
  intro cs
  induction cs with
  | nil => simp
  | cons c cs ih =>
    intro h
    simp only [List.map_cons, List.filterMap_cons]
    rw [segmentComponent_text (h c List.mem_cons_self),
      ih (fun d hd => h d (List.mem_cons_of_mem c hd))]

/-- Past the first segment, the indices only travel with the components. -/
theorem map_fst_filterMap_zipIdx (f : Bool → String → Option Component) :
    ∀ (l : List String) (k : Nat),
      ((l.zipIdx (k + 1)).filterMap (fun (s, i) => (f (i == 0) s).map (fun c => (c, i)))).map
        Prod.fst = l.filterMap (f false) := by
  intro l
  induction l with
  | nil => simp
  | cons s l ih =>
    intro k
    have hk : (k + 1 == 0) = false := by simp
    simp only [List.zipIdx_cons, List.filterMap_cons, hk]
    cases f false s <;> simp [ih]

theorem map_fst_filterMap_zipIdx_of (f : String → Option Component) :
    ∀ (l : List String) (k : Nat),
      ((l.zipIdx k).filterMap (fun (s, i) => (f s).map (fun c => (c, i)))).map Prod.fst =
        l.filterMap f := by
  intro l
  induction l with
  | nil => simp
  | cons s l ih =>
    intro k
    simp only [List.zipIdx_cons, List.filterMap_cons]
    cases f s <;> simp [ih]

theorem components_of_absolute {p : Path} (h : p.isAbsolute = true) :
    p.components = .root :: (p.segments.drop 1).filterMap (segmentComponent false) := by
  obtain ⟨segs, hsegs⟩ : ∃ segs, p.segments = segs := ⟨_, rfl⟩
  unfold components indexedComponents
  rw [if_pos h, hsegs]
  cases segs with
  | nil => simp
  | cons s segs =>
    simp only [List.zipIdx_cons, List.drop_succ_cons, List.drop_zero, List.map_cons]
    rw [map_fst_filterMap_zipIdx_of]

theorem components_of_relative {p : Path} (h : p.isAbsolute = false) (s : String)
    (segs : List String) (hsegs : p.segments = s :: segs) :
    p.components = (segmentComponent true s).toList ++ segs.filterMap (segmentComponent false) := by
  unfold components indexedComponents
  rw [if_neg (by simp [h]), hsegs]
  simp only [List.zipIdx_cons, List.filterMap_cons, Nat.zero_add]
  have hsplit := map_fst_filterMap_zipIdx segmentComponent segs 0
  cases hc : segmentComponent true s <;> simp [hc, hsplit]

/-- Every component after the first is `.`, `..` or a name; a root can only come first. -/
theorem components_shape (p : Path) :
    (∃ cs, p.components = .root :: cs ∧ ∀ c ∈ cs, c.Inner) ∨ ∀ c ∈ p.components, c.Inner := by
  have hseg := not_slash_of_mem_segments p
  cases habs : p.isAbsolute
  · right
    intro c hc
    unfold components indexedComponents at hc
    rw [if_neg (by simp [habs])] at hc
    simp only [List.mem_map, List.mem_filterMap, Option.map_eq_some_iff] at hc
    obtain ⟨_, ⟨⟨s, i⟩, hmem, c', hc', hpair⟩, rfl⟩ := hc
    cases hpair
    exact segmentComponent_inner (hseg s (List.fst_mem_of_mem_zipIdx hmem)) hc'
  · left
    refine ⟨_, components_of_absolute habs, ?_⟩
    intro c hc
    obtain ⟨s, hs, hc'⟩ := List.mem_filterMap.mp hc
    exact segmentComponent_inner (hseg s (List.mem_of_mem_drop hs)) hc'

/-! ## Reading back the text of components -/

theorem segments_intercalate (ns : List String) (h : ∀ n ∈ ns, '/' ∉ n.toList) (hne : ns ≠ []) :
    (⟨"/".intercalate ns⟩ : Path).segments = ns := by
  have hsep : ∀ l ∈ ns.map String.toList, '/' ∉ l := by
    intro l hl
    obtain ⟨n, hn, rfl⟩ := List.mem_map.mp hl
    exact h n hn
  have hne' : ns.map String.toList ≠ [] := by simpa using hne
  have hslash : "/".toList = ['/'] := rfl
  simp only [segments, String.toList_intercalate, hslash]
  rw [List.splitOn_intercalate '/' hsep hne', List.map_map]
  simp

theorem segments_slash_append (t : String) :
    (⟨"/" ++ t⟩ : Path).segments = "" :: (⟨t⟩ : Path).segments := by
  have hslash : "/".toList = ['/'] := rfl
  simp [segments, String.toList_append, hslash, List.splitOn_cons_eq_if_modifyHead]

theorem segments_empty : (⟨""⟩ : Path).segments = [""] := by
  simp [segments, List.splitOn_nil]

theorem spelled_text_ne_slash {c : Component} (hc : c.Spelled) : c.text.toList.head? ≠ some '/' := by
  cases c with
  | parent => simp [Component.text]
  | normal n =>
    obtain ⟨hne, -, -, hslash⟩ := hc
    obtain ⟨d, ds, hds⟩ := List.exists_cons_of_ne_nil (by simpa using hne : n.toList ≠ [])
    simp only [Component.text, hds, List.head?_cons, ne_eq, Option.some.injEq]
    rintro rfl
    exact hslash (by rw [hds]; exact List.mem_cons_self)
  | root => exact hc.elim
  | current => exact hc.elim

theorem spelled_text_ne_nil {c : Component} (hc : c.Spelled) : c.text.toList ≠ [] := by
  cases c with
  | parent => simp [Component.text]
  | normal n => simpa [Component.text] using hc.1
  | root => exact hc.elim
  | current => exact hc.elim

theorem spelled_text_no_slash {c : Component} (hc : c.Spelled) : '/' ∉ c.text.toList := by
  cases c with
  | parent => simp [Component.text]
  | normal n => exact hc.2.2.2
  | root => exact hc.elim
  | current => exact hc.elim

/-- A list of components that reads back from its text: `..` and names, after a root or not. -/
theorem components_ofComponents_of_spelled (cs : List Component) (h : ∀ c ∈ cs, c.Spelled) :
    (ofComponents (.root :: cs)).components = .root :: cs ∧
      (ofComponents cs).components = cs := by
  have hno : ∀ n ∈ cs.map Component.text, '/' ∉ n.toList := by
    intro n hn
    obtain ⟨c, hc, rfl⟩ := List.mem_map.mp hn
    exact spelled_text_no_slash (h c hc)
  constructor
  · have habs : (ofComponents (.root :: cs)).isAbsolute = true := by
      simp [ofComponents, isAbsolute, String.toList_append]
    rw [components_of_absolute habs]
    simp only [ofComponents, segments_slash_append, List.drop_succ_cons, List.drop_zero]
    cases cs with
    | nil => simp [segments_empty, segmentComponent]
    | cons c cs =>
      rw [segments_intercalate _ hno (by simp), filterMap_segmentComponent_text false _ h]
  · cases cs with
    | nil => simp [ofComponents, components, indexedComponents, isAbsolute, segments_empty,
        segmentComponent]
    | cons c cs =>
      have hofc : ofComponents (c :: cs) = ⟨"/".intercalate ((c :: cs).map Component.text)⟩ := by
        cases c <;> first | exact (h _ List.mem_cons_self).elim | rfl
      have habs : (ofComponents (c :: cs)).isAbsolute = false := by
        rw [hofc]
        simp only [isAbsolute, String.toList_intercalate, List.map_cons, beq_eq_false_iff_ne]
        cases cs with
        | nil => simpa using spelled_text_ne_slash (h c List.mem_cons_self)
        | cons d ds =>
          obtain ⟨x, xs, hx⟩ := List.exists_cons_of_ne_nil (spelled_text_ne_nil (h c List.mem_cons_self))
          have hx' := spelled_text_ne_slash (h c List.mem_cons_self)
          rw [hx] at hx' ⊢
          simpa [List.intercalate_cons_cons] using hx'
      have hsegs := segments_intercalate _ hno (by simp)
      rw [← hofc] at hsegs
      rw [components_of_relative habs _ _ hsegs,
        segmentComponent_text (h c List.mem_cons_self),
        filterMap_segmentComponent_text false _ (fun d hd => h d (List.mem_cons_of_mem c hd))]
      rfl

/-! ## Normal form -/

theorem canonical_nil : Canonical [] := ⟨[], [], rfl, by simp, by simp⟩

/-- One step of `normalize` keeps the list canonical. -/
theorem pushComponent_canonical {acc : List Component} {c : Component} (hacc : Canonical acc)
    (hc : c.Inner) : Canonical (pushComponent acc c) := by
  obtain ⟨pre, names, rfl, hpre, hnames⟩ := hacc
  rcases hc with rfl | hc
  · exact ⟨pre, names, rfl, hpre, hnames⟩
  cases c with
  | parent =>
    rcases List.eq_nil_or_concat names with rfl | ⟨init, n, rfl⟩
    · -- no name to take back: the `..` meets the root or another `..`
      simp only [List.mem_cons, List.not_mem_nil, or_false] at hpre
      rcases hpre with rfl | rfl | rfl | rfl
      · exact ⟨[.parent], [], rfl, by simp, by simp⟩
      · exact ⟨[.root, .parent], [], rfl, by simp, by simp⟩
      · exact canonical_nil
      · exact ⟨[.root], [], rfl, by simp, by simp⟩
    · refine ⟨pre, init, ?_, hpre, fun m hm => hnames m (by simp [hm])⟩
      simp [pushComponent, List.reverse_append]
  | normal n =>
    refine ⟨pre, names ++ [n], by simp [pushComponent], hpre, ?_⟩
    intro m hm
    rcases List.mem_append.mp hm with hm | hm
    · exact hnames m hm
    · rw [List.mem_singleton.mp hm]
      exact hc
  | root => exact hc.elim
  | current => exact hc.elim

theorem foldl_pushComponent_canonical :
    ∀ (cs acc : List Component), Canonical acc → (∀ c ∈ cs, c.Inner) →
      Canonical (cs.foldl pushComponent acc) := by
  intro cs
  induction cs with
  | nil => exact fun _ hacc _ => hacc
  | cons c cs ih =>
    intro acc hacc h
    exact ih _ (pushComponent_canonical hacc (h c List.mem_cons_self))
      (fun d hd => h d (List.mem_cons_of_mem c hd))

/-- What `normalize` folds a path's components into is canonical. -/
theorem canonical_foldl_components (p : Path) :
    Canonical (p.components.foldl pushComponent []) := by
  rcases components_shape p with ⟨cs, hcs, hinner⟩ | hinner
  · rw [hcs, List.foldl_cons]
    exact foldl_pushComponent_canonical cs _ ⟨[.root], [], rfl, by simp, by simp⟩ hinner
  · exact foldl_pushComponent_canonical _ _ canonical_nil hinner

theorem foldl_pushComponent_names :
    ∀ (names : List String) (acc : List Component),
      (names.map Component.normal).foldl pushComponent acc = acc ++ names.map Component.normal := by
  intro names
  induction names with
  | nil => simp
  | cons n names ih =>
    intro acc
    simp [pushComponent, ih]

/-- Folding a canonical list again changes nothing. -/
theorem foldl_pushComponent_of_canonical {cs : List Component} (hcs : Canonical cs) :
    cs.foldl pushComponent [] = cs := by
  obtain ⟨pre, names, rfl, hpre, -⟩ := hcs
  rw [List.foldl_append, foldl_pushComponent_names]
  simp only [List.mem_cons, List.not_mem_nil, or_false] at hpre
  rcases hpre with rfl | rfl | rfl | rfl <;> rfl

/-- A canonical list reads back unchanged from its text. -/
theorem components_ofComponents {cs : List Component} (hcs : Canonical cs) :
    (ofComponents cs).components = cs := by
  obtain ⟨pre, names, rfl, hpre, hnames⟩ := hcs
  have hspelled : ∀ c ∈ names.map Component.normal, c.Spelled := by
    intro c hc
    obtain ⟨n, hn, rfl⟩ := List.mem_map.mp hc
    exact hnames n hn
  have hparent : ∀ c ∈ Component.parent :: names.map Component.normal, c.Spelled := by
    intro c hc
    rcases List.mem_cons.mp hc with rfl | hc
    · trivial
    · exact hspelled c hc
  simp only [List.mem_cons, List.not_mem_nil, or_false] at hpre
  rcases hpre with rfl | rfl | rfl | rfl
  · exact (components_ofComponents_of_spelled _ hspelled).2
  · exact (components_ofComponents_of_spelled _ hspelled).1
  · exact (components_ofComponents_of_spelled _ hparent).2
  · exact (components_ofComponents_of_spelled _ hparent).1

theorem components_normalize (p : Path) :
    p.normalize.components = p.components.foldl pushComponent [] :=
  components_ofComponents (canonical_foldl_components p)

@[simp]
theorem normalize_normalize (p : Path) : p.normalize.normalize = p.normalize := by
  calc p.normalize.normalize
      = ofComponents (p.normalize.components.foldl pushComponent []) := rfl
    _ = ofComponents (p.components.foldl pushComponent []) := by
      rw [components_normalize, foldl_pushComponent_of_canonical (canonical_foldl_components p)]
    _ = p.normalize := rfl

@[simp]
theorem resolve_normalize (base p : Path) : (resolve base p).normalize = resolve base p := by
  unfold resolve
  split <;> exact normalize_normalize _

/-! ## Equal paths -/

theorem beq_iff_components {a b : Path} : (a == b) = true ↔ a.components = b.components :=
  show (a.components == b.components) = true ↔ _ from beq_iff_eq

@[simp]
theorem beq_self (a : Path) : (a == a) = true := beq_iff_components.mpr rfl

theorem beq_comm (a b : Path) : (a == b) = (b == a) := by
  cases h : (b == a)
  · cases h' : (a == b)
    · rfl
    · exact absurd (beq_iff_components.mpr (beq_iff_components.mp h').symm) (by simp [h])
  · exact beq_iff_components.mpr (beq_iff_components.mp h).symm

theorem beq_trans {a b c : Path} (h₁ : (a == b) = true) (h₂ : (b == c) = true) : (a == c) = true :=
  beq_iff_components.mpr ((beq_iff_components.mp h₁).trans (beq_iff_components.mp h₂))

/-- Comparing with either of two equal paths gives one answer. -/
theorem beq_congr_right {a b : Path} (h : (a == b) = true) (c : Path) : (c == a) = (c == b) := by
  show (c.components == a.components) = (c.components == b.components)
  rw [beq_iff_components.mp h]

/-- Paths equal as paths normalize to one text. -/
theorem normalize_eq_of_beq {a b : Path} (h : (a == b) = true) : a.normalize = b.normalize := by
  unfold normalize
  rw [beq_iff_components.mp h]

theorem beq_normalize_iff {a b : Path} : (a.normalize == b.normalize) = true ↔ a.normalize = b.normalize := by
  constructor
  · intro h
    rw [← normalize_normalize a, ← normalize_normalize b]
    exact normalize_eq_of_beq h
  · intro h
    rw [h]
    exact beq_iff_components.mpr rfl

end Path
end TestTransform
