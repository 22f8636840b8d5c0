import Mathlib.Logic.Relation
import Mathlib.Data.List.Chain
import TestTransform.Proofs.PathNormal
import TestTransform.Compiler.Host

/-
The lexical normal form of a path.

Read lexically, a `.` says nothing, and neither does a name followed by `..`: dropping the one
and cancelling the pair are the rewrites `LexStep`, and what is left when none applies is a
lexical normal form. Every list of components has exactly one (`existsUnique_lexNormalForm`):
`lexFold`, which reads the list from the left and keeps every `..` it cannot cancel, is not
changed by any rewrite and leaves a list that no rewrite applies to.

`normalize` reads the components the same way except at a `..` that meets a `..` it kept,
which it takes as cancelling that one. It therefore writes the lexical normal form whenever
that keeps at most one `..`: a `..` right after the root stays (`/..` is its own normal form),
and so does a `..` that starts a relative path (`a/../../b` becomes `../b`). Resolving `p`
against `base` writes the normal form of `base` followed by `p` under the same proviso, and the
file store and the compiler's host see a path only through its normal form.

Main statement: `normalize_lexical_normal_form`.
-/

namespace TestTransform
namespace Path

open Relation

/-! ## Lexical rewrites -/

/-- One lexical rewrite of a list of components: a `.` goes, or a name and the `..` right after
it cancel. -/
inductive LexStep : List Component → List Component → Prop
  | current (l r : List Component) : LexStep (l ++ .current :: r) (l ++ r)
  | cancel (l r : List Component) (n : String) : LexStep (l ++ .normal n :: .parent :: r) (l ++ r)

def Component.isNormal : Component → Bool
  | .normal _ => true
  | _ => false

/-- Neighbours that no rewrite joins: anything but a name followed by `..`. -/
def Keeps (a b : Component) : Prop := a.isNormal = false ∨ b ≠ .parent

instance : DecidableRel Keeps := fun _ _ => inferInstanceAs (Decidable (_ ∨ _))

/-- `q` is what is left of `cs` once no lexical rewrite applies. -/
def IsLexNormalForm (cs q : List Component) : Prop :=
  ReflTransGen LexStep cs q ∧ ∀ q', ¬ LexStep q q'

/-- A list no rewrite applies to: no `.`, and no name right before a `..`. -/
def Reduced (cs : List Component) : Prop := .current ∉ cs ∧ cs.IsChain Keeps

theorem irreducible_iff {q : List Component} : (∀ q', ¬ LexStep q q') ↔ Reduced q := by
  constructor
  · intro h
    refine ⟨fun hc => ?_, List.isChain_iff_forall_rel_of_append_cons_cons.mpr ?_⟩
    · obtain ⟨l, r, rfl⟩ := List.append_of_mem hc
      exact h _ (.current l r)
    · rintro a b l r rfl
      by_contra hab
      simp only [Keeps, not_or, not_not] at hab
      obtain ⟨ha, rfl⟩ := hab
      cases a with
      | normal n => exact h _ (.cancel l r n)
      | _ => simp [Component.isNormal] at ha
  · rintro ⟨hcur, hchain⟩ q' hstep
    cases hstep with
    | current l r => exact hcur (by simp)
    | cancel l r n =>
      have hkeeps := (List.isChain_append_cons_cons.mp hchain).2.1
      simp [Keeps, Component.isNormal] at hkeeps

/-! ## Reading from the left -/

/-- One step of the lexical reading: a `.` is skipped, a `..` cancels the name before it and is
kept when there is none, and anything else is kept. -/
def lexPush (out : List Component) : Component → List Component
  | .current => out
  | .parent =>
    match out.getLast? with
    | some (.normal _) => out.dropLast
    | _ => out ++ [.parent]
  | c => out ++ [c]

def lexFold (cs : List Component) : List Component := cs.foldl lexPush []

@[simp]
theorem lexPush_nil_parent : lexPush [] .parent = [.parent] := rfl

theorem lexPush_concat_parent (l : List Component) (b : Component) :
    lexPush (l ++ [b]) .parent = if b.isNormal then l else l ++ [b] ++ [.parent] := by
  cases b <;> simp [lexPush, Component.isNormal]

theorem lexPush_of_ne_parent (out : List Component) {c : Component} (hc : c ≠ .current)
    (hp : c ≠ .parent) : lexPush out c = out ++ [c] := by
  cases c <;> first | rfl | exact absurd rfl hc | exact absurd rfl hp

/-- A rewrite does not change what the reading leaves. -/
theorem foldl_lexPush_of_step {a b : List Component} (h : LexStep a b) (acc : List Component) :
    a.foldl lexPush acc = b.foldl lexPush acc := by
  cases h with
  | current l r => simp [List.foldl_append, lexPush]
  | cancel l r n =>
    have hcancel : lexPush (lexPush (l.foldl lexPush acc) (.normal n)) .parent =
        l.foldl lexPush acc := by
      show lexPush (l.foldl lexPush acc ++ [.normal n]) .parent = _
      simp [lexPush_concat_parent, Component.isNormal]
    simp only [List.foldl_append, List.foldl_cons, hcancel]

theorem lexFold_eq_of_reflTransGen {a b : List Component} (h : ReflTransGen LexStep a b) :
    lexFold a = lexFold b := by
  induction h with
  | refl => rfl
  | tail _ hbc ih => exact ih.trans (foldl_lexPush_of_step hbc [])

/-- One step of the reading is no rewrite or one. -/
theorem reflTransGen_lexPush (acc : List Component) (c : Component) (rest : List Component) :
    ReflTransGen LexStep (acc ++ c :: rest) (lexPush acc c ++ rest) := by
  cases c with
  | current => exact .single (.current acc rest)
  | parent =>
    rcases List.eq_nil_or_concat acc with rfl | ⟨l, b, rfl⟩
    · exact .refl
    · rw [List.concat_eq_append, lexPush_concat_parent]
      cases b with
      | normal n => simpa [Component.isNormal] using ReflTransGen.single (LexStep.cancel l rest n)
      | _ => simpa [Component.isNormal] using ReflTransGen.refl
  | root => simpa [lexPush] using ReflTransGen.refl
  | normal n => simpa [lexPush] using ReflTransGen.refl

/-- What the reading has left, followed by what it has not read yet, is a rewrite of the
whole. -/
theorem reflTransGen_foldl_lexPush (cs : List Component) :
    ∀ acc, ReflTransGen LexStep (acc ++ cs) (cs.foldl lexPush acc) := by
  induction cs with
  | nil => intro acc; simpa using ReflTransGen.refl
  | cons c cs ih =>
    intro acc
    exact (reflTransGen_lexPush acc c cs).trans (ih (lexPush acc c))

theorem current_not_mem_lexPush {out : List Component} (h : .current ∉ out) (c : Component) :
    .current ∉ lexPush out c := by
  cases c with
  | current => exact h
  | parent =>
    rcases List.eq_nil_or_concat out with rfl | ⟨l, b, rfl⟩
    · simp
    · rw [List.concat_eq_append] at h ⊢
      rw [lexPush_concat_parent]
      split
      · exact fun hl => h (List.mem_append_left _ hl)
      · simpa using h
  | root => simpa [lexPush] using h
  | normal n => simpa [lexPush] using h

/-- The reading keeps its output reduced. -/
theorem reduced_lexPush {out : List Component} (h : Reduced out) (c : Component) :
    Reduced (lexPush out c) := by
  refine ⟨current_not_mem_lexPush h.1 c, ?_⟩
  cases c with
  | current => exact h.2
  | parent =>
    rcases List.eq_nil_or_concat out with rfl | ⟨l, b, rfl⟩
    · exact List.isChain_singleton _
    · have hchain := h.2
      rw [List.concat_eq_append] at hchain ⊢
      rw [lexPush_concat_parent]
      split
      · exact hchain.left_of_append
      · next hb => exact hchain.append (List.isChain_singleton _) (by simp [Keeps, hb])
  | root => exact h.2.append (List.isChain_singleton _) (by simp [Keeps])
  | normal n => exact h.2.append (List.isChain_singleton _) (by simp [Keeps])

theorem reduced_foldl_lexPush (cs : List Component) :
    ∀ acc, Reduced acc → Reduced (cs.foldl lexPush acc) := by
  induction cs with
  | nil => exact fun _ h => h
  | cons c cs ih => exact fun acc h => ih _ (reduced_lexPush h c)

/-- Reading a reduced list gives it back. -/
theorem foldl_lexPush_of_reduced (q : List Component) :
    ∀ acc, Reduced (acc ++ q) → q.foldl lexPush acc = acc ++ q := by
  induction q with
  | nil => simp
  | cons c q ih =>
    intro acc h
    have hc : c ≠ .current := fun hc => h.1 (by simp [hc])
    have hpush : lexPush acc c = acc ++ [c] := by
      by_cases hp : c = .parent
      · subst hp
        rcases List.eq_nil_or_concat acc with rfl | ⟨l, b, rfl⟩
        · rfl
        · -- the component before a `..` of a reduced list is no name
          have hkeeps : Keeps b .parent := by
            have := h.2
            simp only [List.concat_eq_append, List.append_assoc, List.singleton_append] at this
            exact (List.isChain_append_cons_cons.mp this).2.1
          have hb : b.isNormal = false := by simpa [Keeps] using hkeeps
          simp [lexPush_concat_parent, hb]
      · exact lexPush_of_ne_parent acc hc hp
    rw [List.foldl_cons, hpush, ih (acc ++ [c]) (by simpa using h)]
    simp

/-! ## The normal form -/

theorem isLexNormalForm_lexFold (cs : List Component) : IsLexNormalForm cs (lexFold cs) :=
  ⟨by simpa [lexFold] using reflTransGen_foldl_lexPush cs [],
    irreducible_iff.mpr (reduced_foldl_lexPush cs [] ⟨by simp, .nil⟩)⟩

theorem eq_lexFold_of_isLexNormalForm {cs q : List Component} (h : IsLexNormalForm cs q) :
    q = lexFold cs := by
  calc q = lexFold q := (foldl_lexPush_of_reduced q [] (by simpa using irreducible_iff.mp h.2)).symm
    _ = lexFold cs := (lexFold_eq_of_reflTransGen h.1).symm

theorem existsUnique_lexNormalForm (cs : List Component) : ∃! q, IsLexNormalForm cs q :=
  ⟨lexFold cs, isLexNormalForm_lexFold cs, fun _ h => eq_lexFold_of_isLexNormalForm h⟩

/-- Rewriting first does not change the normal form. -/
theorem isLexNormalForm_of_reflTransGen {a b q : List Component} (hab : ReflTransGen LexStep a b)
    (h : IsLexNormalForm a q) : IsLexNormalForm b q := by
  rw [eq_lexFold_of_isLexNormalForm h, lexFold_eq_of_reflTransGen hab]
  exact isLexNormalForm_lexFold b

/-! ## Where `normalize` parts from the lexical reading -/

/-- The two readings take a step alike unless a `..` meets a kept `..`. -/
theorem pushComponent_eq_lexPush {out : List Component} {c : Component} (hcur : .current ∉ out)
    (hslip : c = .parent → out.getLast? ≠ some .parent) : pushComponent out c = lexPush out c := by
  cases c with
  | current => rfl
  | parent =>
    rcases List.eq_nil_or_concat out with rfl | ⟨l, b, rfl⟩
    · rfl
    · rw [List.concat_eq_append] at hcur hslip ⊢
      rw [lexPush_concat_parent]
      cases b with
      | root => simp [pushComponent, Component.isNormal]
      | current => simp at hcur
      | parent => simp at hslip
      | normal n => simp [pushComponent, Component.isNormal]
  | root => rfl
  | normal n => rfl

theorem count_parent_le_lexPush (out : List Component) (c : Component) :
    out.count .parent ≤ (lexPush out c).count .parent := by
  cases c with
  | current => exact le_refl _
  | parent =>
    rcases List.eq_nil_or_concat out with rfl | ⟨l, b, rfl⟩
    · simp
    · rw [List.concat_eq_append, lexPush_concat_parent]
      cases b <;> simp [Component.isNormal]
  | root => simp [lexPush]
  | normal n => simp [lexPush]

/-- A `..` the reading keeps stays kept. -/
theorem count_parent_le_foldl_lexPush (cs : List Component) :
    ∀ acc : List Component, acc.count .parent ≤ (cs.foldl lexPush acc).count .parent := by
  induction cs with
  | nil => exact fun _ => le_refl _
  | cons c cs ih => exact fun acc => (count_parent_le_lexPush acc c).trans (ih _)

/-- While the lexical reading keeps at most one `..`, `normalize`'s fold goes with it. -/
theorem foldl_pushComponent_eq_foldl_lexPush (cs : List Component) :
    ∀ acc : List Component, .current ∉ acc → (cs.foldl lexPush acc).count .parent ≤ 1 →
      cs.foldl pushComponent acc = cs.foldl lexPush acc := by
  induction cs with
  | nil => exact fun _ _ _ => rfl
  | cons c cs ih =>
    intro acc hcur hcount
    have hslip : c = .parent → acc.getLast? ≠ some .parent := by
      rintro rfl hlast
      -- the lexical reading keeps both `..`, and kept ones stay
      obtain ⟨l, rfl⟩ := List.getLast?_eq_some_iff.mp hlast
      have htwo : 2 ≤ (lexPush (l ++ [.parent]) .parent).count .parent := by
        simp [lexPush_concat_parent, Component.isNormal]
      have := count_parent_le_foldl_lexPush cs (lexPush (l ++ [.parent]) .parent)
      simp only [List.foldl_cons] at hcount
      omega
    simp only [List.foldl_cons]
    rw [pushComponent_eq_lexPush hcur hslip]
    exact ih _ (current_not_mem_lexPush hcur c) hcount

/-- The text of the lexical normal form, when that keeps at most one `..`. -/
theorem normalize_eq_of_isLexNormalForm {p : Path} {q : List Component}
    (hq : IsLexNormalForm p.components q) (hparent : q.count .parent ≤ 1) :
    p.normalize = ofComponents q := by
  rw [eq_lexFold_of_isLexNormalForm hq] at hparent ⊢
  exact congrArg ofComponents (foldl_pushComponent_eq_foldl_lexPush _ [] (by simp) hparent)

theorem reduced_of_canonical {cs : List Component} (h : Canonical cs) : Reduced cs := by
  obtain ⟨pre, names, rfl, hpre, -⟩ := h
  -- after the first component only names follow, or `..` and then names
  have hnames : ∀ (c : Component) (ns : List String), (c :: ns.map .normal).IsChain Keeps := by
    intro c ns
    refine List.isChain_iff_forall_rel_of_append_cons_cons.mpr ?_
    rintro a b l r hl
    have hb : b ∈ ns.map Component.normal := by
      cases l with
      | nil => simp only [List.nil_append, List.cons.injEq] at hl; simp [hl.2]
      | cons d l =>
        simp only [List.cons_append, List.cons.injEq] at hl
        simp [hl.2]
    obtain ⟨n, -, rfl⟩ := List.mem_map.mp hb
    exact Or.inr (by simp)
  simp only [List.mem_cons, List.not_mem_nil, or_false] at hpre
  rcases hpre with rfl | rfl | rfl | rfl
  · refine ⟨by simp, ?_⟩
    cases names with
    | nil => exact .nil
    | cons n names => simpa using hnames (.normal n) names
  · exact ⟨by simp, by simpa using hnames .root names⟩
  · exact ⟨by simp, by simpa using hnames .parent names⟩
  · refine ⟨by simp, ?_⟩
    simpa [Keeps, Component.isNormal] using hnames .parent names

/-- No rewrite applies to what `normalize` leaves. -/
theorem normalize_irreducible (p : Path) : ∀ q', ¬ LexStep p.normalize.components q' := by
  rw [components_normalize]
  exact irreducible_iff.mpr (reduced_of_canonical (canonical_foldl_components p))

/-! ## Resolving against a base -/

theorem segments_slash (a b : String) :
    (⟨a ++ "/" ++ b⟩ : Path).segments = (⟨a⟩ : Path).segments ++ (⟨b⟩ : Path).segments := by
  have hslash : "/".toList = ['/'] := rfl
  simp [segments, String.toList_append, hslash, List.splitOn_append_cons_self]

/-- The first segment of a relative path counts a `.` that later segments skip. -/
theorem components_of_relative_cases {b : Path} (hb : b.isAbsolute = false) :
    b.components = b.segments.filterMap (segmentComponent false) ∨
      b.components = .current :: b.segments.filterMap (segmentComponent false) := by
  obtain ⟨s, segs, hsegs⟩ := List.exists_cons_of_ne_nil
    (by simp [segments] : b.segments ≠ [])
  rw [components_of_relative hb s segs hsegs, hsegs, List.filterMap_cons]
  by_cases hdot : s = "."
  · subst hdot
    right
    simp [segmentComponent]
  · left
    have hsame : segmentComponent true s = segmentComponent false s := by
      simp [segmentComponent, hdot]
    rw [hsame]
    cases segmentComponent false s <;> rfl

theorem isAbsolute_slash_append (a b : String) :
    (⟨a ++ "/" ++ b⟩ : Path).isAbsolute = (⟨a ++ "/"⟩ : Path).isAbsolute := by
  cases ha : a.toList with
  | nil => simp [isAbsolute, String.toList_append, ha]
  | cons x xs => simp [isAbsolute, String.toList_append, ha]

/-- A slash and a relative path after a text add the relative path's names, `..` and all. -/
theorem components_slash_append (a b : String) :
    (⟨a ++ "/" ++ b⟩ : Path).components =
      (⟨a ++ "/"⟩ : Path).components ++ (⟨b⟩ : Path).segments.filterMap (segmentComponent false) := by
  have hsegs := segments_slash a b
  have hsegs' : (⟨a ++ "/"⟩ : Path).segments = (⟨a⟩ : Path).segments ++ [""] := by
    simpa [segments_empty] using segments_slash a ""
  have habs := isAbsolute_slash_append a b
  have hne : (⟨a⟩ : Path).segments ≠ [] := by simp [segments]
  cases h : (⟨a ++ "/"⟩ : Path).isAbsolute
  · obtain ⟨s, rest, hs⟩ := List.exists_cons_of_ne_nil hne
    rw [components_of_relative (habs.trans h) s (rest ++ (⟨b⟩ : Path).segments) (by rw [hsegs, hs]; rfl),
      components_of_relative h s (rest ++ [""]) (by rw [hsegs', hs]; rfl)]
    simp [segmentComponent]
  · rw [components_of_absolute (habs.trans h), components_of_absolute h, hsegs, hsegs',
      List.drop_append_of_le_length (List.length_pos_iff.mpr hne),
      List.drop_append_of_le_length (List.length_pos_iff.mpr hne)]
    simp [segmentComponent]

/-- A trailing slash adds nothing to a path that is not empty. -/
theorem components_append_slash {a : String} (ha : a ≠ "") :
    (⟨a ++ "/"⟩ : Path).components = (⟨a⟩ : Path).components := by
  have hsegs' : (⟨a ++ "/"⟩ : Path).segments = (⟨a⟩ : Path).segments ++ [""] := by
    simpa [segments_empty] using segments_slash a ""
  have hne : (⟨a⟩ : Path).segments ≠ [] := by simp [segments]
  obtain ⟨x, xs, hx⟩ := List.exists_cons_of_ne_nil (by simpa using ha : a.toList ≠ [])
  have habs : (⟨a ++ "/"⟩ : Path).isAbsolute = (⟨a⟩ : Path).isAbsolute := by
    simp [isAbsolute, String.toList_append, hx]
  cases h : (⟨a⟩ : Path).isAbsolute
  · obtain ⟨s, rest, hs⟩ := List.exists_cons_of_ne_nil hne
    rw [components_of_relative (habs.trans h) s (rest ++ [""]) (by rw [hsegs', hs]; rfl),
      components_of_relative h s rest hs]
    simp [segmentComponent]
  · rw [components_of_absolute (habs.trans h), components_of_absolute h, hsegs',
      List.drop_append_of_le_length (List.length_pos_iff.mpr hne)]
    simp [segmentComponent]

theorem components_empty : (⟨""⟩ : Path).components = [] := by
  simp [components, indexedComponents, isAbsolute, segments_empty, segmentComponent]

/-- Joining a relative path to a base lists the base's components and then its own, up to the
`.` it may start with. -/
theorem reflTransGen_join (base p : Path) (hp : p.isAbsolute = false) :
    ReflTransGen LexStep (base.components ++ p.components) (join base p).components := by
  have hsteps : ReflTransGen LexStep (base.components ++ p.components)
      (base.components ++ p.segments.filterMap (segmentComponent false)) := by
    rcases components_of_relative_cases hp with h | h
    · rw [h]
    · rw [h]
      exact .single (.current _ _)
  by_cases hempty : base.text = ""
  · have hbase : base = ⟨""⟩ := by cases base; simp_all
    subst hbase
    simpa [join, hp, components_empty] using ReflTransGen.refl
  by_cases hslash : base.text.endsWith "/" = true
  · -- the base already ends in a slash
    have hsuffix := hslash
    rw [← String.endsWith_toSlice, String.Slice.endsWith_string_iff] at hsuffix
    obtain ⟨pre, hpre⟩ := hsuffix
    have htext : base.text = String.ofList pre ++ "/" := by
      apply String.toList_injective
      simpa [String.toList_append] using hpre.symm
    have hjoin : join base p = ⟨String.ofList pre ++ "/" ++ p.text⟩ := by
      rw [join, if_neg (by simp [hp]), if_pos (by simp [hslash]), htext]
    have hbase : base = ⟨String.ofList pre ++ "/"⟩ := by cases base; simp_all
    rw [hjoin, components_slash_append, ← hbase]
    exact hsteps
  · have hjoin : join base p = ⟨base.text ++ "/" ++ p.text⟩ := by
      simp [join, hp, hempty, hslash]
    rw [hjoin, components_slash_append, components_append_slash hempty]
    exact hsteps

/-- Resolving writes the lexical normal form of the base followed by the path (or of the path
alone when it is absolute), when that keeps at most one `..`. -/
theorem resolve_eq_of_isLexNormalForm {base p : Path} {q : List Component}
    (hq : IsLexNormalForm (if p.isAbsolute then p.components else base.components ++ p.components) q)
    (hparent : q.count .parent ≤ 1) : resolve base p = ofComponents q := by
  unfold resolve
  by_cases habs : p.isAbsolute = true
  · rw [if_pos habs] at hq ⊢
    exact normalize_eq_of_isLexNormalForm hq hparent
  · rw [if_neg habs] at hq ⊢
    exact normalize_eq_of_isLexNormalForm
      (isLexNormalForm_of_reflTransGen (reflTransGen_join base p (by simpa using habs)) hq) hparent

/-! ## Paths seen through their normal form -/

theorem write_normalize (s : FileStore) (p : Path) (c : String) :
    s.write p.normalize c = s.write p c := by
  unfold FileStore.write
  rw [normalize_normalize]

theorem touch_normalize (s : FileStore) (p : Path) : s.touch p.normalize = s.touch p := by
  unfold FileStore.touch
  rw [normalize_normalize]

theorem hasFile_normalize (s : FileStore) (p : Path) : s.hasFile p.normalize = s.hasFile p := by
  unfold FileStore.hasFile
  rw [normalize_normalize]

theorem toOption_read_memory (files : List (Path × StoredFile)) (clock : Nat) (p : Path) :
    ((FileStore.memory files clock).read p).toOption =
      (FileStore.lookup files p.normalize).map StoredFile.content := by
  unfold FileStore.read
  dsimp only
  cases FileStore.lookup files p.normalize <;> rfl

/-- Reading succeeds alike; only a failure names the path as it was given. -/
theorem read_normalize (s : FileStore) (p : Path) :
    (s.read p.normalize).toOption = (s.read p).toOption := by
  cases s with
  | memory files clock => rw [toOption_read_memory, toOption_read_memory, normalize_normalize]
  | disk files dirs =>
    unfold FileStore.read
    dsimp only
    rw [normalize_normalize]

theorem snapshot_normalize (s : FileStore) (h : Compiler.ServiceHost) (p : Path) :
    h.snapshot s p.normalize = h.snapshot s p := by
  unfold Compiler.ServiceHost.snapshot
  rw [normalize_normalize]

theorem fileExists_normalize (s : FileStore) (h : Compiler.ServiceHost) (p : Path) :
    h.fileExists s p.normalize = h.fileExists s p := by
  unfold Compiler.ServiceHost.fileExists
  rw [normalize_normalize]

/-! ## Main statement -/

/-- Every path has one lexical normal form, and `normalize` leaves a list no rewrite applies
to: no `.` and no name before a `..`. It writes the normal form, its `..` after the root or at
the start of a relative path kept, whenever that keeps at most one `..`; normalizing twice is
normalizing once; resolving against a base writes the normal form of the base followed by the
path under the same proviso; and the file store and the compiler's host see every path only
through its normal form. -/
theorem normalize_lexical_normal_form :
    (∀ p : Path, ∃! q, IsLexNormalForm p.components q) ∧
    (∀ p : Path, ∀ q', ¬ LexStep p.normalize.components q') ∧
    (∀ (p : Path) (q : List Component), IsLexNormalForm p.components q →
      q.count .parent ≤ 1 → p.normalize = ofComponents q) ∧
    (∀ p : Path, p.normalize.normalize = p.normalize) ∧
    (∀ (base p : Path) (q : List Component),
      IsLexNormalForm (if p.isAbsolute then p.components else base.components ++ p.components) q →
      q.count .parent ≤ 1 → resolve base p = ofComponents q) ∧
    (∀ (s : FileStore) (h : Compiler.ServiceHost) (p : Path) (c : String),
      s.write p.normalize c = s.write p c ∧ s.touch p.normalize = s.touch p ∧
      s.hasFile p.normalize = s.hasFile p ∧ (s.read p.normalize).toOption = (s.read p).toOption ∧
      h.snapshot s p.normalize = h.snapshot s p ∧ h.fileExists s p.normalize = h.fileExists s p) :=
  ⟨fun p => existsUnique_lexNormalForm p.components,
    normalize_irreducible,
    fun _ _ hq hparent => normalize_eq_of_isLexNormalForm hq hparent,
    normalize_normalize,
    fun _ _ _ hq hparent => resolve_eq_of_isLexNormalForm hq hparent,
    fun s h p c => ⟨write_normalize s p c, touch_normalize s p, hasFile_normalize s p,
      read_normalize s p, snapshot_normalize s h p, fileExists_normalize s h p⟩⟩

/-- Two `..` climb out of one name: `a/../../b` normalizes to `../b`, its lexical normal form. -/
theorem normalize_climbs_past_name :
    IsLexNormalForm (⟨"a/../../b"⟩ : Path).components [.parent, .normal "b"] ∧
      [Component.parent, .normal "b"].count .parent ≤ 1 ∧
      (⟨"a/../../b"⟩ : Path).normalize = ofComponents [.parent, .normal "b"] := by
  have hcs : (⟨"a/../../b"⟩ : Path).components =
      [] ++ .normal "a" :: .parent :: [.parent, .normal "b"] := by decide
  have hq : IsLexNormalForm (⟨"a/../../b"⟩ : Path).components [.parent, .normal "b"] :=
    ⟨hcs ▸ .single (.cancel [] _ "a"), irreducible_iff.mpr ⟨by decide, by decide⟩⟩
  exact ⟨hq, by decide, normalize_lexical_normal_form.2.2.1 _ _ hq (by decide)⟩

/-- A `..` right after the root is kept: `/..` normalizes to itself, not to `/`. -/
theorem normalize_keeps_root_parent :
    (⟨"/.."⟩ : Path).normalize.text = "/.." ∧ (⟨"/.."⟩ : Path).normalize.text ≠ "/" := by
  decide

end Path
end TestTransform
