/-
Reading a project file with the bases it extends.

`readFrom` reads a file and then, depth first and in the order named, every base its `extends`
names, threading one list of the files read so far through the whole walk: a file met again is
reported as a cycle. The list is never cut back when a branch is done, so a base that two
branches share, or that one file names twice, is met again too and reported as a cycle, though
no file reaches itself.

`Unfolds store path c files` is the reading without that list: the file loads, the bases it
names resolve and unfold in turn, and `c` is the file over its bases folded in order; `files` is
every file read, depth first, with repeats. The main statements:

* `read_eq_ok_iff_unfolds`: reading gives `c` exactly when an unfolding to `c` reads no file
  twice;
* `unfolds_unique` and `unfolds_acyclic`: a file unfolds in one way only, and never when a cycle
  is reachable from it;
* `read_error_cases`: every other failure is a cycle report or the failure of a file that the
  walk reaches, so when all of them load, a diamond is reported as a cycle.

`read_extends_unfolding` puts the four together.
-/
import TestTransform.Config.TsConfig
import TestTransform.Proofs.ImportClosure

namespace TestTransform

/-! ## Bases are read at normalized paths -/

namespace Path

theorem normalize_ofComponents {cs : List Component} (hcs : Canonical cs) :
    (ofComponents cs).normalize = ofComponents cs := by
  unfold normalize
  rw [components_ofComponents hcs, foldl_pushComponent_of_canonical hcs]

theorem intercalate_append_last (l : List String) (a s : String) :
    "/".intercalate (l ++ [a]) ++ s = "/".intercalate (l ++ [a ++ s]) := by
  cases l with
  | nil => simp [String.intercalate_singleton]
  | cons b l =>
    rw [String.intercalate_append_of_ne_nil (by simp) (by simp),
      String.intercalate_append_of_ne_nil (by simp) (by simp)]
    simp [String.intercalate_singleton, String.append_assoc]

/-- Text added to a path's last name is text added to its written form. -/
theorem ofComponents_append_name (cs : List Component) (n s : String) :
    (ofComponents (cs ++ [.normal n])).text ++ s = (ofComponents (cs ++ [.normal (n ++ s)])).text := by
  cases cs with
  | nil => simp [ofComponents, Component.text]
  | cons c cs =>
    cases c with
    | root =>
      show "/" ++ "/".intercalate ((cs ++ [Component.normal n]).map Component.text) ++ s =
        "/" ++ "/".intercalate ((cs ++ [Component.normal (n ++ s)]).map Component.text)
      simp only [List.map_append, List.map_cons, List.map_nil, Component.text]
      rw [String.append_assoc, intercalate_append_last]
    | _ =>
      show "/".intercalate (((_ :: cs) ++ [Component.normal n]).map Component.text) ++ s =
        "/".intercalate (((_ :: cs) ++ [Component.normal (n ++ s)]).map Component.text)
      simp only [List.map_append, List.map_cons, List.map_nil, Component.text]
      exact intercalate_append_last _ _ _

theorem IsName.append_json {n : String} (h : IsName n) : IsName (n ++ ".json") := by
  obtain ⟨-, -, -, hslash⟩ := h
  have hlen : (n ++ ".json").length ≥ 5 := by
    have : ".json".length = 5 := by decide
    simp [this]
  refine ⟨fun he => ?_, fun he => ?_, fun he => ?_, by simp [hslash]⟩
  all_goals
    rw [he] at hlen
    exact absurd hlen (by decide)

/-- A canonical path with `.json` written after it is canonical again. -/
theorem canonical_append_json {cs : List Component} (hcs : Canonical cs) :
    ∃ cs', Canonical cs' ∧ ofComponents cs' = ⟨(ofComponents cs).text ++ ".json"⟩ := by
  obtain ⟨pre, names, rfl, hpre, hnames⟩ := hcs
  have hjson : IsName ".json" := by unfold IsName; decide
  have hdots : IsName (".." ++ ".json") := by unfold IsName; decide
  rcases List.eq_nil_or_concat names with rfl | ⟨init, n, rfl⟩
  · -- no name: the suffix becomes a name of its own, or joins a lone `..`
    simp only [List.mem_cons, List.not_mem_nil, or_false] at hpre
    rcases hpre with rfl | rfl | rfl | rfl
    · exact ⟨[.normal ".json"], ⟨[], [".json"], rfl, by simp, by simpa using hjson⟩,
        by simp [ofComponents, Component.text]⟩
    · exact ⟨[.root, .normal ".json"], ⟨[.root], [".json"], rfl, by simp, by simpa using hjson⟩,
        by simp [ofComponents, Component.text]⟩
    · exact ⟨[.normal (".." ++ ".json")], ⟨[], [".." ++ ".json"], rfl, by simp, by simpa using hdots⟩,
        by simp [ofComponents, Component.text]⟩
    · exact ⟨[.root, .normal (".." ++ ".json")],
        ⟨[.root], [".." ++ ".json"], rfl, by simp, by simpa using hdots⟩,
        by simp [ofComponents, Component.text]⟩
  · -- the suffix extends the last name
    refine ⟨pre ++ (init ++ [n ++ ".json"]).map .normal, ⟨pre, init ++ [n ++ ".json"], rfl, hpre, ?_⟩, ?_⟩
    · intro m hm
      rcases List.mem_append.mp hm with hm | hm
      · exact hnames m (by simp [hm])
      · rw [List.mem_singleton.mp hm]
        exact (hnames n (by simp)).append_json
    · have h := ofComponents_append_name (pre ++ init.map .normal) n ".json"
      simp only [List.concat_eq_append, List.append_assoc, List.map_append, List.map_cons,
        List.map_nil] at h ⊢
      rw [h]

end Path

namespace Config
namespace TsConfig

open Json

theorem withJson_normalize {p : Path} (hp : p.normalize = p) :
    (withJson p).normalize = withJson p := by
  unfold withJson
  split
  · exact hp
  · obtain ⟨cs', hcs', htext⟩ := Path.canonical_append_json (Path.canonical_foldl_components p)
    have hp' : Path.ofComponents (p.components.foldl Path.pushComponent []) = p := hp
    rw [hp'] at htext
    rw [← htext]
    exact Path.normalize_ofComponents hcs'

/-- A base is always found at a normalized path. -/
theorem resolveBase_normalize {store : FileStore} {dir : Path} {spec : String} {b : Path}
    (h : resolveBase store dir spec = .ok b) : b.normalize = b := by
  unfold resolveBase at h
  split at h
  · dsimp only at h
    split at h
    · cases h
      exact withJson_normalize (Path.resolve_normalize _ _)
    · cases h
  · dsimp only at h
    split at h
    · cases h
      exact Path.normalize_normalize _
    · cases h

/-! ## One step of the reading -/

/-- A project file read, parsed and checked against its shape, failing as the reading does. -/
def load (store : FileStore) (path : Path) : Except ConfigError Decoded := do
  let source ← (store.read path).mapError (fun e => ConfigError.io path e.message)
  let value ← (Value.readCommented source).mapError (fun e => ConfigError.invalidJson path e.message)
  (shape.decode value).mapError (fun f => ConfigError.invalidJson path f.message)

/-- One base named in `extends`, read after those before it and folded in. -/
def readBase (store : FileStore) (dir : Path) (fuel : Nat) (acc : TsConfig × List Path)
    (spec : String) : Except ConfigError (TsConfig × List Path) := do
  let basePath ← resolveBase store dir spec
  let (base, visited) ← readFrom store fuel basePath acc.2
  pure (foldBase acc.1 base, visited)

theorem readFrom_succ (store : FileStore) (fuel : Nat) (path : Path) (visited : List Path) :
    readFrom store (fuel + 1) path visited =
      if visited.any (· == path) then .error (.extendsCycle path)
      else (do
        let d ← load store path
        let r ← (basesOf (d.field 0)).foldlM (readBase store (path.parent.getD ⟨"/"⟩) fuel)
          ({ (default : TsConfig) with path := path }, path :: visited)
        pure (overBases (own store path d) r.1, r.2)) := by
  simp only [readFrom]
  split
  · rfl
  · simp only [load, bind_assoc]
    rfl


/-! ## Folds in the error monad -/

theorem except_bind_eq_error {ε α β : Type} {x : Except ε α} {f : α → Except ε β} {e : ε} :
    (x >>= f) = .error e ↔ x = .error e ∨ ∃ a, x = .ok a ∧ f a = .error e := by
  cases x with
  | error e' => simp [bind, Except.bind]
  | ok a => simp [bind, Except.bind]

/-- A map in the error monad succeeds exactly when each item does. -/
theorem mapM_eq_ok_iff {ε α β : Type} {f : α → Except ε β} :
    ∀ (l : List α) (out : List β), l.mapM f = .ok out ↔ List.Forall₂ (fun a b => f a = .ok b) l out := by
  intro l
  induction l with
  | nil => intro out; cases out <;> simp [pure, Except.pure]
  | cons a l ih =>
    intro out
    rw [List.mapM_cons]
    cases out with
    | nil => simp [except_bind_eq_ok, pure, Except.pure]
    | cons b out =>
      rw [List.forall₂_cons, ← ih]
      simp only [except_bind_eq_ok, pure, Except.pure, Except.ok.injEq, List.cons.injEq]
      constructor
      · rintro ⟨b', hb', bs, hbs, rfl, rfl⟩
        exact ⟨hb', hbs⟩
      · rintro ⟨hb, hbs⟩
        exact ⟨b, hb, out, hbs, rfl, rfl⟩

theorem forall₂_exists_of_mem_left {α β : Type} {R : α → β → Prop} :
    ∀ {l : List α} {out : List β}, List.Forall₂ R l out → ∀ x ∈ l, ∃ y ∈ out, R x y
  | _, _, .nil => by simp
  | _, _, .cons hxy h => by
    intro x hx
    rcases List.mem_cons.mp hx with rfl | hx
    · exact ⟨_, List.mem_cons_self, hxy⟩
    · obtain ⟨y, hy, hr⟩ := forall₂_exists_of_mem_left h x hx
      exact ⟨y, List.mem_cons_of_mem _ hy, hr⟩

theorem forall₂_exists_of_mem_right {α β : Type} {R : α → β → Prop} :
    ∀ {l : List α} {out : List β}, List.Forall₂ R l out → ∀ y ∈ out, ∃ x ∈ l, R x y
  | _, _, .nil => by simp
  | _, _, .cons hxy h => by
    intro y hy
    rcases List.mem_cons.mp hy with rfl | hy
    · exact ⟨_, List.mem_cons_self, hxy⟩
    · obtain ⟨x, hx, hr⟩ := forall₂_exists_of_mem_right h y hy
      exact ⟨x, List.mem_cons_of_mem _ hx, hr⟩

section Reading

variable {store : FileStore} {dir : Path} {fuel : Nat}

theorem readBase_eq_ok {acc : TsConfig × List Path} {spec : String} {r : TsConfig × List Path} :
    readBase store dir fuel acc spec = .ok r ↔
      ∃ b base v, resolveBase store dir spec = .ok b ∧ readFrom store fuel b acc.2 = .ok (base, v) ∧
        r = (foldBase acc.1 base, v) := by
  unfold readBase
  simp only [except_bind_eq_ok, pure, Except.pure, Except.ok.injEq]
  constructor
  · rintro ⟨b, hb, ⟨base, v⟩, hread, rfl⟩
    exact ⟨b, base, v, hb, hread, rfl⟩
  · rintro ⟨b, base, v, hb, hread, rfl⟩
    exact ⟨b, hb, (base, v), hread, rfl⟩

theorem readBase_eq_error {acc : TsConfig × List Path} {spec : String} {e : ConfigError} :
    readBase store dir fuel acc spec = .error e →
      resolveBase store dir spec = .error e ∨
        ∃ b, resolveBase store dir spec = .ok b ∧ readFrom store fuel b acc.2 = .error e := by
  unfold readBase
  intro h
  rcases except_bind_eq_error.mp h with h | ⟨b, hb, h⟩
  · exact .inl h
  · rcases except_bind_eq_error.mp h with h | ⟨_, _, h⟩
    · exact .inr ⟨b, hb, h⟩
    · cases h

end Reading

/-! ## Unfolding a project file -/

/-- `Unfolds store path c files`: the project file at `path` loads, the bases it names resolve
against its directory, each base unfolds in turn, and `c` is the file over its bases folded in the
order named. `files` lists every file read, depth first: a file read on two branches is listed
twice. -/
inductive Unfolds (store : FileStore) : Path → TsConfig → List Path → Prop
  | file {path : Path} {d : Decoded} (bases : List (Path × TsConfig × List Path)) :
      load store path = .ok d →
      (basesOf (d.field 0)).mapM (resolveBase store (path.parent.getD ⟨"/"⟩)) =
        .ok (bases.map (·.1)) →
      (∀ b ∈ bases, Unfolds store b.1 b.2.1 b.2.2) →
      Unfolds store path
        (overBases (own store path d)
          ((bases.map (·.2.1)).foldl foldBase { (default : TsConfig) with path := path }))
        (path :: (bases.map (·.2.2)).flatten)

/-- `path` names `base` in its `extends`. -/
def Extends (store : FileStore) (path base : Path) : Prop :=
  ∃ d, load store path = .ok d ∧
    ∃ spec ∈ basesOf (d.field 0), resolveBase store (path.parent.getD ⟨"/"⟩) spec = .ok base

/-- Reading the file at `path` fails with `e` on its own account: it does not load, or a base it
names cannot be found. -/
def FailsWith (store : FileStore) (path : Path) (e : ConfigError) : Prop :=
  load store path = .error e ∨
    ∃ d, load store path = .ok d ∧
      ∃ spec ∈ basesOf (d.field 0), resolveBase store (path.parent.getD ⟨"/"⟩) spec = .error e

/-! ## A successful reading is an unfolding that repeats no file -/

section Sound

variable {store : FileStore} {dir : Path} {fuel : Nat}

/-- The bases of one file, read one after another with the list of files read so far, unfold
each in turn; the list grows by the files each reads, and none of them was read before. -/
theorem foldlM_readBase_ok
    (hread : ∀ path visited c v, visited.Nodup → readFrom store fuel path visited = .ok (c, v) →
      ∃ files, Unfolds store path c files ∧ v = files.reverse ++ visited ∧ (files ++ visited).Nodup) :
    ∀ (specs : List String) (acc : TsConfig) (visited : List Path) (r : TsConfig × List Path),
      visited.Nodup → specs.foldlM (readBase store dir fuel) (acc, visited) = .ok r →
      ∃ bases : List (Path × TsConfig × List Path),
        specs.mapM (resolveBase store dir) = .ok (bases.map (·.1)) ∧
        (∀ b ∈ bases, Unfolds store b.1 b.2.1 b.2.2) ∧
        r = ((bases.map (·.2.1)).foldl foldBase acc,
          (bases.map (·.2.2)).flatten.reverse ++ visited) ∧
        ((bases.map (·.2.2)).flatten ++ visited).Nodup := by
  intro specs
  induction specs with
  | nil =>
    intro acc visited r hv h
    cases h
    exact ⟨[], rfl, by simp, by simp, by simpa using hv⟩
  | cons spec specs ih =>
    intro acc visited r hv h
    rw [List.foldlM_cons, except_bind_eq_ok] at h
    obtain ⟨r₁, h₁, hrest⟩ := h
    obtain ⟨b, base, v₁, hb, hbase, rfl⟩ := readBase_eq_ok.mp h₁
    obtain ⟨files, hfiles, rfl, hnodup⟩ := hread b visited base v₁ hv hbase
    have hv₁ : (files.reverse ++ visited).Nodup :=
      ((List.reverse_perm files).append_right visited).nodup_iff.mpr hnodup
    obtain ⟨bases, hmap, hsub, rfl, hnodup'⟩ := ih _ _ _ hv₁ hrest
    refine ⟨(b, base, files) :: bases, ?_, ?_, ?_, ?_⟩
    · rw [List.mapM_cons, hb, hmap]
      rfl
    · intro x hx
      rcases List.mem_cons.mp hx with rfl | hx
      · exact hfiles
      · exact hsub x hx
    · simp
    · -- the same files in another order
      have hperm : ((files ++ (bases.map (·.2.2)).flatten) ++ visited).Perm
          ((bases.map (·.2.2)).flatten ++ (files.reverse ++ visited)) := by
        rw [← List.append_assoc]
        refine List.Perm.append_right visited ?_
        exact List.perm_append_comm.trans
          (List.Perm.append_left _ (List.reverse_perm files).symm)
      simpa using hperm.nodup_iff.mpr hnodup'

/-- A reading that succeeds is an unfolding; the files it read, newest first, are added to the
list, and none of them is read twice or was read before. -/
theorem readFrom_ok : ∀ (fuel : Nat) (path : Path) (visited : List Path) (c : TsConfig)
    (v : List Path), visited.Nodup → readFrom store fuel path visited = .ok (c, v) →
    ∃ files, Unfolds store path c files ∧ v = files.reverse ++ visited ∧ (files ++ visited).Nodup
  | 0, _, _, _, _, _, h => by cases h
  | fuel + 1, path, visited, c, v, hv, h => by
    rw [readFrom_succ] at h
    split at h
    · cases h
    · rename_i hfresh
      have hpath : path ∉ visited := fun hm =>
        hfresh (List.any_eq_true.mpr ⟨path, hm, Path.beq_self path⟩)
      rw [except_bind_eq_ok] at h
      obtain ⟨d, hd, h⟩ := h
      rw [except_bind_eq_ok] at h
      obtain ⟨r, hr, h⟩ := h
      simp only [pure, Except.pure, Except.ok.injEq, Prod.mk.injEq] at h
      obtain ⟨rfl, rfl⟩ := h
      obtain ⟨bases, hmap, hsub, rfl, hnodup⟩ :=
        foldlM_readBase_ok (readFrom_ok fuel) _ _ _ _ (List.nodup_cons.mpr ⟨hpath, hv⟩) hr
      refine ⟨path :: (bases.map (·.2.2)).flatten, .file bases hd hmap hsub, by simp, ?_⟩
      exact List.perm_middle.nodup_iff.mp hnodup

end Sound

/-! ## An unfolding that repeats no file is read -/

section Complete

variable {store : FileStore} {dir : Path} {fuel : Nat}

theorem hasFile_of_load {path : Path} {d : Decoded} (h : load store path = .ok d) :
    store.hasFile path = true := by
  unfold load at h
  obtain ⟨source, hsource, -⟩ := except_bind_eq_ok.mp h
  exact FileStore.hasFile_of_read (except_mapError_eq_ok.mp hsource)

/-- Every file an unfolding from a normalized path reads is stored, at a normalized path. -/
theorem unfolds_files {path : Path} {c : TsConfig} {files : List Path}
    (h : Unfolds store path c files) :
    path.normalize = path → ∀ q ∈ files, q.normalize = q ∧ store.hasFile q = true := by
  induction h with
  | @file path d bases hd hmap _ ih =>
    intro hp q hq
    rcases List.mem_cons.mp hq with rfl | hq
    · exact ⟨hp, hasFile_of_load hd⟩
    · obtain ⟨fs, hfs, hq⟩ := List.mem_flatten.mp hq
      obtain ⟨b, hb, rfl⟩ := List.mem_map.mp hfs
      -- a base path is what some name resolved to
      obtain ⟨spec, -, hspec⟩ :=
        forall₂_exists_of_mem_right ((mapM_eq_ok_iff _ _).mp hmap) b.1 (List.mem_map_of_mem hb)
      exact ih b hb (resolveBase_normalize hspec) q hq

/-- Distinct normalized paths of stored files are no more than the stored files. -/
theorem length_le_paths {files : List Path} (hnodup : files.Nodup)
    (h : ∀ q ∈ files, q.normalize = q ∧ store.hasFile q = true) :
    files.length ≤ store.paths.length := by
  have hsub : files ⊆ store.paths.map Path.normalize := by
    intro q hq
    obtain ⟨hn, hf⟩ := h q hq
    obtain ⟨p, hp, hpq⟩ := FileStore.exists_path_of_hasFile hf
    refine List.mem_map.mpr ⟨p, hp, ?_⟩
    rw [Path.normalize_eq_of_beq hpq, Path.normalize_normalize, hn]
  calc files.length ≤ (store.paths.map Path.normalize).length := (hnodup.subperm hsub).length_le
    _ = store.paths.length := List.length_map _

/-- Among normalized paths the walk's comparison is equality. -/
theorem any_beq_eq_false {visited : List Path} {path : Path} (hpath : path ∉ visited)
    (hnorm : ∀ q ∈ path :: visited, q.normalize = q) : visited.any (· == path) = false := by
  refine List.any_eq_false.mpr fun q hq hbeq => hpath ?_
  rw [← Path.eq_of_beq_normalized hbeq (hnorm q (List.mem_cons_of_mem _ hq))
    (hnorm path List.mem_cons_self)]
  exact hq

/-- Bases that unfold without meeting a file read before are read one after another. -/
theorem foldlM_readBase_of_unfolds :
    ∀ (bases : List (Path × TsConfig × List Path)) (specs : List String) (acc : TsConfig)
      (visited : List Path),
      (∀ b ∈ bases, ∀ visited, b.2.2.length ≤ fuel → (b.2.2 ++ visited).Nodup →
        (∀ q ∈ b.2.2 ++ visited, q.normalize = q) →
        readFrom store fuel b.1 visited = .ok (b.2.1, b.2.2.reverse ++ visited)) →
      specs.mapM (resolveBase store dir) = .ok (bases.map (·.1)) →
      (∀ b ∈ bases, b.2.2.length ≤ fuel) →
      ((bases.map (·.2.2)).flatten ++ visited).Nodup →
      (∀ q ∈ (bases.map (·.2.2)).flatten ++ visited, q.normalize = q) →
      specs.foldlM (readBase store dir fuel) (acc, visited) =
        .ok ((bases.map (·.2.1)).foldl foldBase acc, (bases.map (·.2.2)).flatten.reverse ++ visited) := by
  intro bases
  induction bases with
  | nil =>
    intro specs acc visited _ hmap _ _ _
    cases (mapM_eq_ok_iff _ _).mp hmap
    rfl
  | cons b bases ih =>
    intro specs acc visited hread hmap hlen hnodup hnorm
    obtain ⟨spec, specs, hspec, hrest, rfl⟩ :=
      List.forall₂_cons_right_iff.mp ((mapM_eq_ok_iff _ _).mp hmap)
    simp only [List.map_cons, List.flatten_cons, List.append_assoc] at hnodup hnorm
    -- the first base is read against the list so far, the others against the list it leaves
    have hfirst : (b.2.2 ++ visited).Nodup :=
      hnodup.sublist ((List.sublist_append_right _ _).append_left _)
    have hperm : (b.2.2 ++ ((bases.map (·.2.2)).flatten ++ visited)).Perm
        ((bases.map (·.2.2)).flatten ++ (b.2.2.reverse ++ visited)) := by
      rw [← List.append_assoc, ← List.append_assoc]
      refine List.Perm.append_right visited ?_
      exact List.perm_append_comm.trans (List.Perm.append_left _ (List.reverse_perm _).symm)
    have hb := hread b List.mem_cons_self visited (hlen b List.mem_cons_self) hfirst
      (fun q hq => hnorm q (by simp only [List.mem_append] at hq ⊢; tauto))
    have h₁ : readBase store dir fuel (acc, visited) spec =
        .ok (foldBase acc b.2.1, b.2.2.reverse ++ visited) :=
      readBase_eq_ok.mpr ⟨b.1, b.2.1, _, hspec, hb, rfl⟩
    rw [List.foldlM_cons, h₁, except_ok_bind,
      ih specs _ _ (fun b' hb' => hread b' (List.mem_cons_of_mem _ hb'))
        ((mapM_eq_ok_iff _ _).mpr hrest) (fun b' hb' => hlen b' (List.mem_cons_of_mem _ hb'))
        (hperm.nodup_iff.mp hnodup)
        (fun q hq => hnorm q (by simp only [List.mem_append, List.mem_reverse] at hq ⊢; tauto))]
    simp

/-- An unfolding that meets no file read before is what the reading gives, once the fuel covers
the files it reads. -/
theorem readFrom_of_unfolds {path : Path} {c : TsConfig} {files : List Path}
    (h : Unfolds store path c files) :
    ∀ (fuel : Nat) (visited : List Path), files.length ≤ fuel → (files ++ visited).Nodup →
      (∀ q ∈ files ++ visited, q.normalize = q) →
      readFrom store fuel path visited = .ok (c, files.reverse ++ visited) := by
  induction h with
  | @file path d bases hd hmap _ ih =>
    intro fuel visited hlen hnodup hnorm
    obtain ⟨fuel, rfl⟩ : ∃ n, fuel = n + 1 := ⟨fuel - 1, by simp at hlen; omega⟩
    have hpath : path ∉ visited := fun hm =>
      (List.nodup_cons.mp hnodup).1 (List.mem_append_right _ hm)
    have hlen' : ∀ b ∈ bases, b.2.2.length ≤ fuel := by
      intro b hb
      have hmem : b.2.2 ∈ bases.map (·.2.2) := List.mem_map.mpr ⟨b, hb, rfl⟩
      have hsub : b.2.2.length ≤ (bases.map (·.2.2)).flatten.length :=
        (List.sublist_flatten_of_mem hmem).length_le
      simp only [List.length_cons] at hlen
      omega
    rw [readFrom_succ, if_neg (by
      rw [any_beq_eq_false hpath (fun q hq => hnorm q (by simp at hq ⊢; tauto))]
      simp)]
    rw [hd, except_ok_bind, foldlM_readBase_of_unfolds bases _ _ _ (fun b hb => ih b hb fuel) hmap hlen'
      (List.perm_middle.nodup_iff.mpr hnodup)
      (fun q hq => hnorm q (by simp only [List.mem_append, List.mem_cons] at hq ⊢; tauto))]
    simp

end Complete

/-! ## Reading a project file -/

section Read

variable {store : FileStore}

/-- Reading gives `c` exactly when the file unfolds to `c` reading no file twice. -/
theorem read_eq_ok_iff_unfolds (path : Path) (c : TsConfig) :
    read store path = .ok c ↔ ∃ files, Unfolds store path.normalize c files ∧ files.Nodup := by
  constructor
  · intro h
    unfold read at h
    cases hr : readFrom store (store.paths.length + 1) path.normalize [] with
    | error e => rw [hr] at h; cases h
    | ok r =>
      rw [hr] at h
      cases h
      obtain ⟨files, hu, -, hnodup⟩ := readFrom_ok _ _ _ _ _ List.nodup_nil hr
      exact ⟨files, hu, by simpa using hnodup⟩
  · rintro ⟨files, hu, hnodup⟩
    have hfiles := unfolds_files hu (Path.normalize_normalize path)
    have hlen := length_le_paths hnodup hfiles
    unfold read
    rw [readFrom_of_unfolds hu _ [] (by omega) (by simpa using hnodup)
      (by simpa using fun q hq => (hfiles q hq).1)]
    rfl

end Read

/-! ## One unfolding, and none through a cycle -/

section Shape

variable {store : FileStore}

theorem bases_eq_of_unique :
    ∀ (bases bases' : List (Path × TsConfig × List Path)),
      bases'.map (·.1) = bases.map (·.1) →
      (∀ b ∈ bases, ∀ {c files}, Unfolds store b.1 c files → c = b.2.1 ∧ files = b.2.2) →
      (∀ b ∈ bases', Unfolds store b.1 b.2.1 b.2.2) → bases' = bases
  | [], [], _, _, _ => rfl
  | [], _ :: _, h, _, _ => by simp at h
  | _ :: _, [], h, _, _ => by simp at h
  | b :: bases, b' :: bases', h, hu, hu' => by
    simp only [List.map_cons, List.cons.injEq] at h
    obtain ⟨hpath, hrest⟩ := h
    obtain ⟨hc, hfiles⟩ := hu b List.mem_cons_self (hpath ▸ hu' b' List.mem_cons_self)
    rw [bases_eq_of_unique bases bases' hrest (fun x hx => hu x (List.mem_cons_of_mem _ hx))
      (fun x hx => hu' x (List.mem_cons_of_mem _ hx))]
    obtain ⟨p, c, fs⟩ := b'
    simp only at hpath hc hfiles
    rw [hpath, hc, hfiles]

/-- A file unfolds in one way only: loading and resolving are functions of the store. -/
theorem unfolds_unique {path : Path} {c : TsConfig} {files : List Path}
    (h : Unfolds store path c files) :
    ∀ {c' files'}, Unfolds store path c' files' → c' = c ∧ files' = files := by
  induction h with
  | @file path d bases hd hmap _ ih =>
    intro c' files' h'
    cases h' with
    | file bases' hd' hmap' hsub' =>
      rw [hd] at hd'
      cases hd'
      rw [hmap] at hmap'
      have hfst := (Except.ok.inj hmap').symm
      obtain rfl := bases_eq_of_unique bases bases' hfst ih hsub'
      exact ⟨rfl, rfl⟩

/-- No cycle of bases is within reach of a file that unfolds: the unfolding is finite and each
step along `Extends` enters the unfolding of a base. -/
theorem unfolds_acyclic {path : Path} {c : TsConfig} {files : List Path}
    (h : Unfolds store path c files) :
    ∀ q, Relation.ReflTransGen (Extends store) path q → ¬ Relation.TransGen (Extends store) q q := by
  induction h with
  | @file path d bases hd hmap _ ih =>
    -- every file `path` names is one of the bases it unfolds through
    have hnext : ∀ r, Extends store path r → ∃ b ∈ bases, b.1 = r := by
      rintro r ⟨d', hd', spec, hspec, hr⟩
      rw [hd] at hd'
      cases hd'
      obtain ⟨r', hr', hres⟩ :=
        forall₂_exists_of_mem_left ((mapM_eq_ok_iff _ _).mp hmap) spec hspec
      rw [hr] at hres
      cases hres
      obtain ⟨b, hb, rfl⟩ := List.mem_map.mp hr'
      exact ⟨b, hb, rfl⟩
    intro q hq hcyc
    rcases hq.cases_head with rfl | ⟨r, hr, hrq⟩
    · -- a cycle through the file itself leaves it by one of its bases and comes back
      obtain ⟨r, hr, hrq⟩ := Relation.TransGen.head'_iff.mp hcyc
      obtain ⟨b, hb, rfl⟩ := hnext r hr
      exact ih b hb _ hrq hcyc
    · obtain ⟨b, hb, rfl⟩ := hnext r hr
      exact ih b hb q hrq hcyc

end Shape

/-! ## How a reading fails -/

section Failure

variable {store : FileStore} {fuel : Nat}

/-- A failure among the bases of `path` is a cycle report, a name of `path` that does not
resolve, or the failure of a file reached through a base. -/
theorem foldlM_readBase_error {path : Path} {d : Decoded} (hd : load store path = .ok d)
    (hread : ∀ b visited e, readFrom store fuel b visited = .error e →
      (∃ q, e = .extendsCycle q) ∨
        ∃ q, Relation.ReflTransGen (Extends store) b q ∧ FailsWith store q e) :
    ∀ (specs : List String), (∀ spec ∈ specs, spec ∈ basesOf (d.field 0)) →
      ∀ (acc : TsConfig × List Path) (e : ConfigError),
        specs.foldlM (readBase store (path.parent.getD ⟨"/"⟩) fuel) acc = .error e →
        (∃ q, e = .extendsCycle q) ∨
          ∃ q, Relation.ReflTransGen (Extends store) path q ∧ FailsWith store q e := by
  intro specs
  induction specs with
  | nil =>
    intro _ acc e h
    cases h
  | cons spec specs ih =>
    intro hspecs acc e h
    have hspec := hspecs spec List.mem_cons_self
    rw [List.foldlM_cons] at h
    rcases except_bind_eq_error.mp h with h | ⟨r, -, h⟩
    · rcases readBase_eq_error h with h | ⟨b, hb, h⟩
      · exact .inr ⟨path, .refl, .inr ⟨d, hd, spec, hspec, h⟩⟩
      · rcases hread b _ e h with hc | ⟨q, hq, hf⟩
        · exact .inl hc
        · exact .inr ⟨q, .head ⟨d, hd, spec, hspec, hb⟩ hq, hf⟩
    · exact ih (fun s hs => hspecs s (List.mem_cons_of_mem _ hs)) r e h

theorem readFrom_error : ∀ (fuel : Nat) (path : Path) (visited : List Path) (e : ConfigError),
    readFrom store fuel path visited = .error e →
    (∃ q, e = .extendsCycle q) ∨
      ∃ q, Relation.ReflTransGen (Extends store) path q ∧ FailsWith store q e
  | 0, path, _, e, h => by
    cases h
    exact .inl ⟨path, rfl⟩
  | fuel + 1, path, visited, e, h => by
    rw [readFrom_succ] at h
    split at h
    · cases h
      exact .inl ⟨path, rfl⟩
    · rcases except_bind_eq_error.mp h with h | ⟨d, hd, h⟩
      · exact .inr ⟨path, .refl, .inl h⟩
      · rcases except_bind_eq_error.mp h with h | ⟨_, _, h⟩
        · exact foldlM_readBase_error hd (readFrom_error fuel) _ (fun _ hs => hs) _ e h
        · cases h

/-- Reading fails only by reporting a cycle or by the failure of a file the walk reaches. -/
theorem read_error_cases (path : Path) (e : ConfigError) (h : read store path = .error e) :
    (∃ q, e = .extendsCycle q) ∨
      ∃ q, Relation.ReflTransGen (Extends store) path.normalize q ∧ FailsWith store q e := by
  unfold read at h
  cases hr : readFrom store (store.paths.length + 1) path.normalize [] with
  | error e' =>
    rw [hr] at h
    cases h
    exact readFrom_error _ _ _ _ hr
  | ok r =>
    rw [hr] at h
    cases h

end Failure

/-- Reading a project file with what it extends. It gives `c` exactly when the file unfolds to
`c` reading no file twice. An unfolding that reads some file twice, as when two bases share a base
or one base is named twice, is never read, nor is a file from which a cycle of bases is within
reach. Every other failure is a cycle report or the failure of a file the walk reaches; so when
all of those load, a shared base is reported as a cycle. -/
theorem read_extends_unfolding (store : FileStore) (path : Path) :
    (∀ c, read store path = .ok c ↔ ∃ files, Unfolds store path.normalize c files ∧ files.Nodup) ∧
    (∀ c files, Unfolds store path.normalize c files → ¬ files.Nodup →
      ∀ c', read store path ≠ .ok c') ∧
    (∀ q, Relation.ReflTransGen (Extends store) path.normalize q →
      Relation.TransGen (Extends store) q q → ∀ c, read store path ≠ .ok c) ∧
    (∀ e, read store path = .error e → (∃ q, e = .extendsCycle q) ∨
      ∃ q, Relation.ReflTransGen (Extends store) path.normalize q ∧ FailsWith store q e) := by
  refine ⟨read_eq_ok_iff_unfolds path, ?_, ?_, read_error_cases path⟩
  · intro c files hu hrep c' hread
    obtain ⟨files', hu', hnodup⟩ := (read_eq_ok_iff_unfolds path c').mp hread
    obtain ⟨-, rfl⟩ := unfolds_unique hu hu'
    exact hrep hnodup
  · intro q hq hcyc c hread
    obtain ⟨files, hu, -⟩ := (read_eq_ok_iff_unfolds path c).mp hread
    exact unfolds_acyclic hu q hq hcyc

end TsConfig
end Config
end TestTransform
