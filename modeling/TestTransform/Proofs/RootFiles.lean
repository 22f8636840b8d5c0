/-
The root inputs of a project.

`fileNames` lists the files named in `files` that exist, and, when `include` patterns are in
force, the inputs the store lists below the leading directory of each pattern that are not below
the output directory, are matched by an `include` glob (themselves or a directory above them) and
by no `exclude` glob. `include` defaults to every file below the project file's directory only when
neither `include` nor `files` is written. The whole of each pattern, the project's directory
included, is read as a glob: a directory whose name holds `[`, `{`, `*` or `?` is not matched
literally.

The main statement, `fileNames_root_files`: once the patterns compile, the list is strictly
ascending, and as a set of paths (compared as paths compare) it is exactly the union of the files
listed and the inputs picked. In a store in memory the inputs picked below a pattern are its files
below the pattern's leading directories with no `node_modules` between (`picked_memory_iff`).
-/
import TestTransform.Config.TsConfig
import TestTransform.Proofs.HostVersions

namespace TestTransform
namespace Config
namespace TsConfig

open Pattern

/-! ## Sorted path lists -/

/-- Removing later duplicates keeps one equal path for every path of the list. -/
theorem exists_beq_mem_eraseDups : ∀ (l : List Path) (a : Path), a ∈ l →
    ∃ b ∈ l.eraseDups, (b == a) = true
  | [], _, h => absurd h List.not_mem_nil
  | x :: xs, a, h => by
    rw [List.eraseDups_cons]
    by_cases hxa : (x == a) = true
    · exact ⟨x, List.mem_cons_self, hxa⟩
    · rcases List.mem_cons.mp h with rfl | ha
      · exact absurd (Path.beq_self _) hxa
      · -- `a` survives the filter of the paths equal to `x`
        have hkept : a ∈ xs.filter (fun b => !(b == x)) := by
          refine List.mem_filter.mpr ⟨ha, ?_⟩
          rw [Path.beq_comm]
          simpa using hxa
        obtain ⟨b, hb, hba⟩ := exists_beq_mem_eraseDups _ a hkept
        exact ⟨b, List.mem_cons_of_mem _ hb, hba⟩
termination_by l => l.length
decreasing_by exact Nat.lt_succ_of_le (List.length_filter_le _ _)

theorem sortPaths_ascending (l : List Path) :
    (sortPaths l).Pairwise (fun a b => compare a b = .lt) :=
  Path.pairwise_lt_of_sorted ((Path.sortBy_sorted l).sublist (Compiler.eraseDups_sublist _))
    (Compiler.eraseDups_distinct _)

theorem mem_of_mem_sortPaths {l : List Path} {a : Path} (h : a ∈ sortPaths l) : a ∈ l :=
  mem_sortBy.mp ((Compiler.eraseDups_sublist _).subset h)

theorem exists_mem_sortPaths {l : List Path} {a : Path} (h : a ∈ l) :
    ∃ b ∈ sortPaths l, (b == a) = true :=
  exists_beq_mem_eraseDups _ a (mem_sortBy.mpr h)

/-- The files a store lists below a directory depend on the directory as a path only. -/
theorem listFiles_congr {store : FileStore} {a b : Path} (h : (a == b) = true) :
    (store.listFiles a).toOption.getD [] = (store.listFiles b).toOption.getD [] := by
  have hn := Path.normalize_eq_of_beq h
  unfold FileStore.listFiles
  cases store with
  | memory files clock =>
    dsimp only
    rw [hn]
  | disk files dirs =>
    dsimp only
    rw [hn]
    -- the two differ only in the directory an error names
    split
    · rfl
    · split <;> rfl

/-- A store in memory lists below a directory its files that lie below it with no `node_modules`
between. -/
theorem mem_listFiles_memory {files : List (Path × StoredFile)} {clock : Nat} {dir f : Path} :
    f ∈ ((FileStore.memory files clock).listFiles dir).toOption.getD [] ↔
      f ∈ files.map Prod.fst ∧ FileStore.listedBelow dir.normalize f = true := by
  change f ∈ FileStore.sortPaths
    ((files.map Prod.fst).filter (FileStore.listedBelow dir.normalize)) ↔ _
  rw [FileStore.sortPaths, mem_sortBy, List.mem_filter]

/-! ## What a project lists -/

/-- The `include` patterns in force: those written; none when only `files` is written; and
everything below the project file's directory when neither is. -/
def includePatterns (c : TsConfig) : List String :=
  match c.includes, c.files with
  | some ps, _ => ps
  | none, some _ => []
  | none, none => [c.dir.text ++ "/**/*"]

/-- A file named in `files` that exists. -/
def Listed (c : TsConfig) (store : FileStore) (f : Path) : Prop :=
  f ∈ c.files.getD [] ∧ store.hasFile f = true

/-- An input that the store lists below the leading directory of a pattern in force, not below
the output directory, matched within by the `include` globs and not by the `exclude` globs. -/
def Picked (c : TsConfig) (store : FileStore) (outDir : Option Path)
    (includeSet excludeSet : GlobSet) (f : Path) : Prop :=
  ∃ p ∈ c.includePatterns, f ∈ (store.listFiles (patternBase p)).toOption.getD [] ∧
    isInput f = true ∧ (outDir.any fun o => f.startsWith o) = false ∧
    matchesWithin includeSet f = true ∧ matchesWithin excludeSet f = false

/-- In a store in memory, a picked input is one of its files that lies below the leading
directory of a pattern in force with no `node_modules` between, not below the output directory,
and matched within by the `include` globs and not by the `exclude` globs. -/
theorem picked_memory_iff {c : TsConfig} {files : List (Path × StoredFile)} {clock : Nat}
    {outDir : Option Path} {includeSet excludeSet : GlobSet} {f : Path} :
    Picked c (.memory files clock) outDir includeSet excludeSet f ↔
      ∃ p ∈ c.includePatterns, (f ∈ files.map Prod.fst ∧
        FileStore.listedBelow (patternBase p).normalize f = true) ∧ isInput f = true ∧
        (outDir.any fun o => f.startsWith o) = false ∧
        matchesWithin includeSet f = true ∧ matchesWithin excludeSet f = false := by
  unfold Picked
  simp only [mem_listFiles_memory]

theorem fileNames_eq (c : TsConfig) (store : FileStore) (outDir : Option Path) :
    c.fileNames store outDir =
      if c.includePatterns.isEmpty then .ok (sortPaths ((c.files.getD []).filter store.hasFile))
      else (do
        let includeSet ← globs c.includePatterns
        let excludeSet ← globs (c.excludes.getD [])
        let bases := sortPaths (c.includePatterns.map patternBase)
        let found := bases.flatMap (fun b => (store.listFiles b).toOption.getD [])
        pure (sortPaths ((c.files.getD []).filter store.hasFile ++ found.filter (fun f =>
          isInput f && !(outDir.any (fun o => f.startsWith o)) &&
            matchesWithin includeSet f && !matchesWithin excludeSet f)))) := by
  rfl

/-- The root inputs of a project, once its patterns compile: a strictly ascending list that holds
only files listed or picked, and holds every such file (as a path equal to it). -/
theorem fileNames_root_files (c : TsConfig) (store : FileStore) (outDir : Option Path)
    (includeSet excludeSet : GlobSet)
    (hglobs : c.includePatterns = [] ∨
      globs c.includePatterns = .ok includeSet ∧ globs (c.excludes.getD []) = .ok excludeSet) :
    ∃ names, c.fileNames store outDir = .ok names ∧
      names.Pairwise (fun a b => compare a b = .lt) ∧
      (∀ g ∈ names, Listed c store g ∨ Picked c store outDir includeSet excludeSet g) ∧
      (∀ f, Listed c store f ∨ Picked c store outDir includeSet excludeSet f →
        ∃ g ∈ names, (g == f) = true) := by
  rw [fileNames_eq]
  by_cases hempty : c.includePatterns = []
  · -- only the listed files
    rw [if_pos (by simp [hempty])]
    refine ⟨_, rfl, sortPaths_ascending _, fun g hg => .inl ?_, fun f hf => ?_⟩
    · exact List.mem_filter.mp (mem_of_mem_sortPaths hg)
    · rcases hf with ⟨hf, hs⟩ | ⟨p, hp, -⟩
      · exact exists_mem_sortPaths (List.mem_filter.mpr ⟨hf, hs⟩)
      · rw [hempty] at hp
        cases hp
  · obtain ⟨hi, he⟩ := hglobs.resolve_left hempty
    rw [if_neg (by simpa using hempty), hi, he]
    refine ⟨_, rfl, sortPaths_ascending _, ?_, ?_⟩
    · intro g hg
      rcases List.mem_append.mp (mem_of_mem_sortPaths hg) with hg | hg
      · exact .inl (List.mem_filter.mp hg)
      · -- a picked input: found below the base of a pattern, and kept by the filters
        obtain ⟨hfound, hkeep⟩ := List.mem_filter.mp hg
        obtain ⟨b, hb, hgb⟩ := List.mem_flatMap.mp hfound
        obtain ⟨p, hp, rfl⟩ := List.mem_map.mp (mem_of_mem_sortPaths hb)
        simp only [Bool.and_eq_true, Bool.not_eq_eq_eq_not, Bool.not_true] at hkeep
        obtain ⟨⟨⟨hinput, hout⟩, hin⟩, hex⟩ := hkeep
        exact .inr ⟨p, hp, hgb, hinput, hout, hin, hex⟩
    · rintro f (⟨hf, hs⟩ | ⟨p, hp, hlist, hinput, hout, hin, hex⟩)
      · exact exists_mem_sortPaths (List.mem_append_left _ (List.mem_filter.mpr ⟨hf, hs⟩))
      · -- the base of `p` is listed once among the bases, as a path equal to it
        obtain ⟨b, hb, hbp⟩ := exists_mem_sortPaths (List.mem_map_of_mem hp)
        have hfound : f ∈ (sortPaths (c.includePatterns.map patternBase)).flatMap
            (fun b => (store.listFiles b).toOption.getD []) :=
          List.mem_flatMap.mpr ⟨b, hb, (listFiles_congr hbp).symm ▸ hlist⟩
        refine exists_mem_sortPaths (List.mem_append_right _ (List.mem_filter.mpr ⟨hfound, ?_⟩))
        simp [hinput, hout, hin, hex]

/-- A project including everything below `src`: its patterns compile, so its root inputs are
those the statement gives. -/
theorem fileNames_root_files_src :
    ∃ includeSet excludeSet,
      (globs ["/p/src/**/*"] = .ok includeSet ∧ globs [] = .ok excludeSet) ∧
      ∃ names,
        (⟨⟨"/p/tsconfig.json"⟩, [], some ["/p/src/**/*"], none, none, []⟩ : TsConfig).fileNames
          (.memory [(⟨"/p/src/a.ts"⟩, ⟨"export const a = 1;\n", 1⟩)] 1) none = .ok names ∧
        names.Pairwise (fun a b => compare a b = .lt) ∧
        (∀ g ∈ names,
          Listed ⟨⟨"/p/tsconfig.json"⟩, [], some ["/p/src/**/*"], none, none, []⟩
            (.memory [(⟨"/p/src/a.ts"⟩, ⟨"export const a = 1;\n", 1⟩)] 1) g ∨
          Picked ⟨⟨"/p/tsconfig.json"⟩, [], some ["/p/src/**/*"], none, none, []⟩
            (.memory [(⟨"/p/src/a.ts"⟩, ⟨"export const a = 1;\n", 1⟩)] 1) none includeSet
            excludeSet g) ∧
        (∀ f,
          Listed ⟨⟨"/p/tsconfig.json"⟩, [], some ["/p/src/**/*"], none, none, []⟩
            (.memory [(⟨"/p/src/a.ts"⟩, ⟨"export const a = 1;\n", 1⟩)] 1) f ∨
          Picked ⟨⟨"/p/tsconfig.json"⟩, [], some ["/p/src/**/*"], none, none, []⟩
            (.memory [(⟨"/p/src/a.ts"⟩, ⟨"export const a = 1;\n", 1⟩)] 1) none includeSet
            excludeSet f →
          ∃ g ∈ names, (g == f) = true) :=
  ⟨_, _, ⟨rfl, rfl⟩, fileNames_root_files _ _ _ _ _ (.inr ⟨rfl, rfl⟩)⟩

end TsConfig
end Config
end TestTransform
