import TestTransform.Proofs.Modes
import TestTransform.Proofs.PathOrder

/-
The host keeps its version contract.

The host of a type-checking compiler changes in four ways (`Moves`): a text is set, the options
are set, the service reads a script, or an output is stored. Between two moments of any run of
such changes (`Contract`), the project version does not go down, the root files stay and every
tracked script stays tracked; and when the version is the same at both moments, the host shows
the service the same program: the same script names, the same options, the same text and
version for every script tracked at the first, and a script tracked only at the second is a
root file the first already listed, read once since.

A host whose tracked scripts are distinct paths and whose root files are distinct paths
(`Distinct`) lists its scripts strictly ascending, and every change keeps it so. Settings read
from a project list distinct root files, and every compile and every lookup of resolved
modules, the service's reads and checks included, changes its compiler's host by these four
changes alone; so the contract holds over every run of a compiler of built settings
(`host_version_contract`).
-/

namespace TestTransform
namespace Compiler

open Config Standin

namespace FileTable

/-- The paths of the table's records, in the order they were added. -/
def keys (t : FileTable) : List Path := t.entries.map Prod.fst

theorem contains_eq_any (t : FileTable) (p : Path) : t.contains p = t.keys.any (· == p) := by
  unfold contains get? keys
  rw [Option.isSome_map, List.any_map]
  apply Bool.eq_iff_iff.mpr
  simp [List.find?_isSome, Function.comp]

theorem keys_modify (t : FileTable) (p : Path) (f : FileRecord → FileRecord) :
    (t.modify p f).keys = t.keys := by
  unfold modify keys
  rw [List.map_map]
  congr 1
  funext e
  simp only [Function.comp]
  split <;> rfl

/-- Setting a text adds the path at the end when the table does not hold it. -/
theorem keys_update (t : FileTable) (p : Path) (text : String) :
    (t.update p text).2.keys = if t.contains p then t.keys else t.keys ++ [p] := by
  unfold update
  cases hp : t.get? p with
  | some r =>
    have hc : t.contains p = true := by simp [contains, hp]
    rw [if_pos hc]
    dsimp only
    split
    · rfl
    · exact keys_modify t p _
  | none =>
    have hc : t.contains p = false := by simp [contains, hp]
    rw [if_neg (by simp [hc])]
    simp [keys]

theorem contains_of_keys {t t' : FileTable} (h : t'.keys = t.keys) (p : Path) :
    t'.contains p = t.contains p := by
  rw [contains_eq_any, contains_eq_any, h]

theorem contains_update {t : FileTable} {q : Path} (hq : t.contains q = true) (p : Path)
    (text : String) : (t.update p text).2.contains q = true := by
  rw [contains_eq_any, keys_update] at *
  split
  · exact hq
  · rw [List.any_append, hq, Bool.true_or]

end FileTable

namespace ServiceHost

/-! ## Distinct hosts list their scripts strictly ascending -/

/-- No two tracked scripts are one path, and no two root files. -/
structure Distinct (h : ServiceHost) : Prop where
  files : h.files.keys.Pairwise (fun a b => (a == b) = false)
  roots : h.rootFiles.Pairwise (fun a b => (a == b) = false)

/-- A path the table does not hold differs from every path it holds. -/
theorem beq_false_of_not_contains {t : FileTable} {p q : Path} (hp : t.contains p = false)
    (hq : q ∈ t.keys) : (q == p) = false := by
  rw [FileTable.contains_eq_any] at hp
  simpa using List.any_eq_false.mp hp q hq

theorem distinct_keys_update {t : FileTable} (ht : t.keys.Pairwise (fun a b => (a == b) = false))
    (p : Path) (text : String) : (t.update p text).2.keys.Pairwise (fun a b => (a == b) = false) := by
  rw [FileTable.keys_update]
  split
  · exact ht
  · rename_i hp
    refine List.pairwise_append.mpr ⟨ht, List.pairwise_singleton _ _, fun a ha b hb => ?_⟩
    rw [List.mem_singleton.mp hb]
    exact beq_false_of_not_contains (by simpa using hp) ha

theorem mem_scriptFileNames {h : ServiceHost} {p : Path} :
    p ∈ h.scriptFileNames ↔ p ∈ h.files.keys ∨ (p ∈ h.rootFiles ∧ h.files.contains p = false) := by
  unfold scriptFileNames FileTable.paths
  simp [FileTable.keys]

/-- The names a distinct host lists are strictly ascending. -/
theorem Distinct.scriptFileNames_ascending {h : ServiceHost} (hd : h.Distinct) :
    h.scriptFileNames.Pairwise (fun a b => compare a b = .lt) := by
  have hsymm : ∀ {a b : Path}, (a == b) = false → (b == a) = false := fun hab => by
    rw [Path.beq_comm]; exact hab
  -- the list sorted is the tracked paths and the root files not tracked, no two of them equal
  have hlist : (h.files.paths ++ h.rootFiles.filter (fun f => !h.files.contains f)).Pairwise
      (fun a b => (a == b) = false) := by
    refine List.pairwise_append.mpr ⟨?_, hd.roots.filter _, fun a ha b hb => ?_⟩
    · exact ((sortBy_perm _).pairwise_iff hsymm).mpr hd.files
    · have hb' : h.files.contains b = false := by simpa using (List.mem_filter.mp hb).2
      exact beq_false_of_not_contains hb' (mem_sortBy.mp ha)
  exact Path.pairwise_lt_of_sorted (Path.sortBy_sorted _)
    (((sortBy_perm _).pairwise_iff hsymm).mpr hlist)

/-- The components of the names a host lists: those of its tracked paths and its root files. -/
theorem mem_scriptFileNames_components {h : ServiceHost} {cs : List Path.Component} :
    cs ∈ h.scriptFileNames.map Path.components ↔
      (∃ q ∈ h.files.keys, q.components = cs) ∨ ∃ r ∈ h.rootFiles, r.components = cs := by
  constructor
  · intro hcs
    obtain ⟨p, hp, rfl⟩ := List.mem_map.mp hcs
    rcases mem_scriptFileNames.mp hp with hk | ⟨hr, -⟩
    · exact Or.inl ⟨p, hk, rfl⟩
    · exact Or.inr ⟨p, hr, rfl⟩
  · rintro (⟨q, hq, rfl⟩ | ⟨r, hr, rfl⟩)
    · exact List.mem_map_of_mem (mem_scriptFileNames.mpr (Or.inl hq))
    · -- a root file already tracked is listed by its tracked path
      cases hc : h.files.contains r with
      | false => exact List.mem_map_of_mem (mem_scriptFileNames.mpr (Or.inr ⟨hr, hc⟩))
      | true =>
        rw [FileTable.contains_eq_any] at hc
        obtain ⟨q, hq, hqr⟩ := List.any_eq_true.mp hc
        exact List.mem_map.mpr ⟨q, mem_scriptFileNames.mpr (Or.inl hq), Path.beq_iff_components.mp hqr⟩

/-- Lists of paths with the same components hold the same paths up to equality. -/
theorem any_beq_of_components {ps qs : List Path} (h : ps.map Path.components = qs.map Path.components)
    (p : Path) : ps.any (· == p) = qs.any (· == p) := by
  have hany : ∀ rs : List Path, rs.any (· == p) = (rs.map Path.components).any (· == p.components) :=
    fun rs => by rw [List.any_map]; rfl
  rw [hany, hany, h]

/-! ## The contract between two moments -/

/-- The host shows the service the same program at two moments: the same script names, the
same options, every script tracked at the first with the same text and version at the second,
and a script tracked only at the second a root file the first listed, read once. -/
structure SameProgram (h h' : ServiceHost) : Prop where
  names : h'.scriptFileNames.map Path.components = h.scriptFileNames.map Path.components
  options : h'.options = h.options
  kept : ∀ p r, h.files.get? p = some r →
    ∃ r', h'.files.get? p = some r' ∧ r'.text = r.text ∧ r'.version = r.version
  seeded : ∀ p r', h'.files.get? p = some r' → h.files.get? p = none →
    h.isRootFile p = true ∧ h.scriptFileNames.any (· == p) = true ∧ r'.version = 1

theorem SameProgram.refl (h : ServiceHost) : SameProgram h h where
  names := rfl
  options := rfl
  kept _ r hr := ⟨r, hr, rfl, rfl⟩
  seeded _ _ hr hn := by rw [hr] at hn; cases hn

theorem SameProgram.trans {h₁ h₂ h₃ : ServiceHost} (a : SameProgram h₁ h₂) (b : SameProgram h₂ h₃)
    (hroots : h₂.rootFiles = h₁.rootFiles) : SameProgram h₁ h₃ where
  names := b.names.trans a.names
  options := b.options.trans a.options
  kept p r hr := by
    obtain ⟨r₂, hr₂, ht₂, hv₂⟩ := a.kept p r hr
    obtain ⟨r₃, hr₃, ht₃, hv₃⟩ := b.kept p r₂ hr₂
    exact ⟨r₃, hr₃, ht₃.trans ht₂, hv₃.trans hv₂⟩
  seeded p r₃ hr₃ hn₁ := by
    cases hr₂ : h₂.files.get? p with
    | some r₂ =>
      -- read between the first two moments, and kept as it was since
      obtain ⟨hroot, hlisted, hv⟩ := a.seeded p r₂ hr₂ hn₁
      obtain ⟨r₃', hr₃', -, hv₃⟩ := b.kept p r₂ hr₂
      rw [hr₃] at hr₃'
      cases hr₃'
      exact ⟨hroot, hlisted, hv₃.trans hv⟩
    | none =>
      obtain ⟨hroot, hlisted, hv⟩ := b.seeded p r₃ hr₃ hr₂
      refine ⟨?_, ?_, hv⟩
      · unfold isRootFile at hroot ⊢
        rw [← hroots]
        exact hroot
      · rw [← any_beq_of_components a.names]
        exact hlisted

/-- What holds between a moment `h` of the host and a later moment `h'`. -/
structure Contract (h h' : ServiceHost) : Prop where
  version : h.projectVersion ≤ h'.projectVersion
  roots : h'.rootFiles = h.rootFiles
  tracked : ∀ p, h.files.contains p = true → h'.files.contains p = true
  same : h'.projectVersion = h.projectVersion → SameProgram h h'

theorem Contract.refl (h : ServiceHost) : Contract h h :=
  ⟨Nat.le_refl _, rfl, fun _ hp => hp, fun _ => SameProgram.refl h⟩

theorem Contract.trans {h₁ h₂ h₃ : ServiceHost} (a : Contract h₁ h₂) (b : Contract h₂ h₃) :
    Contract h₁ h₃ where
  version := Nat.le_trans a.version b.version
  roots := b.roots.trans a.roots
  tracked p hp := b.tracked p (a.tracked p hp)
  same hv := by
    -- the version cannot have moved in between
    have hv₁ : h₂.projectVersion = h₁.projectVersion := by
      have := a.version
      have := b.version
      omega
    have hv₂ : h₃.projectVersion = h₂.projectVersion := by omega
    exact (a.same hv₁).trans (b.same hv₂) a.roots

/-- A change that moves the version on keeps the contract whatever else it does. -/
theorem Contract.of_version_lt {h h' : ServiceHost} (hv : h.projectVersion < h'.projectVersion)
    (hroots : h'.rootFiles = h.rootFiles)
    (htracked : ∀ p, h.files.contains p = true → h'.files.contains p = true) : Contract h h' :=
  ⟨Nat.le_of_lt hv, hroots, htracked, fun heq => by omega⟩

/-! ## Each change keeps the contract -/

theorem updateFile_contract {h : ServiceHost} (hd : h.Distinct) (p : Path) (text : String) :
    Contract h (h.updateFile p text).2 ∧ (h.updateFile p text).2.Distinct := by
  rw [updateFile_snd]
  refine ⟨?_, distinct_keys_update hd.files p text, hd.roots⟩
  rcases FileTable.update_unchanged_or_dirty h.files p text with hu | ⟨hdirty, -⟩
  · -- the same text: nothing changes
    rw [hu]
    exact Contract.refl h
  · refine Contract.of_version_lt ?_ rfl (fun q hq => FileTable.contains_update hq p text)
    simp [hdirty]

theorem setOptions_contract {h : ServiceHost} (hd : h.Distinct) (o : CompilerOptions) :
    Contract h (h.setOptions o) ∧ (h.setOptions o).Distinct := by
  unfold setOptions
  split
  · exact ⟨Contract.refl h, hd⟩
  · exact ⟨Contract.of_version_lt (by simp) rfl (fun _ hq => hq), hd.files, hd.roots⟩

theorem scriptFileNames_of_keys {h h' : ServiceHost} (hkeys : h'.files.keys = h.files.keys)
    (hroots : h'.rootFiles = h.rootFiles) : h'.scriptFileNames = h.scriptFileNames := by
  have hpaths : h'.files.paths = h.files.paths := by
    show sortBy _ h'.files.keys = sortBy _ h.files.keys
    rw [hkeys]
  have hcontains : (fun f => !h'.files.contains f) = (fun f => !h.files.contains f) := by
    funext f
    rw [FileTable.contains_of_keys hkeys]
  unfold scriptFileNames
  rw [hpaths, hroots, hcontains]

theorem storeOutput_contract {h : ServiceHost} (hd : h.Distinct) (p : Path) (o : Output) :
    Contract h { h with files := h.files.storeOutput p h.projectVersion o } ∧
      ({ h with files := h.files.storeOutput p h.projectVersion o } : ServiceHost).Distinct := by
  have hkeys : (h.files.storeOutput p h.projectVersion o).keys = h.files.keys :=
    FileTable.keys_modify _ _ _
  refine ⟨⟨Nat.le_refl _, rfl, fun q hq => ?_, fun _ => ⟨?_, rfl, fun q r hr => ?_, fun q r hr hn => ?_⟩⟩,
    hkeys ▸ hd.files, hd.roots⟩
  · rw [FileTable.contains_of_keys hkeys]
    exact hq
  · rw [@scriptFileNames_of_keys h { h with files := h.files.storeOutput p h.projectVersion o } hkeys rfl]
  · -- storing an output changes no text and no version
    rw [FileTable.get?_storeOutput, hr]
    split
    · exact ⟨_, rfl, rfl, rfl⟩
    · exact ⟨r, rfl, rfl, rfl⟩
  · rw [FileTable.get?_storeOutput, hn] at hr
    split at hr <;> cases hr

/-- Reading a root file for the first time moves nothing on: the program already listed it. -/
theorem readRoot_contract {h : ServiceHost} (hd : h.Distinct) {file : Path} (text : String)
    (hn : h.files.get? file = none) (hroot : h.isRootFile file = true) :
    Contract h { h with files := (h.files.update file text).2 } ∧
      ({ h with files := (h.files.update file text).2 } : ServiceHost).Distinct := by
  have hd' : ({ h with files := (h.files.update file text).2 } : ServiceHost).Distinct :=
    ⟨distinct_keys_update hd.files file text, hd.roots⟩
  have hc : h.files.contains file = false := by simp [FileTable.contains, hn]
  have hkeys : (h.files.update file text).2.keys = h.files.keys ++ [file] := by
    rw [FileTable.keys_update, if_neg (by simp [hc])]
  have hupd : (h.files.update file text).2 = ⟨h.files.entries ++ [(file, ⟨text, 1, none⟩)]⟩ := by
    simp [FileTable.update, hn]
  -- the root file the path is
  obtain ⟨r, hr, hrf⟩ := List.any_eq_true.mp hroot
  have hrc : h.files.contains r = false := by
    rw [FileTable.contains_eq_any, ← FileTable.contains_eq_any, ← hc, FileTable.contains_eq_any,
      FileTable.contains_eq_any]
    congr 1
    funext q
    exact Path.beq_congr_right hrf q
  have hadds := adds_update_new h text hn
  refine ⟨⟨Nat.le_refl _, rfl, fun q hq => FileTable.contains_update hq file text,
    fun _ => ⟨?_, rfl, fun q r₀ hr₀ => ⟨r₀, hadds.kept q r₀ hr₀, rfl, rfl⟩, fun q r' hr' hnq => ?_⟩⟩, hd'⟩
  · -- the same components: the new tracked path is a root file's
    refine Path.components_eq_of_mem_iff hd'.scriptFileNames_ascending hd.scriptFileNames_ascending
      (fun cs => ?_)
    rw [mem_scriptFileNames_components, mem_scriptFileNames_components, hkeys]
    simp only [List.mem_append, List.mem_singleton]
    constructor
    · rintro (⟨q, hq | rfl, rfl⟩ | hroots)
      · exact Or.inl ⟨q, hq, rfl⟩
      · exact Or.inr ⟨r, hr, (Path.beq_iff_components.mp hrf)⟩
      · exact Or.inr hroots
    · rintro (⟨q, hq, rfl⟩ | hroots)
      · exact Or.inl ⟨q, Or.inl hq, rfl⟩
      · exact Or.inr hroots
  · -- the only new record is the root file's, at version 1
    rw [hupd, FileTable.get?_append, hnq] at hr'
    dsimp only at hr'
    by_cases hfq : (file == q) = true
    · rw [if_pos hfq] at hr'
      cases hr'
      refine ⟨List.any_eq_true.mpr ⟨r, hr, Path.beq_trans hrf hfq⟩, ?_, rfl⟩
      exact List.any_eq_true.mpr
        ⟨r, mem_scriptFileNames.mpr (Or.inr ⟨hr, hrc⟩), Path.beq_trans hrf hfq⟩
    · rw [if_neg hfq] at hr'
      cases hr'

theorem snapshot_contract {h : ServiceHost} (hd : h.Distinct) (store : FileStore) (file : Path) :
    Contract h (h.snapshot store file).2 ∧ (h.snapshot store file).2.Distinct := by
  unfold snapshot
  simp only
  cases ht : h.files.text? file.normalize with
  | some t => exact ⟨Contract.refl h, hd⟩
  | none =>
    have hn : h.files.get? file.normalize = none := by
      simpa [FileTable.text?] using ht
    simp only
    split
    · exact ⟨Contract.refl h, hd⟩
    · split
      · exact readRoot_contract hd _ hn ‹_›
      · exact updateFile_contract hd _ _

/-! ## Runs of changes -/

/-- One change to the host. -/
inductive Moves : ServiceHost → ServiceHost → Prop
  | updateFile (h : ServiceHost) (p : Path) (text : String) : Moves h (h.updateFile p text).2
  | setOptions (h : ServiceHost) (o : CompilerOptions) : Moves h (h.setOptions o)
  | read (h : ServiceHost) (store : FileStore) (file : Path) : Moves h (h.snapshot store file).2
  | storeOutput (h : ServiceHost) (p : Path) (o : Output) :
      Moves h { h with files := h.files.storeOutput p h.projectVersion o }

theorem Moves.contract {h h' : ServiceHost} (hm : Moves h h') (hd : h.Distinct) :
    Contract h h' ∧ h'.Distinct := by
  cases hm with
  | updateFile p text => exact updateFile_contract hd p text
  | setOptions o => exact setOptions_contract hd o
  | read store file => exact snapshot_contract hd store file
  | storeOutput p o => exact storeOutput_contract hd p o

/-- Between any two moments of a run of changes from a distinct host, the contract holds, and
the host stays distinct. -/
theorem moves_contract {h h' : ServiceHost} (ht : Relation.ReflTransGen Moves h h') (hd : h.Distinct) :
    Contract h h' ∧ h'.Distinct := by
  induction ht with
  | refl => exact ⟨Contract.refl h, hd⟩
  | tail _ hm ih =>
    obtain ⟨hc, hd'⟩ := ih
    obtain ⟨hc', hd''⟩ := hm.contract hd'
    exact ⟨hc.trans hc', hd''⟩

end ServiceHost

/-! ## Settings list distinct root files -/

theorem eraseDups_sublist {α : Type} [BEq α] : ∀ l : List α, l.eraseDups.Sublist l
  | [] => List.Sublist.slnil
  | a :: as => by
    rw [List.eraseDups_cons]
    exact ((eraseDups_sublist _).trans List.filter_sublist).cons_cons a
termination_by l => l.length
decreasing_by exact Nat.lt_succ_of_le (List.length_filter_le _ _)

/-- With its duplicates erased, no two paths of a list are equal. -/
theorem eraseDups_distinct : ∀ ps : List Path, ps.eraseDups.Pairwise (fun a b => (a == b) = false)
  | [] => List.Pairwise.nil
  | a :: as => by
    rw [List.eraseDups_cons]
    refine List.pairwise_cons.mpr ⟨fun b hb => ?_, eraseDups_distinct _⟩
    have hba := (List.mem_filter.mp ((eraseDups_sublist _).subset hb)).2
    rw [Path.beq_comm]
    simpa using hba
termination_by ps => ps.length
decreasing_by exact Nat.lt_succ_of_le (List.length_filter_le _ _)

theorem TsConfig.fileNames_distinct {c : TsConfig} {store : FileStore} {outDir : Option Path}
    {ps : List Path} (h : c.fileNames store outDir = .ok ps) :
    ps.Pairwise (fun a b => (a == b) = false) := by
  revert h
  unfold TsConfig.fileNames TsConfig.sortPaths
  simp only [bind, Except.bind, pure, Except.pure]
  repeat' split
  all_goals
    intro h
    first
      | (cases h; done)
      | (injection h with h
         subst h
         exact eraseDups_distinct _)

theorem resolveProject_fileNames_distinct {store : FileStore} {h : HostConfig}
    {source : Option TsConfigSource} {withFileNames : Bool} {P : ResolvedProject}
    (hP : resolveProject store h source withFileNames = .ok P) :
    P.fileNames.Pairwise (fun a b => (a == b) = false) := by
  obtain ⟨_, _, -, -, -, -, -, hnames⟩ := resolveProject_eq_ok hP
  -- the inputs are the project file's list when asked for, and none otherwise
  split at hnames
  · exact TsConfig.fileNames_distinct hnames
  · rw [← Except.ok.inj hnames]
    exact List.Pairwise.nil

/-- Settings built from a project list every root file once. -/
theorem Settings.build_fileNames_distinct {h : HostConfig} {store : FileStore} {modules : Registry}
    {env : Option String} {S : Settings} (hS : Settings.build h store modules env = .ok S) :
    S.fileNames.Pairwise (fun a b => (a == b) = false) := by
  unfold Settings.build at hS
  obtain ⟨codes, -, hS⟩ := except_bind_eq_ok.mp hS
  obtain ⟨_, _, _, _, _, _, -, hproject, -, -, -, -, rfl⟩ := Settings.withEnvCodes_eq_ok hS
  exact resolveProject_fileNames_distinct hproject

/-- A fresh compiler's host is distinct when its settings list distinct root files. -/
theorem CheckedCompiler.start_distinct {s : Settings}
    (hs : s.fileNames.Pairwise (fun a b => (a == b) = false)) (store : FileStore) :
    (CheckedCompiler.start s store).host.Distinct :=
  ⟨List.Pairwise.nil, hs.filter _⟩

/-! ## Every call changes the host by these changes alone -/

namespace CheckedCompiler

section Changes

variable {R : ServiceHost → ServiceHost → Prop} [IsPreorder ServiceHost R]
  (hread : ∀ store h file, R h (h.snapshot store file).2)
  (hupdate : ∀ h p text, R h (h.updateFile p text).2)
include hread hupdate

theorem hostAlong_revalidateDependents (s : Settings) (p : Path) :
    HostAlong R (revalidateDependents s p) := by
  unfold revalidateDependents
  refine hostAlong_bind hostAlong_get (fun ⟨_, c⟩ => hostAlong_forM (fun f => ?_) _)
  refine hostAlong_bind hostAlong_get (fun ⟨w, c'⟩ => ?_)
  dsimp only
  split
  · exact hostAlong_pure _
  · exact hostAlong_bind (hostAlong_modifyHost (fun h => hupdate h _ _))
      (fun _ => hostAlong_typeCheck hread s f)

theorem hostAlong_resolvedModules (s : Settings) (content : String) (path : Path) :
    HostAlong R (resolvedModules s content path) := by
  unfold resolvedModules
  refine hostAlong_bind hostAlong_get (fun ⟨_, c⟩ => ?_)
  dsimp only
  split
  · exact hostAlong_pure _
  · refine hostAlong_bind (hostAlong_modifyHost (fun h => hupdate h _ _)) (fun _ => ?_)
    refine hostAlong_bind (hostAlong_collectImports hread s _) (fun modules => ?_)
    split
    · exact hostAlong_bind (hostAlong_recordModules _ _ _) (fun _ => hostAlong_pure _)
    · exact hostAlong_pure _

variable (hoptions : ∀ h o, R h (h.setOptions o))
  (hstore : ∀ (h : ServiceHost) p o, R h { h with files := h.files.storeOutput p h.projectVersion o })
include hoptions hstore

theorem hostAlong_compile (s : Settings) (content : String) (path : Path) (t : TransformOptions) :
    HostAlong R (compile s content path t) := by
  unfold compile
  refine hostAlong_bind
    (hostAlong_modifyHost (fun h => trans_of R (hoptions h _) (hupdate _ _ _))) (fun _ => ?_)
  refine hostAlong_bind hostAlong_get (fun ⟨_, c⟩ => ?_)
  dsimp only
  split
  · exact hostAlong_pure _
  · refine hostAlong_bind
      (hostAlong_onService s (fun store skipped => along_emitOutput hread store skipped _))
      (fun emit => ?_)
    refine hostAlong_bind (hostAlong_typeCheck hread s _) (fun _ => ?_)
    -- both branches end by storing the output selected from the emit
    split
    · refine hostAlong_bind (hostAlong_collectImports hread s _) (fun _ => ?_)
      refine hostAlong_bind (hostAlong_recordModules _ _ _) (fun _ => ?_)
      exact hostAlong_bind (hostAlong_liftExcept _)
        (fun _ => hostAlong_bind (hostAlong_modifyHost (fun h => hstore h _ _)) (fun _ => hostAlong_pure _))
    · refine hostAlong_bind (hostAlong_revalidateDependents hread hupdate s _) (fun _ => ?_)
      exact hostAlong_bind (hostAlong_liftExcept _)
        (fun _ => hostAlong_bind (hostAlong_modifyHost (fun h => hstore h _ _)) (fun _ => hostAlong_pure _))

end Changes

/-- The calls a runner makes on a type-checking compiler, each in a workspace of its own. -/
inductive Call (s : Settings) : CheckedCompiler → CheckedCompiler → Prop
  | compile (w : Workspace) (c : CheckedCompiler) (content : String) (path : Path)
      (t : TransformOptions) : Call s c ((compile s content path t).run.run (w, c)).2.2
  | resolvedModules (w : Workspace) (c : CheckedCompiler) (content : String) (path : Path) :
      Call s c ((resolvedModules s content path).run.run (w, c)).2.2

/-- Every call changes its compiler's host by a run of changes, whatever its outcome. -/
theorem Call.moves {s : Settings} {c c' : CheckedCompiler} (hc : Call s c c') :
    Relation.ReflTransGen ServiceHost.Moves c.host c'.host := by
  have hread : ∀ store (h : ServiceHost) file,
      Relation.ReflTransGen ServiceHost.Moves h (h.snapshot store file).2 :=
    fun store h file => .single (.read h store file)
  have hupdate : ∀ (h : ServiceHost) p text,
      Relation.ReflTransGen ServiceHost.Moves h (h.updateFile p text).2 :=
    fun h p text => .single (.updateFile h p text)
  cases hc with
  | compile w c content path t =>
    exact hostAlong_compile hread hupdate (fun h o => .single (.setOptions h o))
      (fun h p o => .single (.storeOutput h p o)) s content path t w c
  | resolvedModules w c content path =>
    exact hostAlong_resolvedModules hread hupdate s content path w c

end CheckedCompiler

/-- Over every run of a type-checking compiler of built settings, the host keeps its version
contract. Every compile and every lookup of resolved modules changes the host by a run of the
four changes, the service's reads included; and between any two moments of such a run from the
compiler's start, the project version does not go down, two moments with one version show the
service the same program, and the script names are strictly ascending. -/
theorem host_version_contract {hc : HostConfig} {store : FileStore} {modules : Registry}
    {env : Option String} {s : Settings} (hS : Settings.build hc store modules env = .ok s)
    (store₀ : FileStore) :
    (∀ c c', CheckedCompiler.Call s c c' → Relation.ReflTransGen ServiceHost.Moves c.host c'.host) ∧
      ∀ h₁ h₂, Relation.ReflTransGen ServiceHost.Moves (CheckedCompiler.start s store₀).host h₁ →
        Relation.ReflTransGen ServiceHost.Moves h₁ h₂ →
        ServiceHost.Contract h₁ h₂ ∧ h₂.scriptFileNames.Pairwise (fun a b => compare a b = .lt) := by
  refine ⟨fun _ _ hc => hc.moves, fun h₁ h₂ hrun₁ hrun₂ => ?_⟩
  have hd₀ := CheckedCompiler.start_distinct (Settings.build_fileNames_distinct hS) store₀
  have hd₁ := (ServiceHost.moves_contract hrun₁ hd₀).2
  obtain ⟨hcontract, hd₂⟩ := ServiceHost.moves_contract hrun₂ hd₁
  exact ⟨hcontract, hd₂.scriptFileNames_ascending⟩

/-- The contract for a compiler of a project at /p whose project file lists its two scripts as
root files. -/
theorem listed_roots_version_contract :
    let store : FileStore := .memory [(⟨"/p/tsconfig.json"⟩, ⟨"\x7b\"files\": [\"a.ts\", \"b.ts\"]\x7d", 0⟩),
      (⟨"/p/a.ts"⟩, ⟨"export const a = 1;\n", 0⟩), (⟨"/p/b.ts"⟩, ⟨"export const b = 2;\n", 0⟩)] 0
    ∃ s, Settings.build (HostConfig.ofRoot ⟨"/p"⟩) store ⟨[⟨"typescript", "5.0.0"⟩]⟩ none = .ok s ∧
      s.fileNames.map Path.text = ["/p/a.ts", "/p/b.ts"] ∧
      (∀ c c', CheckedCompiler.Call s c c' → Relation.ReflTransGen ServiceHost.Moves c.host c'.host) ∧
      ∀ h₁ h₂, Relation.ReflTransGen ServiceHost.Moves (CheckedCompiler.start s store).host h₁ →
        Relation.ReflTransGen ServiceHost.Moves h₁ h₂ →
        ServiceHost.Contract h₁ h₂ ∧ h₂.scriptFileNames.Pairwise (fun a b => compare a b = .lt) := by
  intro store
  obtain ⟨s, hS⟩ := except_ok_of_isOk (show (Settings.build (HostConfig.ofRoot ⟨"/p"⟩) store
    ⟨[⟨"typescript", "5.0.0"⟩]⟩ none).isOk = true by decide +kernel)
  have hnames := show (Settings.build (HostConfig.ofRoot ⟨"/p"⟩) store ⟨[⟨"typescript", "5.0.0"⟩]⟩
    none).toOption.map (fun s => s.fileNames.map Path.text) = some ["/p/a.ts", "/p/b.ts"] by decide +kernel
  rw [hS] at hnames
  exact ⟨s, hS, Option.some.inj hnames, host_version_contract hS store⟩

end Compiler
end TestTransform
