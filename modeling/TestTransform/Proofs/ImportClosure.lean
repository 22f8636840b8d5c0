import TestTransform.Proofs.Breadth
import TestTransform.Proofs.CheckedOutputs
import TestTransform.Proofs.InsertionSort

/-
The import walk of a type-checking compiler is a breadth-first closure.

A read of a script only brings into the host's table a file the store holds, with the store's
text, so the service sees the same files before and after it (`ServiceHost.SameView`). Every
file the walk asks about therefore resolves to the modules it resolves to over the host the
walk started with (`ServiceHost.importsOf`), and the walk is a queue walk over fixed edges
(`walkImports_run`): a module is taken when it is neither the root nor below `node_modules`
and was not met before (`enqueue_eq`). Every module resolved is a tracked or stored file, so
the walk's fuel, their number and two, lets it drain its queue. It ends with what the rounds of
a breadth-first search from the root find: the files the root reaches through files outside
`node_modules`, each once, in the order they are first met (`collectImports_breadthFirst`).
-/

namespace TestTransform

/-- A file that can be read is stored. -/
theorem FileStore.hasFile_of_read {store : FileStore} {p : Path} {t : String}
    (h : store.read p = .ok t) : store.hasFile p = true := by
  cases store with
  | memory files clock =>
    unfold FileStore.read at h
    unfold FileStore.hasFile
    cases hl : FileStore.lookup files p.normalize with
    | none => simp [hl] at h
    | some f => simp [hl]
  | disk files dirs =>
    unfold FileStore.read at h
    unfold FileStore.hasFile
    cases hl : FileStore.lookup files p.normalize with
    | some f => simp [hl]
    | none =>
      -- a file the disk does not list reads as a fault
      exfalso
      simp only [hl] at h
      split at h
      · cases h
      · split at h <;> simp_all

/-- A stored file is, as a path, one of the store's paths. -/
theorem FileStore.exists_path_of_hasFile {store : FileStore} {p : Path} (h : store.hasFile p = true) :
    ∃ q ∈ store.paths, (q == p.normalize) = true := by
  have hlookup : ∀ {α : Type} (entries : List (Path × α)), (lookup entries p.normalize).isSome = true →
      ∃ q ∈ sortPaths (entries.map Prod.fst), (q == p.normalize) = true := by
    intro α entries hl
    obtain ⟨e, he⟩ := Option.isSome_iff_exists.mp hl
    obtain ⟨e', hfind, -⟩ := Option.map_eq_some_iff.mp he
    exact ⟨e'.1, mem_sortBy.mpr (List.mem_map_of_mem (List.mem_of_find?_eq_some hfind)),
      by simpa using List.find?_some hfind⟩
  cases store with
  | memory files clock => exact hlookup files h
  | disk files dirs => exact hlookup files h

namespace Compiler

open Config Standin

/-! ## What a read leaves the service seeing -/

namespace ServiceHost

/-- `h'` shows the service what `h` shows: every script reads the same, and the same paths
exist. -/
structure SameView (store : FileStore) (h h' : ServiceHost) : Prop where
  reads : ∀ p, (h'.snapshot store p).1 = (h.snapshot store p).1
  present : ∀ p, h'.fileExists store p = h.fileExists store p

theorem SameView.refl (store : FileStore) (h : ServiceHost) : SameView store h h :=
  ⟨fun _ => rfl, fun _ => rfl⟩

theorem SameView.trans {store : FileStore} {h₁ h₂ h₃ : ServiceHost} (a : SameView store h₁ h₂)
    (b : SameView store h₂ h₃) : SameView store h₁ h₃ :=
  ⟨fun p => (b.reads p).trans (a.reads p), fun p => (b.present p).trans (a.present p)⟩

/-- What a read gives: the table's text, or else the store's. -/
theorem snapshot_fst (store : FileStore) (h : ServiceHost) (p : Path) :
    (h.snapshot store p).1 = match h.files.text? p.normalize with
      | some t => some t
      | none => (store.read p.normalize).toOption := by
  cases ht : h.files.text? p.normalize with
  | some t => simp [snapshot, ht]
  | none =>
    cases hr : store.read p.normalize with
    | error e => simp [snapshot, ht, hr, Except.toOption]
    | ok text =>
      simp only [snapshot, ht, hr]
      split <;> rfl

/-- Reading a script leaves what the service sees as it was: a file enters the table only with
the text the store holds for it. -/
theorem sameView_snapshot (store : FileStore) (h : ServiceHost) (file : Path) :
    SameView store h (h.snapshot store file).2 := by
  cases ht : h.files.text? file.normalize with
  | some t =>
    rw [snapshot_of_text store h ht]
    exact SameView.refl store h
  | none =>
    have hget : h.files.get? file.normalize = none := by simpa [FileTable.text?] using ht
    cases hr : store.read file.normalize with
    | error e =>
      have hsnap : h.snapshot store file = (none, h) := by simp [snapshot, ht, hr]
      rw [hsnap]
      exact SameView.refl store h
    | ok text =>
      have hfiles : (h.snapshot store file).2.files = (h.files.update file.normalize text).2 := by
        simp only [snapshot, ht, hr]
        split <;> rfl
      -- the new table differs from the old one at the read file alone
      have hat : ∀ q : Path, (q.normalize == file.normalize) = true →
          q.normalize = file.normalize ∧
            (h.files.update file.normalize text).2.text? q.normalize = some text := by
        intro q hq
        have hq' := Path.beq_normalize_iff.mp (by simpa using hq)
        obtain ⟨r, hr', hrt⟩ := FileTable.get?_update_self h.files file.normalize text
        refine ⟨by simpa using hq', ?_⟩
        rw [FileTable.text?, FileTable.get?_congr _ hq, hr', Option.map_some, hrt]
      have hoff : ∀ q : Path, (q.normalize == file.normalize) = false →
          (h.files.update file.normalize text).2.get? q.normalize = h.files.get? q.normalize :=
        fun q hq => FileTable.get?_update_of_ne h.files text hq
      refine ⟨fun p => ?_, fun p => ?_⟩
      · rw [snapshot_fst, snapshot_fst, hfiles]
        cases hp : (p.normalize == file.normalize)
        · simp only [FileTable.text?, hoff p hp]
        · obtain ⟨heq, htext⟩ := hat p hp
          rw [htext, heq, ht, hr]
          rfl
      · simp only [fileExists, hfiles, FileTable.contains]
        cases hp : (p.normalize == file.normalize)
        · rw [hoff p hp]
        · obtain ⟨heq, htext⟩ := hat p hp
          have hsome : ((h.files.update file.normalize text).2.get? p.normalize).isSome = true := by
            simpa [FileTable.text?] using congrArg Option.isSome htext
          rw [hsome, heq, hget, FileStore.hasFile_of_read hr]
          rfl

/-- The modules the service resolves for `f` over the host `h`. -/
def importsOf (h : ServiceHost) (store : FileStore) (f : Path) : List Path :=
  ((resolvedModulesOf store f).run ⟨h, none, Stats.zero⟩).1

end ServiceHost

/-! ## Resolving a file's imports -/

namespace Standin

theorem resolveModule_congr {store : FileStore} {h h' : ServiceHost}
    (hv : ∀ p, h'.fileExists store p = h.fileExists store p) :
    resolveModule store h' = resolveModule store h := by
  have hfun : h'.fileExists store = h.fileExists store := funext hv
  funext origin spec
  unfold resolveModule
  rw [hfun]

/-- An import resolves only to a tracked or stored file. -/
theorem fileExists_of_resolveModule {store : FileStore} {h : ServiceHost} {origin : Path}
    {spec : String} {m : Path} (hm : resolveModule store h origin spec = some m) :
    h.fileExists store m = true := by
  unfold resolveModule at hm
  obtain ⟨base, -, hb⟩ := List.exists_of_findSome?_eq_some hm
  split at hb
  · cases hb
    simp_all
  · exact List.find?_some hb

/-- Folding a list into an accumulator only adds what each step adds. -/
theorem mem_foldl_of_step {β : Type} (g : List Path → β → List Path) (P : Path → Prop)
    (hg : ∀ acc b x, x ∈ g acc b → x ∈ acc ∨ P x) :
    ∀ (l : List β) (acc : List Path) (x : Path), x ∈ l.foldl g acc → x ∈ acc ∨ P x := by
  intro l
  induction l with
  | nil => exact fun _ _ hx => Or.inl hx
  | cons b l ih =>
    intro acc x hx
    rcases ih (g acc b) x hx with h | h
    · exact hg acc b x h
    · exact Or.inr h

/-- A read after the counter of program builds reads what the host shows. -/
theorem sync_snapshot_reads (store : FileStore) (f : Path) (t : Service) :
    ((snapshot store f).run (sync.run t).2).1 = (t.host.snapshot store f).1 := by
  rw [show ((snapshot store f).run (sync.run t).2).1 = ((sync.run t).2.host.snapshot store f).1
    from rfl, sync_run_host]

theorem sync_snapshot_sameView (store : FileStore) (f : Path) (t : Service) :
    ServiceHost.SameView store t.host ((snapshot store f).run (sync.run t).2).2.host := by
  rw [show ((snapshot store f).run (sync.run t).2).2.host = ((sync.run t).2.host.snapshot store f).2
    from rfl, sync_run_host]
  exact ServiceHost.sameView_snapshot store t.host f

/-- Over hosts that show the same files, a file resolves to the same modules, and the host is
left showing them still. -/
theorem resolvedModulesOf_sameView (store : FileStore) (f : Path) (s s' : Service)
    (hv : ServiceHost.SameView store s.host s'.host) :
    ((resolvedModulesOf store f).run s').1 = ((resolvedModulesOf store f).run s).1 ∧
      ServiceHost.SameView store s.host ((resolvedModulesOf store f).run s').2.host := by
  unfold resolvedModulesOf
  rw [run_bind, run_bind, run_bind, run_bind, sync_snapshot_reads, sync_snapshot_reads, hv.reads f]
  have hv' := hv.trans (sync_snapshot_sameView store f s')
  have hv₀ := sync_snapshot_sameView store f s
  cases (s.host.snapshot store f).1 with
  | none => exact ⟨rfl, hv'⟩
  | some text =>
    refine ⟨?_, hv'⟩
    show List.foldl _ [] _ = List.foldl _ [] _
    -- the two hosts after the read resolve alike
    rw [resolveModule_congr (fun p => (hv'.present p).trans (hv₀.present p).symm)]

/-- Every module a file resolves to is a tracked or stored file. -/
theorem resolvedModulesOf_present (store : FileStore) (f : Path) (s : Service) :
    ∀ m ∈ ((resolvedModulesOf store f).run s).1, s.host.fileExists store m = true := by
  have hafter := sync_snapshot_sameView store f s
  unfold resolvedModulesOf
  rw [run_bind, run_bind]
  cases ((snapshot store f).run (sync.run s).2).1 with
  | none => intro m hm; simp [StateT.run, pure, StateT.pure] at hm
  | some text =>
    intro m hm
    rw [← hafter.present m]
    -- each module comes from an import that resolved to it
    have houter := mem_foldl_of_step _ _
      (fun acc line x hx => mem_foldl_of_step _
        (fun x => ((snapshot store f).run (sync.run s).2).2.host.fileExists store x = true)
        (fun acc caps x hx => by
          split at hx
          · rename_i m' hm'
            split at hx
            · exact Or.inl hx
            · rcases List.mem_append.mp hx with hx | hx
              · exact Or.inl hx
              · exact Or.inr (List.mem_singleton.mp hx ▸ fileExists_of_resolveModule hm')
          · exact Or.inl hx) _ acc x hx) _ [] m hm
    simpa using houter

end Standin

/-! ## The walk over imports -/

namespace CheckedCompiler

/-- The modules the walk takes from those a file resolves to: normalized, less the root and
anything below `node_modules`. -/
def admitted (root : Path) (ms : List Path) : List Path :=
  (ms.map Path.normalize).filter (fun m => !(m == root) && !isNodeModules m)

/-- The import edges the walk from `root` follows over the host `h`. -/
def importEdges (store : FileStore) (h : ServiceHost) (root f : Path) : List Path :=
  admitted root (h.importsOf store f)

/-- The files `root` reaches through its imports: each step goes from a file outside
`node_modules` (or the root) to a module it imports, normalized. -/
inductive ImportReach (imports : Path → List Path) (root : Path) : Path → Prop
  | direct {x : Path} : x ∈ (imports root).map Path.normalize → ImportReach imports root x
  | through {y x : Path} : ImportReach imports root y → isNodeModules y = false →
      x ∈ (imports y).map Path.normalize → ImportReach imports root x

theorem admitted_cons (root m : Path) (ms : List Path) :
    admitted root (m :: ms) =
      if (m.normalize == root || isNodeModules m.normalize) = true then admitted root ms
      else m.normalize :: admitted root ms := by
  unfold admitted
  rw [List.map_cons, List.filter_cons]
  cases (m.normalize == root) <;> cases isNodeModules m.normalize <;> rfl

/-- `out` is the breadth-first closure of `root`'s imports: what the rounds of a breadth-first
search along the admitted modules find, in that order, once they find nothing more; each path
once, normalized; and exactly the paths other than the root, outside `node_modules`, that the
root reaches through its imports. -/
structure ImportClosure (imports : Path → List Path) (root : Path) (out : List Path) : Prop where
  rounds : ∃ n, (Breadth.rounds (fun f => admitted root (imports f)) root n).2 = [] ∧
    out = (Breadth.rounds (fun f => admitted root (imports f)) root n).1
  nodup : out.Nodup
  normalized : ∀ x ∈ out, x.normalize = x
  mem_iff : ∀ x, x ∈ out ↔ x ≠ root ∧ isNodeModules x = false ∧ ImportReach imports root x

/-- The walk's queue step appends the fresh admitted modules. -/
theorem enqueue_eq (root : Path) (found : List Path) :
    ∀ queue seen : List Path, enqueue root found (queue, seen) =
      (queue ++ Breadth.fresh seen (admitted root found),
        seen ++ Breadth.fresh seen (admitted root found)) := by
  induction found with
  | nil => intro queue seen; simp [enqueue, admitted, Breadth.fresh]
  | cons m found ih =>
    intro queue seen
    unfold enqueue at ih ⊢
    rw [List.foldl_cons, admitted_cons]
    by_cases hskip : (m.normalize == root || isNodeModules m.normalize) = true
    · simp only [hskip, Bool.true_or, if_true]
      exact ih queue seen
    · simp only [Bool.not_eq_true] at hskip
      by_cases hseen : seen.any (· == m.normalize) = true
      · simp only [hskip, hseen, Bool.false_or, if_true, Bool.false_eq_true, if_false, Breadth.fresh]
        exact ih queue seen
      · simp only [Bool.not_eq_true] at hseen
        simp only [hskip, hseen, Bool.false_or, Bool.false_eq_true, if_false, Breadth.fresh]
        rw [ih]
        simp

/-- A step of the service on the compiler's host leaves the workspace's files alone. -/
theorem onService_store {α : Type} (s : Settings) (f : FileStore → List Path → ServiceM α)
    (w : Workspace) (c : CheckedCompiler) :
    ((onService s f).run.run (w, c)).2.1.store = w.store := rfl

/-- Over a host that shows what `h₀` shows, the walk is the queue walk along the import edges
over `h₀`. -/
theorem walkImports_run (s : Settings) (root : Path) {store : FileStore} {h₀ : ServiceHost} :
    ∀ fuel queue seen (w : Workspace) (c : CheckedCompiler), w.store = store →
      ServiceHost.SameView store h₀ c.host →
      ∃ σ, (walkImports s root fuel queue seen).run.run (w, c) =
        (.ok (Breadth.queueWalk (importEdges store h₀ root) fuel queue seen), σ) := by
  intro fuel
  induction fuel with
  | zero => intro queue seen w c _ _; exact ⟨_, rfl⟩
  | succ fuel ih =>
    intro queue seen w c hw hv
    subst hw
    cases queue with
    | nil => exact ⟨_, rfl⟩
    | cons f queue =>
      unfold walkImports
      rw [exceptState_run_bind]
      obtain ⟨w', c', hrun, hhost⟩ := onService_run s (fun store _ => resolvedModulesOf store f) w c
      have hw' : w'.store = w.store := by
        have := onService_store s (fun store _ => resolvedModulesOf store f) w c
        rwa [hrun] at this
      -- the file resolves as over `h₀`, and the host still shows what `h₀` shows
      obtain ⟨hres, hview⟩ := resolvedModulesOf_sameView w.store f ⟨h₀, none, Stats.zero⟩
        ⟨c.host, c.seen, (moduleOf s w).stats⟩ hv
      rw [hrun]
      dsimp only
      rw [hres, enqueue_eq, Breadth.queueWalk]
      exact ih _ _ w' c' hw' (hhost ▸ hview)

/-- The walk from `root` with its fuel is the queue walk along the import edges over the host
it starts with. -/
theorem collectImports_run (s : Settings) (root : Path) (w : Workspace) (c : CheckedCompiler) :
    ∃ σ, (collectImports s root).run.run (w, c) =
      (.ok (Breadth.queueWalk (importEdges w.store c.host root)
        (w.store.paths.length + c.host.files.size + 2) [root] []), σ) := by
  unfold collectImports
  rw [exceptState_run_bind]
  exact walkImports_run s root _ [root] [] w c rfl (ServiceHost.SameView.refl w.store c.host)

/-! ## Where the edges lead -/

/-- The paths a walk over the host `h` can meet: the tracked scripts and the stored files. -/
def candidates (store : FileStore) (h : ServiceHost) : List Path :=
  h.files.entries.map (fun e => e.1.normalize) ++ store.paths.map Path.normalize

theorem mem_importEdges {store : FileStore} {h : ServiceHost} {root f x : Path} :
    x ∈ importEdges store h root f ↔
      x ∈ (h.importsOf store f).map Path.normalize ∧ (x == root) = false ∧ isNodeModules x = false := by
  simp [importEdges, admitted, List.mem_filter]

theorem importEdges_normalized (store : FileStore) (h : ServiceHost) (root : Path) :
    ∀ f, ∀ x ∈ importEdges store h root f, x.normalize = x := by
  intro f x hx
  obtain ⟨x₀, -, rfl⟩ := List.mem_map.mp (mem_importEdges.mp hx).1
  exact Path.normalize_normalize x₀

/-- Every edge leads to a tracked script or a stored file. -/
theorem importEdges_candidates (store : FileStore) (h : ServiceHost) (root : Path) :
    ∀ f, ∀ x ∈ importEdges store h root f, x ∈ candidates store h := by
  intro f x hx
  obtain ⟨x₀, hx₀, rfl⟩ := List.mem_map.mp (mem_importEdges.mp hx).1
  have hex := Standin.resolvedModulesOf_present store f ⟨h, none, Stats.zero⟩ x₀ hx₀
  simp only [ServiceHost.fileExists, Bool.or_eq_true] at hex
  rcases hex with hc | hs
  · -- a tracked script: an entry of the table equal to it as a path
    obtain ⟨r, hr⟩ := Option.isSome_iff_exists.mp hc
    obtain ⟨e, hfind, -⟩ := Option.map_eq_some_iff.mp hr
    have heq : e.1.normalize = x₀.normalize := by
      rw [Path.normalize_eq_of_beq (by simpa using List.find?_some hfind), Path.normalize_normalize]
    exact List.mem_append_left _ (List.mem_map.mpr ⟨e, List.mem_of_find?_eq_some hfind, heq⟩)
  · -- a stored file
    obtain ⟨q, hq, hqx⟩ := FileStore.exists_path_of_hasFile hs
    have heq : q.normalize = x₀.normalize := by
      rw [Path.normalize_eq_of_beq hqx, Path.normalize_normalize, Path.normalize_normalize]
    exact List.mem_append_right _ (List.mem_map.mpr ⟨q, hq, heq⟩)

theorem candidates_length (store : FileStore) (h : ServiceHost) :
    (candidates store h).length = h.files.size + store.paths.length := by
  simp [candidates, FileTable.size]

/-- Along the admitted edges, `root` reaches the paths other than itself, outside
`node_modules`, that it reaches through its imports. -/
theorem reaches_iff_importReach {store : FileStore} {h : ServiceHost} {root : Path}
    (hroot : root.normalize = root) (x : Path) :
    Breadth.Reaches (importEdges store h root) root x ↔
      x ≠ root ∧ isNodeModules x = false ∧ ImportReach (h.importsOf store) root x := by
  -- a module of the root or of a path it reaches is the root, below `node_modules`, or reached
  have hclass : ∀ y z, (y = root ∨ Breadth.Reaches (importEdges store h root) root y) →
      z ∈ (h.importsOf store y).map Path.normalize →
      z = root ∨ isNodeModules z = true ∨ Breadth.Reaches (importEdges store h root) root z := by
    intro y z hy hz
    have hzn : z.normalize = z := by
      obtain ⟨z₀, -, rfl⟩ := List.mem_map.mp hz
      exact Path.normalize_normalize z₀
    by_cases hzr : (z == root) = true
    · exact Or.inl (Path.eq_of_beq_normalized hzr hzn hroot)
    · cases hnm : isNodeModules z
      · have he : z ∈ importEdges store h root y := mem_importEdges.mpr ⟨hz, by simpa using hzr, hnm⟩
        rcases hy with rfl | hy
        · exact Or.inr (Or.inr (.edge he))
        · exact Or.inr (Or.inr (.step hy he))
      · exact Or.inr (Or.inl rfl)
  constructor
  · intro hr
    induction hr with
    | edge hx =>
      obtain ⟨hx, hxr, hnm⟩ := mem_importEdges.mp hx
      exact ⟨fun h => by simp [h] at hxr, hnm, .direct hx⟩
    | step _ hx ih =>
      obtain ⟨hx, hxr, hnm⟩ := mem_importEdges.mp hx
      exact ⟨fun h => by simp [h] at hxr, hnm, .through ih.2.2 ih.2.1 hx⟩
  · rintro ⟨hne, hnm, hir⟩
    have hgen : ∀ z, ImportReach (h.importsOf store) root z →
        z = root ∨ isNodeModules z = true ∨ Breadth.Reaches (importEdges store h root) root z := by
      intro z hz
      induction hz with
      | direct hz => exact hclass root _ (Or.inl rfl) hz
      | through _ hnmy hz ih =>
        rcases ih with hy | hy | hy
        · exact hclass _ _ (Or.inl hy) hz
        · simp [hy] at hnmy
        · exact hclass _ _ (Or.inr hy) hz
    rcases hgen x hir with h | h | h
    · exact absurd h hne
    · simp [h] at hnm
    · exact h

/-! ## The walk is the closure -/

/-- Collecting the imports of a normalized `root`, from any state of the compiler, succeeds and
gives the breadth-first closure of the root's imports over the host it starts with: the walk
ends, meets each path once, in breadth-first order, and meets exactly the files the root
reaches through files outside `node_modules`, the root itself and those below `node_modules`
left out. -/
theorem collectImports_breadthFirst (s : Settings) (w : Workspace) (c : CheckedCompiler)
    {root : Path} (hroot : root.normalize = root) :
    ∃ out σ, (collectImports s root).run.run (w, c) = (.ok out, σ) ∧
      ImportClosure (c.host.importsOf w.store) root out := by
  obtain ⟨σ, hrun⟩ := collectImports_run s root w c
  have hU := importEdges_candidates w.store c.host root
  have hnorm := importEdges_normalized w.store c.host root
  -- the frontier empties within as many rounds as there are paths to meet
  have hend := @Breadth.frontier_universe (importEdges w.store c.host root) root _ hU
  have hlen := @Breadth.found_length_le (importEdges w.store c.host root) root _ hU
    (candidates w.store c.host).length
  have hfuel : w.store.paths.length + c.host.files.size + 2 =
      ((candidates w.store c.host).length + 1 -
        (Breadth.rounds (importEdges w.store c.host root) root (candidates w.store c.host).length).1.length)
        + 1 + (Breadth.rounds (importEdges w.store c.host root) root
          (candidates w.store c.host).length).1.length := by
    rw [candidates_length] at hlen ⊢
    omega
  have hout : Breadth.queueWalk (importEdges w.store c.host root)
      (w.store.paths.length + c.host.files.size + 2) [root] [] =
      (Breadth.rounds (importEdges w.store c.host root) root ((candidates w.store c.host).length + 1)).1 := by
    rw [hfuel, Breadth.queueWalk_rounds, hend, Breadth.queueWalk_nil]
  refine ⟨_, σ, hrun, ⟨⟨_, hend, hout⟩, ?_, ?_, fun x => ?_⟩⟩
  · rw [hout]
    exact Breadth.found_nodup _
  · rw [hout]
    exact Breadth.found_normalized hnorm _
  · rw [hout, Breadth.mem_found_iff hnorm (Breadth.frontier_succ_nil hend) x]
    exact reaches_iff_importReach hroot x

/-- Two files importing each other: the walk from the first is a closure. -/
theorem collectImports_breadthFirst_cycle :
    (⟨"/p/a.ts"⟩ : Path).normalize = ⟨"/p/a.ts"⟩ ∧
      ∃ out σ, (collectImports
          { host := HostConfig.ofRoot ⟨"/p"⟩, tsconfigPath := none, options := default,
            fileNames := [], references := [], policy := ⟨true, true, true, [], none⟩,
            isolated := false, useEsm := false, compilerName := "typescript",
            compilerVersion := "5.0.0", cacheDirectory := none, stringify := none,
            tests := ⟨none, [], []⟩ }
          ⟨"/p/a.ts"⟩).run.run
        (⟨.memory [(⟨"/p/a.ts"⟩, ⟨"import './b';\n", 1⟩), (⟨"/p/b.ts"⟩, ⟨"import './a';\n", 2⟩)] 2,
          [], [], none, none, []⟩,
          ⟨ServiceHost.start default [], none, default⟩) = (.ok out, σ) ∧
        ImportClosure (ServiceHost.importsOf (ServiceHost.start default [])
          (.memory [(⟨"/p/a.ts"⟩, ⟨"import './b';\n", 1⟩), (⟨"/p/b.ts"⟩, ⟨"import './a';\n", 2⟩)] 2))
          ⟨"/p/a.ts"⟩ out :=
  ⟨rfl, collectImports_breadthFirst _ _ _ rfl⟩

end CheckedCompiler

end Compiler
end TestTransform
