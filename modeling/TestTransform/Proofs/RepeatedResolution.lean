import TestTransform.Proofs.RecordedModules

/-
Asking twice for the modules a file imports.

The first request may change three things: it sets the file's text in the host, its walk reads
new scripts into the host's table, and a test file has the walk recorded in the graph, which
writes the graph file. None of them changes the answer of a second request for the same content.
A walk leaves every file the service sees as it was (`walkImports_frame`), and over a host that
shows the same files every file resolves to the same modules (`ServiceHost.importsOf_sameView`),
so a second walk follows the same edges; with fuel for every path it meets, a walk ends with what
the rounds of the search find once their frontier is empty, whichever host's table bounds it
(`collectImports_found`). A recorded walk answers the second request from the graph.

The main statement, `resolvedModules_again`: after a request that gave `ms`, the same request
gives `ms` again and leaves the workspace's files as it found them.
-/

namespace TestTransform

namespace Breadth

variable {next : Path → List Path} {root : Path}

/-! ## Rounds that found everything -/

theorem frontier_nil_of_le {j k : Nat} (hjk : j ≤ k) (hj : (rounds next root j).2 = []) :
    (rounds next root k).2 = [] := by
  induction hjk with
  | refl => exact hj
  | step _ ih => exact frontier_succ_nil ih

/-- Once the frontier is empty, later rounds find nothing more. -/
theorem found_of_le {j k : Nat} (hjk : j ≤ k) (hj : (rounds next root j).2 = []) :
    (rounds next root k).1 = (rounds next root j).1 := by
  induction hjk with
  | refl => rfl
  | step hle ih =>
    rw [found_succ, ih, frontier_succ_nil (frontier_nil_of_le hle hj), List.append_nil]

/-- Any two rounds with an empty frontier found the same paths. -/
theorem found_eq_of_frontier_nil {j k : Nat} (hj : (rounds next root j).2 = [])
    (hk : (rounds next root k).2 = []) : (rounds next root j).1 = (rounds next root k).1 := by
  rcases le_total j k with h | h
  · exact (found_of_le h hj).symm
  · exact found_of_le h hk

/-- A queue walk with a step for each path of `U` and two more ends with what the rounds found,
when every successor lies in `U`. -/
theorem queueWalk_of_universe {U : List Path} (hU : ∀ y, ∀ x ∈ next y, x ∈ U) {F : Nat}
    (hF : U.length + 2 ≤ F) : queueWalk next F [root] [] = (rounds next root (U.length + 1)).1 := by
  have hlen := @found_length_le next root U hU U.length
  obtain ⟨n, rfl⟩ : ∃ n, F = n + 1 + (rounds next root U.length).1.length :=
    ⟨F - 1 - (rounds next root U.length).1.length, by omega⟩
  rw [queueWalk_rounds, frontier_universe hU, queueWalk_nil]

end Breadth

namespace Compiler

open Config Standin Cache

/-! ## What the service sees -/

namespace ServiceHost

/-- What a file imports depends only on what the host shows. -/
theorem importsOf_sameView {store : FileStore} {h h' : ServiceHost} (hv : SameView store h h') :
    h'.importsOf store = h.importsOf store :=
  funext fun f => (resolvedModulesOf_sameView store f ⟨h, none, Stats.zero⟩ ⟨h', none, Stats.zero⟩ hv).1

/-- Setting a script to the text it already has changes nothing. -/
theorem updateFile_of_get {h : ServiceHost} {p : Path} {r : FileRecord} {text : String}
    (hp : h.files.get? p = some r) (hr : r.text = text) : (h.updateFile p text).2 = h := by
  rw [updateFile_snd]
  simp [FileTable.update, hp, hr, FileUpdate.isDirty]

end ServiceHost

namespace CheckedCompiler

/-! ## The walk changes no file -/

/-- `w'` is `w` with other module records: the files, the reports and the next transformer are
as they were. -/
def ModulesOnly (w w' : Workspace) : Prop := ∃ ms, w' = { w with modules := ms }

theorem ModulesOnly.refl (w : Workspace) : ModulesOnly w w := ⟨w.modules, rfl⟩

theorem ModulesOnly.trans {w₁ w₂ w₃ : Workspace} (a : ModulesOnly w₁ w₂) (b : ModulesOnly w₂ w₃) :
    ModulesOnly w₁ w₃ := by
  obtain ⟨_, rfl⟩ := a
  obtain ⟨ms, rfl⟩ := b
  exact ⟨ms, rfl⟩

theorem ModulesOnly.store {w w' : Workspace} (h : ModulesOnly w w') : w'.store = w.store := by
  obtain ⟨_, rfl⟩ := h
  rfl

theorem ModulesOnly.fallback {w w' : Workspace} (h : ModulesOnly w w') : w'.fallback = w.fallback := by
  obtain ⟨_, rfl⟩ := h
  rfl

theorem onService_modulesOnly {α : Type} (s : Settings) (f : FileStore → List Path → ServiceM α)
    (w : Workspace) (c : CheckedCompiler) : ModulesOnly w ((onService s f).run.run (w, c)).2.1 :=
  ⟨_, rfl⟩

/-- Over a host that shows what `h₀` shows, the walk changes only the module records and leaves
a host that still shows it. -/
theorem walkImports_frame (s : Settings) (root : Path) {h₀ : ServiceHost} :
    ∀ fuel queue seen (w : Workspace) (c : CheckedCompiler), ServiceHost.SameView w.store h₀ c.host →
      ModulesOnly w ((walkImports s root fuel queue seen).run.run (w, c)).2.1 ∧
        ServiceHost.SameView w.store h₀ ((walkImports s root fuel queue seen).run.run (w, c)).2.2.host := by
  intro fuel
  induction fuel with
  | zero => intro queue seen w c hv; exact ⟨ModulesOnly.refl w, hv⟩
  | succ fuel ih =>
    intro queue seen w c hv
    cases queue with
    | nil => exact ⟨ModulesOnly.refl w, hv⟩
    | cons f queue =>
      unfold walkImports
      rw [exceptState_run_bind]
      obtain ⟨w', c', hrun, hhost⟩ := onService_run s (fun store _ => resolvedModulesOf store f) w c
      have hw' : ModulesOnly w w' := by
        have := onService_modulesOnly s (fun store _ => resolvedModulesOf store f) w c
        rwa [hrun] at this
      -- the read leaves the host showing what `h₀` shows, and the store is the same
      obtain ⟨-, hview⟩ := resolvedModulesOf_sameView w.store f ⟨h₀, none, Stats.zero⟩
        ⟨c.host, c.seen, (moduleOf s w).stats⟩ hv
      rw [hrun]
      dsimp only
      have hv' : ServiceHost.SameView w'.store h₀ c'.host := by
        rw [hw'.store, hhost]
        exact hview
      obtain ⟨hframe, hview'⟩ := ih _ _ w' c' hv'
      exact ⟨hw'.trans hframe, hw'.store ▸ hview'⟩

theorem collectImports_frame (s : Settings) (root : Path) (w : Workspace) (c : CheckedCompiler) :
    ModulesOnly w ((collectImports s root).run.run (w, c)).2.1 ∧
      ServiceHost.SameView w.store c.host ((collectImports s root).run.run (w, c)).2.2.host := by
  unfold collectImports
  rw [exceptState_bind_ok (get_run _)]
  exact walkImports_frame s root _ _ _ w c (ServiceHost.SameView.refl w.store c.host)

/-- The walk from `root` ends with what the rounds of the search along the import edges over its
host find once their frontier is empty. -/
theorem collectImports_found (s : Settings) (root : Path) (w : Workspace) (c : CheckedCompiler) :
    ∃ out σ, (collectImports s root).run.run (w, c) = (.ok out, σ) ∧
      out = (Breadth.rounds (importEdges w.store c.host root) root
        ((candidates w.store c.host).length + 1)).1 := by
  obtain ⟨σ, hrun⟩ := collectImports_run s root w c
  exact ⟨_, σ, hrun, Breadth.queueWalk_of_universe (importEdges_candidates w.store c.host root)
    (by rw [candidates_length]; omega)⟩

/-- Walks from hosts that show the same files over one store end with the same modules. -/
theorem collectImports_sameView (s : Settings) (root : Path) {w w' : Workspace}
    {c c' : CheckedCompiler} (hstore : w'.store = w.store)
    (hv : ServiceHost.SameView w.store c.host c'.host) {out out' : List Path}
    {σ σ' : Workspace × CheckedCompiler} (h : (collectImports s root).run.run (w, c) = (.ok out, σ))
    (h' : (collectImports s root).run.run (w', c') = (.ok out', σ')) : out' = out := by
  obtain ⟨_, _, hrun, hout⟩ := collectImports_found s root w c
  obtain ⟨_, _, hrun', hout'⟩ := collectImports_found s root w' c'
  rw [h, Prod.mk.injEq, Except.ok.injEq] at hrun
  rw [h', Prod.mk.injEq, Except.ok.injEq] at hrun'
  -- both walks follow the same edges, and each ends once nothing more is found
  have hedges : importEdges w'.store c'.host root = importEdges w.store c.host root := by
    rw [hstore]
    unfold importEdges
    rw [ServiceHost.importsOf_sameView hv]
  have hU := importEdges_candidates w'.store c'.host root
  rw [hedges] at hU
  rw [hrun'.1, hout', hrun.1, hout, hedges, Breadth.found_eq_of_frontier_nil (Breadth.frontier_universe hU)
    (Breadth.frontier_universe (importEdges_candidates w.store c.host root))]

/-! ## The two answers -/

theorem resolvedModules_valid (s : Settings) {w : Workspace} {c : CheckedCompiler} {content : String}
    {path : Path} {ms : List Path} (hms : c.graph.lookupValid path.normalize content = some ms) :
    (resolvedModules s content path).run.run (w, c) = (.ok ms, (w, c)) := by
  unfold resolvedModules
  rw [exceptState_bind_ok (get_run _)]
  dsimp only
  rw [hms]
  rfl

theorem resolvedModules_walk (s : Settings) {w : Workspace} {c : CheckedCompiler} {content : String}
    {path : Path} (hnone : c.graph.lookupValid path.normalize content = none) {ms : List Path}
    {σ : Workspace × CheckedCompiler}
    (hwalk : (collectImports s path.normalize).run.run
      (w, { c with host := (c.host.updateFile path.normalize content).2 }) = (.ok ms, σ)) :
    (resolvedModules s content path).run.run (w, c) =
      (.ok ms, if s.isTestFile path.normalize then
        ((recordModules path.normalize content ms).run.run σ).2 else σ) := by
  unfold resolvedModules
  rw [exceptState_bind_ok (get_run _)]
  dsimp only
  rw [hnone]
  dsimp only
  rw [exceptState_bind_ok (modifyHost_run _ _ _), exceptState_bind_ok hwalk]
  obtain ⟨w', c'⟩ := σ
  split
  · rw [exceptState_bind_ok (recordModules_run _ _ _ _ _)]
    rfl
  · rfl

/-- A request changes no file but the graph file, and leaves the next transformer alone. -/
theorem resolvedModules_fallback (s : Settings) (content : String) (path : Path) (w : Workspace)
    (c : CheckedCompiler) : ((resolvedModules s content path).run.run (w, c)).2.1.fallback = w.fallback := by
  cases hl : c.graph.lookupValid path.normalize content with
  | some ms => rw [resolvedModules_valid s hl]
  | none =>
    obtain ⟨out, σ, hwalk, -⟩ := collectImports_found s path.normalize w
      { c with host := (c.host.updateFile path.normalize content).2 }
    have hframe := (collectImports_frame s path.normalize w
      { c with host := (c.host.updateFile path.normalize content).2 }).1
    rw [hwalk] at hframe
    rw [resolvedModules_walk s hl hwalk]
    obtain ⟨w', c'⟩ := σ
    split
    · exact hframe.fallback
    · exact hframe.fallback

/-- After a request that gave `ms`, the same request gives `ms` again and changes no file. -/
theorem resolvedModules_again (s : Settings) (content : String) (path : Path) {w w₁ : Workspace}
    {c c₁ : CheckedCompiler} {ms : List Path}
    (h : (resolvedModules s content path).run.run (w, c) = (.ok ms, (w₁, c₁))) :
    ∃ w₂ c₂, (resolvedModules s content path).run.run (w₁, c₁) = (.ok ms, (w₂, c₂)) ∧
      w₂.store = w₁.store := by
  cases hl : c.graph.lookupValid path.normalize content with
  | some ms₀ =>
    -- a valid entry answers and changes nothing
    rw [resolvedModules_valid s hl] at h
    cases h
    exact ⟨w, c, resolvedModules_valid s hl, rfl⟩
  | none =>
    -- the walk over the host holding the content
    obtain ⟨out, σ, hwalk, -⟩ := collectImports_found s path.normalize w
      { c with host := (c.host.updateFile path.normalize content).2 }
    have hframe := collectImports_frame s path.normalize w
      { c with host := (c.host.updateFile path.normalize content).2 }
    have hgraph := collectImports_graph s path.normalize w
      { c with host := (c.host.updateFile path.normalize content).2 }
    have hgrow := hostGrows_collectImports s path.normalize w
      { c with host := (c.host.updateFile path.normalize content).2 }
    rw [hwalk] at hframe hgraph hgrow
    rw [resolvedModules_walk s hl hwalk] at h
    obtain ⟨w', c'⟩ := σ
    dsimp only at hframe hgraph hgrow
    have hl' : c'.graph.lookupValid path.normalize content = none := by rw [hgraph]; exact hl
    obtain ⟨hms, hσ⟩ := Prod.mk.inj h
    cases hms
    split at hσ
    · -- a test file: the walk is recorded, and the record answers the second request
      rw [recordModules_run] at hσ
      obtain ⟨hw₁, hc₁⟩ := Prod.mk.inj hσ
      have hrec : c₁.graph.lookupValid path.normalize content = some ms := by
        rw [← hc₁]
        exact lookupValid_record hl' _ _
      exact ⟨w₁, c₁, resolvedModules_valid s hrec, rfl⟩
    · obtain ⟨rfl, rfl⟩ := Prod.mk.inj hσ
      -- the host already holds the content, so setting it again changes nothing
      obtain ⟨r, hr, hrt⟩ := FileTable.get?_update_self c.host.files path.normalize content
      have hsame : (c'.host.updateFile path.normalize content).2 = c'.host :=
        ServiceHost.updateFile_of_get (hgrow.kept _ r (by rw [ServiceHost.updateFile_snd]; exact hr)) hrt
      obtain ⟨out', σ', hwalk', -⟩ := collectImports_found s path.normalize w'
        { c' with host := (c'.host.updateFile path.normalize content).2 }
      have hframe' := (collectImports_frame s path.normalize w'
        { c' with host := (c'.host.updateFile path.normalize content).2 }).1
      rw [hwalk'] at hframe'
      rw [resolvedModules_walk s hl' hwalk', if_neg ‹_›]
      -- the second walk starts from a host showing what the first one's showed
      have hv : ServiceHost.SameView w.store (c.host.updateFile path.normalize content).2
          (c'.host.updateFile path.normalize content).2 := by
        rw [hsame]
        exact hframe.2
      rw [collectImports_sameView s path.normalize hframe.1.store hv hwalk hwalk']
      exact ⟨σ'.1, σ'.2, rfl, hframe'.store⟩

end CheckedCompiler

end Compiler
end TestTransform
