import TestTransform.Proofs.ImportClosure
import TestTransform.Proofs.GraphFile
import TestTransform.Proofs.SettingsStages

/-
The modules a file imports: from the graph, or walked.

Asking for them first looks in the dependency graph. An entry recorded for the path with exactly
the given content is given back as it is, and nothing else happens. Otherwise the file's text is
set in the host and its imports are walked breadth first; a test file then has the walk recorded
for that content. An entry is checked against the content of the file itself only, so once a
module it imports changes its own imports the entry still gives the walk as it was when it was
recorded, or as the graph file loaded at the start held it (`entry_outlives_changed_import`).

The main statement, `resolvedModules_recorded_or_walked`: from any state, a valid entry answers
with the state unchanged; without one, the answer is the import closure over the host holding
the file's text, and a test file has that answer recorded for the content.
-/

namespace TestTransform
namespace Compiler
namespace CheckedCompiler

open Config Standin Cache

/-! ## The walk leaves the graph alone -/

theorem onService_graph {α : Type} (s : Settings) (f : FileStore → List Path → ServiceM α)
    (w : Workspace) (c : CheckedCompiler) :
    ((onService s f).run.run (w, c)).2.2.graph = c.graph := rfl

theorem walkImports_graph (s : Settings) (root : Path) :
    ∀ fuel queue seen (w : Workspace) (c : CheckedCompiler),
      ((walkImports s root fuel queue seen).run.run (w, c)).2.2.graph = c.graph := by
  intro fuel
  induction fuel with
  | zero => intro _ _ _ _; rfl
  | succ fuel ih =>
    intro queue seen w c
    cases queue with
    | nil => rfl
    | cons f queue =>
      unfold walkImports
      rw [exceptState_run_bind]
      obtain ⟨w', c', hrun, -⟩ := onService_run s (fun store _ => resolvedModulesOf store f) w c
      have hgraph : c'.graph = c.graph := by
        have := onService_graph s (fun store _ => resolvedModulesOf store f) w c
        rwa [hrun] at this
      rw [hrun]
      dsimp only
      rw [ih, hgraph]

theorem collectImports_graph (s : Settings) (root : Path) (w : Workspace) (c : CheckedCompiler) :
    ((collectImports s root).run.run (w, c)).2.2.graph = c.graph := by
  unfold collectImports
  rw [exceptState_run_bind]
  exact walkImports_graph s root _ _ _ w c

theorem recordModules_run (p : Path) (content : String) (modules : List Path) (w : Workspace)
    (c : CheckedCompiler) :
    (recordModules p content modules).run.run (w, c) =
      (.ok (), ({ w with store := (c.graph.record w.store p content modules).2.2 },
        { c with graph := (c.graph.record w.store p content modules).2.1 })) := rfl

/-! ## Recording what was walked -/

/-- Without a valid entry, recording the modules for the content makes them the valid entry. -/
theorem lookupValid_record {g : GraphCache} {p : Path} {content : String}
    (hnone : g.lookupValid p content = none) (store : FileStore) (modules : List Path) :
    (g.record store p content modules).2.1.lookupValid p content = some modules := by
  obtain ⟨hchanged, hgraph⟩ := g.record_graph store p content modules
  -- the recorded entry, if any, is for another content, so the insert changes the graph
  have hins : (g.graph.insert p ⟨content, modules⟩).1 = true := by
    rw [Graph.insert_fst]
    cases hold : g.graph.get? p with
    | none => rfl
    | some old =>
      simp only [GraphCache.lookupValid, hold, Option.filter_some, GraphEntry.isValidFor] at hnone
      have hcontent : (old.content == content) = false := by
        cases h : old.content == content
        · rfl
        · simp [h] at hnone
      simp [GraphEntry.same, hcontent]
  rw [hgraph]
  simp [GraphCache.lookupValid, Graph.get?_insert_of_changed hins, GraphEntry.isValidFor]

/-- The modules of a file for a content: the entry recorded for exactly that content, given back
with nothing changed; or else the breadth-first import closure over the host holding that
content, which a test file then has recorded as its entry for the content. -/
theorem resolvedModules_recorded_or_walked (s : Settings) (w : Workspace) (c : CheckedCompiler)
    (content : String) (path : Path) :
    (∀ ms, c.graph.lookupValid path.normalize content = some ms →
      (resolvedModules s content path).run.run (w, c) = (.ok ms, (w, c))) ∧
    (c.graph.lookupValid path.normalize content = none →
      ∃ out σ, (resolvedModules s content path).run.run (w, c) = (.ok out, σ) ∧
        ImportClosure ((c.host.updateFile path.normalize content).2.importsOf w.store)
          path.normalize out ∧
        (s.isTestFile path.normalize = true →
          σ.2.graph.lookupValid path.normalize content = some out)) := by
  unfold resolvedModules
  rw [exceptState_bind_ok (get_run _)]
  dsimp only
  constructor
  · intro ms hms
    rw [hms]
    rfl
  · intro hnone
    rw [hnone]
    dsimp only
    rw [exceptState_bind_ok (modifyHost_run _ _ _)]
    -- the walk over the host holding the content, which leaves the graph as it was
    obtain ⟨out, σ, hrun, hclosure⟩ := collectImports_breadthFirst s w
      { c with host := (c.host.updateFile path.normalize content).2 }
      (Path.normalize_normalize path)
    have hgraph : σ.2.graph = c.graph := by
      have := collectImports_graph s path.normalize w
        { c with host := (c.host.updateFile path.normalize content).2 }
      rwa [hrun] at this
    rw [exceptState_bind_ok hrun]
    split
    · rw [exceptState_bind_ok (recordModules_run _ _ _ _ _)]
      refine ⟨out, _, rfl, hclosure, fun _ => ?_⟩
      rw [← hgraph] at hnone
      exact lookupValid_record hnone _ _
    · next htest =>
      exact ⟨out, σ, rfl, hclosure, fun h => absurd h htest⟩

/-- An entry outlives a change to the imports of a module it lists. A test file /p/a.test.ts
imports /p/b.ts, which imports /p/c.ts; asking for its modules records [b, c]. After /p/b.ts is
compiled with content that imports nothing, the entry is still valid for the test file's own
content and gives [b, c], while the walk over the host as it now stands gives [b]. -/
theorem entry_outlives_changed_import :
    let store : FileStore := .memory [(⟨"/p/a.test.ts"⟩, ⟨"import \"./b\";\n", 0⟩),
      (⟨"/p/b.ts"⟩, ⟨"import \"./c\";\n", 0⟩), (⟨"/p/c.ts"⟩, ⟨"export const c = 1;\n", 0⟩)] 0
    let w : Workspace := ⟨store, [Module.ofVersion "typescript" "5.0.0"], [], none, none, []⟩
    ∃ S, Settings.build (HostConfig.ofRoot ⟨"/p"⟩) store w.registry none = .ok S ∧
      let σ₁ := ((resolvedModules S "import \"./b\";\n" ⟨"/p/a.test.ts"⟩).run.run (w, start S store)).2
      let σ₂ := ((compile S "export const b = 1;\n" ⟨"/p/b.ts"⟩ ⟨false, false⟩).run.run σ₁).2
      (((resolvedModules S "import \"./b\";\n" ⟨"/p/a.test.ts"⟩).run.run σ₂).1.toOption.map
          (·.map Path.text) = some ["/p/b.ts", "/p/c.ts"]) ∧
        (((collectImports S ⟨"/p/a.test.ts"⟩).run.run (σ₂.1, { σ₂.2 with
            host := (σ₂.2.host.updateFile ⟨"/p/a.test.ts"⟩ "import \"./b\";\n").2 })).1.toOption.map
          (·.map Path.text) = some ["/p/b.ts"]) := by
  intro store w
  obtain ⟨S, hS⟩ := except_ok_of_isOk
    (show (Settings.build (HostConfig.ofRoot ⟨"/p"⟩) store w.registry none).isOk = true by decide +kernel)
  -- both answers, computed for whatever settings the host builds
  have hfacts := show (Settings.build (HostConfig.ofRoot ⟨"/p"⟩) store w.registry none).toOption.map
      (fun S =>
        let σ₁ := ((resolvedModules S "import \"./b\";\n" ⟨"/p/a.test.ts"⟩).run.run (w, start S store)).2
        let σ₂ := ((compile S "export const b = 1;\n" ⟨"/p/b.ts"⟩ ⟨false, false⟩).run.run σ₁).2
        decide ((((resolvedModules S "import \"./b\";\n" ⟨"/p/a.test.ts"⟩).run.run σ₂).1.toOption.map
          (·.map Path.text) = some ["/p/b.ts", "/p/c.ts"]) ∧
        (((collectImports S ⟨"/p/a.test.ts"⟩).run.run (σ₂.1, { σ₂.2 with
            host := (σ₂.2.host.updateFile ⟨"/p/a.test.ts"⟩ "import \"./b\";\n").2 })).1.toOption.map
          (·.map Path.text) = some ["/p/b.ts"]))) = some true by decide +kernel
  rw [hS] at hfacts
  exact ⟨S, hS, of_decide_eq_true (Option.some.inj hfacts)⟩

end CheckedCompiler

end Compiler
end TestTransform
