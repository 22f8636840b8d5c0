import TestTransform.Proofs.HostGrowth

/-
The language service only adds to its host.

A step of the service `Grows` when, run from any service, it leaves a host that adds to the
one it started with (`ServiceHost.Adds`). Pure steps, the counters and reading a script grow;
so do their sequences, folds and filters. Every service function the compiler calls is built
from these, so each grows: emitting, both checks with the chase of names through imports, and
resolving a file's imports.

Emitting a file the host holds gives back the emit of its text, a skipped emit, or nothing.
-/

namespace TestTransform
namespace Compiler
namespace Standin

open Config ServiceHost

/-- Run from any service, the step leaves a host that adds to the one it was given. -/
def Grows {α : Type} (m : ServiceM α) : Prop :=
  ∀ s : Service, Adds s.host (m.run s).2.host

theorem run_bind {α β : Type} (m : ServiceM α) (f : α → ServiceM β) (s : Service) :
    (m >>= f).run s = (f (m.run s).1).run (m.run s).2 := rfl

theorem grows_pure {α : Type} (a : α) : Grows (pure a : ServiceM α) :=
  fun s => Adds.refl s.host

theorem grows_get : Grows (get : ServiceM Service) :=
  fun s => Adds.refl s.host

theorem grows_bind {α β : Type} {m : ServiceM α} {f : α → ServiceM β} (hm : Grows m)
    (hf : ∀ a, Grows (f a)) : Grows (m >>= f) := by
  intro s
  rw [run_bind]
  exact (hm s).trans (hf _ _)

theorem grows_modify {f : Service → Service} (hf : ∀ s, (f s).host = s.host) :
    Grows (modify f : ServiceM Unit) := by
  intro s
  show Adds s.host (f s).host
  rw [hf]
  exact Adds.refl s.host

theorem grows_foldlM {α β : Type} {f : β → α → ServiceM β} (hf : ∀ b a, Grows (f b a)) :
    ∀ (l : List α) (init : β), Grows (l.foldlM f init) := by
  intro l
  induction l with
  | nil => exact fun init => grows_pure init
  | cons a l ih =>
    intro init
    rw [List.foldlM_cons]
    exact grows_bind (hf init a) (fun b => ih b)

theorem sync_run_host (s : Service) : (sync.run s).2.host = s.host := by
  show (if _ then _ else _ : Service).host = _
  split <;> rfl

theorem grows_sync : Grows sync := by
  intro s
  rw [sync_run_host]
  exact Adds.refl s.host

theorem grows_snapshot (store : FileStore) (file : Path) : Grows (snapshot store file) := by
  intro s
  exact adds_snapshot store s.host file

/-! ## Every service function grows -/

theorem grows_typeChase (store : FileStore) :
    ∀ fuel : Nat,
      (∀ file text expression depth, Grows (expressionType store fuel file text expression depth)) ∧
      (∀ file text name depth, Grows (identifierType store fuel file text name depth)) := by
  intro fuel
  induction fuel with
  | zero => exact ⟨fun _ _ _ _ => grows_pure _, fun _ _ _ _ => grows_pure _⟩
  | succ fuel ih =>
    constructor
    · intro file text expression depth
      unfold expressionType
      split
      · exact grows_pure _
      · split
        · exact grows_pure _
        · exact ih.2 _ _ _ _
    · intro file text name depth
      unfold identifierType
      split
      · exact grows_pure _
      · exact ih.1 _ _ _ _
      · split
        · exact grows_pure _
        · refine grows_bind grows_get (fun s => ?_)
          split
          · exact grows_pure _
          · refine grows_bind (grows_snapshot store _) (fun t => ?_)
            split
            · exact grows_pure _
            · exact ih.2 _ _ _ _

theorem grows_undeclaredGlobals (store : FileStore) (file : Path) (text : String) :
    Grows (undeclaredGlobals store file text) := by
  unfold undeclaredGlobals
  refine grows_bind grows_get (fun s => grows_bind ?_ (fun _ => grows_pure _))
  refine grows_foldlM (fun acc script => ?_) _ _
  split
  · exact grows_bind (grows_snapshot store script) (fun t => by split <;> exact grows_pure _)
  · exact grows_pure _

theorem grows_mismatchIn (store : FileStore) (file : Path) (text line : String) (i : Nat) :
    Grows (mismatchIn store file text line i) := by
  unfold mismatchIn
  split
  · exact grows_pure _
  · split
    · exact grows_pure _
    · refine grows_bind grows_get (fun s => ?_)
      refine grows_bind ((grows_typeChase store _).1 _ _ _ _) (fun t => ?_)
      split
      · exact grows_pure _
      · exact grows_pure _
      · split <;> exact grows_pure _

theorem grows_emitOutput (store : FileStore) (skipped : List Path) (file : Path) :
    Grows (emitOutput store skipped file) := by
  unfold emitOutput
  refine grows_bind (grows_modify (fun _ => rfl)) (fun _ => ?_)
  refine grows_bind grows_sync (fun _ => ?_)
  refine grows_bind (grows_modify (fun _ => rfl)) (fun _ => ?_)
  split
  · exact grows_pure _
  · split
    · exact grows_pure _
    · refine grows_bind (grows_snapshot store file) (fun t => ?_)
      split
      · exact grows_pure _
      · exact grows_bind grows_get (fun _ => grows_pure _)

theorem grows_syntacticOf (store : FileStore) (file : Path) : Grows (syntacticOf store file) := by
  unfold syntacticOf
  exact grows_bind grows_sync (fun _ => grows_bind (grows_snapshot store file) (fun _ => grows_pure _))

theorem grows_semanticOf (store : FileStore) (file : Path) : Grows (semanticOf store file) := by
  unfold semanticOf
  refine grows_bind (grows_modify (fun _ => rfl)) (fun _ => ?_)
  refine grows_bind grows_sync (fun _ => ?_)
  refine grows_bind (grows_snapshot store file) (fun t => ?_)
  split
  · exact grows_pure _
  · refine grows_bind (grows_undeclaredGlobals store file _) (fun _ => ?_)
    refine grows_foldlM (fun found x => ?_) _ _
    obtain ⟨line, i⟩ := x
    cases found with
    | none => exact grows_pure _
    | some ds => exact grows_bind (grows_mismatchIn store file _ _ _) (fun _ => grows_pure _)

theorem grows_resolvedModulesOf (store : FileStore) (file : Path) :
    Grows (resolvedModulesOf store file) := by
  unfold resolvedModulesOf
  refine grows_bind grows_sync (fun _ => grows_bind (grows_snapshot store file) (fun t => ?_))
  split
  · exact grows_pure _
  · exact grows_bind grows_get (fun _ => grows_pure _)

/-! ## What an emit gives -/

theorem selectOutput_empty (path : Path) (skipped : Bool) :
    ∀ o, CheckedCompiler.selectOutput path ⟨[], skipped⟩ ≠ .ok o := by
  intro o
  unfold CheckedCompiler.selectOutput
  cases skipped <;> simp

theorem snapshot_run_of_text (store : FileStore) (file : Path) {s : Service} {text : String}
    (ht : s.host.files.text? file.normalize = some text) :
    (snapshot store file).run s = (some text, s) := by
  rw [show (snapshot store file).run s =
      ((s.host.snapshot store file).1, { s with host := (s.host.snapshot store file).2 }) from rfl,
    snapshot_of_text store s.host ht]

theorem modify_run (f : Service → Service) (s : Service) :
    (modify f : ServiceM Unit).run s = ((), f s) := rfl

/-- The emit of a file the host holds: its text's emit, or an emit with no files. -/
theorem emitOutput_result (store : FileStore) (skipped : List Path) (file : Path) (s : Service)
    {text : String} (ht : s.host.files.text? file.normalize = some text) :
    (∃ b, ((emitOutput store skipped file).run s).1 = ⟨[], b⟩) ∨
      ((emitOutput store skipped file).run s).1 = emitFor text file s.host.options := by
  unfold emitOutput
  rw [run_bind, modify_run, run_bind, run_bind, modify_run]
  dsimp only
  -- the counters and `sync` leave the host as it was
  split
  · exact Or.inl ⟨true, rfl⟩
  · split
    · exact Or.inl ⟨false, rfl⟩
    · right
      rw [run_bind, snapshot_run_of_text store file (by rw [sync_run_host]; exact ht)]
      dsimp only
      rw [run_bind]
      show emitFor text file ((sync.run _).2.host).options = _
      rw [sync_run_host]

end Standin
end Compiler
end TestTransform
