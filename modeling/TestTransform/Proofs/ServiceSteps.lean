import Mathlib.Order.Defs.Unbundled
import TestTransform.Compiler.Checked

/-
Steps of the language service and of a type-checking compiler, by what they do to the host.

A step of an `ExceptT` over a state monad runs on when it succeeds and stops when it fails,
keeping the state it reached; every lemma below about a sequence of compiler steps goes
through that.

A step of the service goes `Along` a relation between hosts when, run from any service, it
leaves a host that the relation ties to the one it started with. For a reflexive and transitive
relation this holds of pure steps and of the counters, and is kept by sequences, folds and
filters. The service changes its host only by reading scripts, so a relation that every read
goes along is gone along by every service function the compiler calls: emitting, both checks
with the chase of names through imports, and resolving a file's imports. A step of a compiler
goes `HostAlong` a relation when, whatever its outcome, it leaves a host that the relation ties
to its host before; the service's steps, checking a file and walking its imports do so.
-/

namespace TestTransform

section ExceptState

variable {ε σ α β : Type}

/-- A step of an `ExceptT` over a state monad runs on when it succeeds and stops when it fails,
keeping the state it reached. -/
theorem exceptState_run_bind (m : ExceptT ε (StateM σ) α) (f : α → ExceptT ε (StateM σ) β)
    (s : σ) :
    (m >>= f).run.run s = match m.run.run s with
      | (.ok a, s') => (f a).run.run s'
      | (.error e, s') => (.error e, s') := by
  simp only [ExceptT.run_bind, StateT.run_bind]
  rcases m.run.run s with ⟨_ | _, s'⟩ <;> rfl

theorem exceptState_bind_ok {m : ExceptT ε (StateM σ) α} {f : α → ExceptT ε (StateM σ) β}
    {s s' : σ} {a : α} (h : m.run.run s = (.ok a, s')) : (m >>= f).run.run s = (f a).run.run s' := by
  rw [exceptState_run_bind, h]

theorem exceptState_bind_error {m : ExceptT ε (StateM σ) α} {f : α → ExceptT ε (StateM σ) β}
    {s s' : σ} {e : ε} (h : m.run.run s = (.error e, s')) : (m >>= f).run.run s = (.error e, s') := by
  rw [exceptState_run_bind, h]

/-- A sequence that succeeds ran its first step to success, and its rest from the state that
step reached. -/
theorem exceptState_bind_eq_ok {m : ExceptT ε (StateM σ) α} {f : α → ExceptT ε (StateM σ) β}
    {s : σ} {b : β} (h : ((m >>= f).run.run s).1 = .ok b) :
    ∃ a s', m.run.run s = (.ok a, s') ∧ ((f a).run.run s').1 = .ok b := by
  rw [exceptState_run_bind] at h
  rcases hm : m.run.run s with ⟨_ | a, s'⟩ <;> rw [hm] at h
  · cases h
  · exact ⟨a, s', rfl, h⟩

end ExceptState

namespace Compiler
namespace Standin

open Config

/-- Run from any service, the step leaves a host that `R` ties to the one it was given. -/
def Along (R : ServiceHost → ServiceHost → Prop) {α : Type} (m : ServiceM α) : Prop :=
  ∀ s : Service, R s.host (m.run s).2.host

section Along

variable {R : ServiceHost → ServiceHost → Prop} [IsPreorder ServiceHost R]

theorem along_pure {α : Type} (a : α) : Along R (pure a : ServiceM α) :=
  fun s => refl_of R s.host

theorem along_get : Along R (get : ServiceM Service) :=
  fun s => refl_of R s.host

theorem along_bind {α β : Type} {m : ServiceM α} {f : α → ServiceM β} (hm : Along R m)
    (hf : ∀ a, Along R (f a)) : Along R (m >>= f) :=
  fun s => trans_of R (hm s) (hf (m.run s).1 (m.run s).2)

/-- A step that leaves the host alone, such as a counter. -/
theorem along_modify {f : Service → Service} (hf : ∀ s, (f s).host = s.host) :
    Along R (modify f : ServiceM Unit) := by
  intro s
  show R s.host (f s).host
  rw [hf]
  exact refl_of R s.host

theorem along_foldlM {α β : Type} {f : β → α → ServiceM β} (hf : ∀ b a, Along R (f b a)) :
    ∀ (l : List α) (init : β), Along R (l.foldlM f init) := by
  intro l
  induction l with
  | nil => exact fun init => along_pure init
  | cons a l ih =>
    intro init
    rw [List.foldlM_cons]
    exact along_bind (hf init a) (fun b => ih b)

theorem along_sync : Along R sync := by
  intro s
  show R s.host (if _ then _ else _ : Service).host
  split <;> exact refl_of R s.host

/-! ## Every service function goes along a relation that reading goes along -/

variable (hread : ∀ store h file, R h (h.snapshot store file).2)
include hread

omit [IsPreorder ServiceHost R] in
theorem along_snapshot (store : FileStore) (file : Path) : Along R (snapshot store file) :=
  fun s => hread store s.host file

theorem along_typeChase (store : FileStore) :
    ∀ fuel : Nat,
      (∀ file text expression depth, Along R (expressionType store fuel file text expression depth)) ∧
      (∀ file text name depth, Along R (identifierType store fuel file text name depth)) := by
  intro fuel
  induction fuel with
  | zero => exact ⟨fun _ _ _ _ => along_pure _, fun _ _ _ _ => along_pure _⟩
  | succ fuel ih =>
    constructor
    · intro file text expression depth
      unfold expressionType
      split
      · exact along_pure _
      · split
        · exact along_pure _
        · exact ih.2 _ _ _ _
    · intro file text name depth
      unfold identifierType
      split
      · exact along_pure _
      · exact ih.1 _ _ _ _
      · split
        · exact along_pure _
        · refine along_bind along_get (fun s => ?_)
          split
          · exact along_pure _
          · refine along_bind (along_snapshot hread store _) (fun t => ?_)
            split
            · exact along_pure _
            · exact ih.2 _ _ _ _

theorem along_undeclaredGlobals (store : FileStore) (file : Path) (text : String) :
    Along R (undeclaredGlobals store file text) := by
  unfold undeclaredGlobals
  refine along_bind along_get (fun s => along_bind ?_ (fun _ => along_pure _))
  refine along_foldlM (fun acc script => ?_) _ _
  split
  · exact along_bind (along_snapshot hread store script) (fun t => by split <;> exact along_pure _)
  · exact along_pure _

theorem along_mismatchIn (store : FileStore) (file : Path) (text line : String) (i : Nat) :
    Along R (mismatchIn store file text line i) := by
  unfold mismatchIn
  split
  · exact along_pure _
  · split
    · exact along_pure _
    · refine along_bind along_get (fun s => ?_)
      refine along_bind ((along_typeChase hread store _).1 _ _ _ _) (fun t => ?_)
      split
      · exact along_pure _
      · exact along_pure _
      · split <;> exact along_pure _

theorem along_emitOutput (store : FileStore) (skipped : List Path) (file : Path) :
    Along R (emitOutput store skipped file) := by
  unfold emitOutput
  refine along_bind (along_modify (fun _ => rfl)) (fun _ => ?_)
  refine along_bind along_sync (fun _ => ?_)
  refine along_bind (along_modify (fun _ => rfl)) (fun _ => ?_)
  split
  · exact along_pure _
  · split
    · exact along_pure _
    · refine along_bind (along_snapshot hread store file) (fun t => ?_)
      split
      · exact along_pure _
      · exact along_bind along_get (fun _ => along_pure _)

theorem along_syntacticOf (store : FileStore) (file : Path) : Along R (syntacticOf store file) := by
  unfold syntacticOf
  exact along_bind along_sync
    (fun _ => along_bind (along_snapshot hread store file) (fun _ => along_pure _))

theorem along_semanticOf (store : FileStore) (file : Path) : Along R (semanticOf store file) := by
  unfold semanticOf
  refine along_bind (along_modify (fun _ => rfl)) (fun _ => ?_)
  refine along_bind along_sync (fun _ => ?_)
  refine along_bind (along_snapshot hread store file) (fun t => ?_)
  split
  · exact along_pure _
  · refine along_bind (along_undeclaredGlobals hread store file _) (fun _ => ?_)
    refine along_foldlM (fun found x => ?_) _ _
    obtain ⟨line, i⟩ := x
    cases found with
    | none => exact along_pure _
    | some ds => exact along_bind (along_mismatchIn hread store file _ _ _) (fun _ => along_pure _)

theorem along_resolvedModulesOf (store : FileStore) (file : Path) :
    Along R (resolvedModulesOf store file) := by
  unfold resolvedModulesOf
  refine along_bind along_sync (fun _ => along_bind (along_snapshot hread store file) (fun t => ?_))
  split
  · exact along_pure _
  · exact along_bind along_get (fun _ => along_pure _)

end Along

end Standin

namespace CheckedCompiler

open Config Standin

/-- Whatever its outcome, the step leaves a host that `R` ties to the one it was given. -/
def HostAlong (R : ServiceHost → ServiceHost → Prop) {α : Type} (m : CheckedRun α) : Prop :=
  ∀ w c, R c.host (m.run.run (w, c)).2.2.host

section HostAlong

variable {R : ServiceHost → ServiceHost → Prop} [IsPreorder ServiceHost R]

theorem hostAlong_of_host {α : Type} {m : CheckedRun α}
    (h : ∀ w c, (m.run.run (w, c)).2.2.host = c.host) : HostAlong R m := by
  intro w c
  rw [h]
  exact refl_of R c.host

theorem hostAlong_pure {α : Type} (a : α) : HostAlong R (pure a : CheckedRun α) :=
  hostAlong_of_host (fun _ _ => rfl)

theorem hostAlong_bind {α β : Type} {m : CheckedRun α} {f : α → CheckedRun β} (hm : HostAlong R m)
    (hf : ∀ a, HostAlong R (f a)) : HostAlong R (m >>= f) := by
  intro w c
  rw [exceptState_run_bind]
  have hstep := hm w c
  rcases hr : m.run.run (w, c) with ⟨r, w', c'⟩
  rw [hr] at hstep
  cases r with
  | ok a => exact trans_of R hstep (hf a w' c')
  | error e => exact hstep

theorem hostAlong_get : HostAlong R (get : CheckedRun (Workspace × CheckedCompiler)) :=
  hostAlong_of_host (fun _ _ => rfl)

theorem hostAlong_liftExcept {α : Type} (x : Except CompileError α) :
    HostAlong R (liftExcept x : CheckedRun α) := by
  cases x <;> exact hostAlong_of_host (fun _ _ => rfl)

omit [IsPreorder ServiceHost R] in
theorem hostAlong_onService {α : Type} (s : Settings) {f : FileStore → List Path → ServiceM α}
    (hf : ∀ store skipped, Along R (f store skipped)) : HostAlong R (onService s f) :=
  fun w c => hf w.store _ ⟨c.host, c.seen, _⟩

omit [IsPreorder ServiceHost R] in
theorem hostAlong_modifyHost {f : ServiceHost → ServiceHost} (hf : ∀ h, R h (f h)) :
    HostAlong R (modifyHost f) :=
  fun _ c => hf c.host

theorem hostAlong_forM {α : Type} {f : α → CheckedRun PUnit} (hf : ∀ a, HostAlong R (f a)) :
    ∀ l : List α, HostAlong R (l.forM f) := by
  intro l
  induction l with
  | nil => exact hostAlong_pure _
  | cons a l ih => exact hostAlong_bind (hf a) (fun _ => ih)

theorem hostAlong_raise (s : Settings) (ds : List Diagnostic) (file : Path) :
    HostAlong R (raise s ds file) := by
  refine hostAlong_of_host (fun w c => ?_)
  unfold raise
  rw [exceptState_run_bind]
  show (((liftExcept (w.raise s ds file) >>= fun w' => set (w', c)) : CheckedRun Unit).run.run
    (w, c)).2.2.host = c.host
  rw [exceptState_run_bind]
  cases w.raise s ds file <;> rfl

theorem hostAlong_recordModules (p : Path) (content : String) (modules : List Path) :
    HostAlong R (recordModules p content modules) :=
  hostAlong_of_host (fun _ _ => rfl)

/-! ## Checking a file and walking its imports -/

variable (hread : ∀ store h file, R h (h.snapshot store file).2)
include hread

theorem hostAlong_typeCheck (s : Settings) (file : Path) : HostAlong R (typeCheck s file) := by
  unfold typeCheck
  split
  · refine hostAlong_bind (hostAlong_onService s (fun store _ => along_syntacticOf hread store file))
      (fun _ => ?_)
    refine hostAlong_bind (hostAlong_onService s (fun store _ => along_semanticOf hread store file))
      (fun found => ?_)
    cases found with
    | some semantic => exact hostAlong_raise s _ file
    | none => exact hostAlong_of_host (fun _ _ => rfl)
  · exact hostAlong_pure ()

theorem hostAlong_walkImports (s : Settings) (root : Path) :
    ∀ fuel queue seen, HostAlong R (walkImports s root fuel queue seen) := by
  intro fuel
  induction fuel with
  | zero => exact fun _ _ => by unfold walkImports; exact hostAlong_pure _
  | succ fuel ih =>
    intro queue seen
    cases queue with
    | nil => unfold walkImports; exact hostAlong_pure _
    | cons file queue =>
      unfold walkImports
      refine hostAlong_bind
        (hostAlong_onService s (fun store _ => along_resolvedModulesOf hread store file)) (fun _ => ?_)
      exact ih _ _

theorem hostAlong_collectImports (s : Settings) (root : Path) :
    HostAlong R (collectImports s root) := by
  unfold collectImports
  exact hostAlong_bind hostAlong_get (fun _ => hostAlong_walkImports hread s root _ _ _)

end HostAlong

end CheckedCompiler

end Compiler
end TestTransform
