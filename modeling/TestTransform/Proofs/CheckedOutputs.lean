import TestTransform.Proofs.ServiceGrowth
import TestTransform.Proofs.ServiceSteps
import TestTransform.Proofs.PassedOptions

/-
What a type-checking compiler gives back.

A step of the compiler `HostGrows` when, whatever its outcome, it leaves a host that adds to
the one it was given. Checking a file, walking its imports, recording them and checking its
dependents again all grow the host.

A compiler is `Sound` for its settings when its host's options are those of some call and its
stored outputs are sound: one stored at the current project version is the emit of the
record's text with the current options, and that text passed the syntactic check of the
settings. Every compile and every lookup of resolved modules keeps a compiler sound, whether
it succeeds or fails; and a compile that succeeds gives the emit of the content it was given
with the options of the call, for content that passes the syntactic check, whether it
compiled it or gave back a stored output.
-/

namespace TestTransform

namespace Config.Settings

/-- Raising the diagnostics `ds` of `file` gives no fault, whatever the files hold. -/
def Passes (S : Settings) (ds : List Diagnostic) (file : Path) : Prop :=
  ∀ store, ∃ ws, S.raiseDiagnostics store ds file = .ok ws

/-- Diagnostics that pass together pass apart. -/
theorem passes_of_raise_append {S : Settings} {store : FileStore} {a b : List Diagnostic}
    {file : Path} {ws : List Diagnostic} (h : S.raiseDiagnostics store (a ++ b) file = .ok ws) :
    S.Passes a file := by
  intro store'
  unfold raiseDiagnostics at h ⊢
  dsimp only at h ⊢
  by_cases hr : S.shouldReport file = true
  · simp only [hr, Bool.not_true, Bool.false_eq_true, if_false] at h ⊢
    refine ⟨_, if_neg ?_⟩
    -- an important diagnostic of `a` would be one of `a ++ b`, and `h` would be a fault
    intro ha
    rw [if_pos ?_] at h
    · cases h
    simp only [Policy.filter, List.filter_append, Bool.and_eq_true, Bool.not_eq_true',
      List.isEmpty_eq_false_iff, ne_eq, List.append_eq_nil_iff, not_and] at ha ⊢
    exact ⟨ha.1, fun hnil => absurd hnil ha.2⟩
  · simp [hr]

/-- The syntactic check of `text` at `file` raises no fault. -/
def SyntaxPasses (S : Settings) (text : String) (file : Path) : Prop :=
  S.Passes (Compiler.Standin.syntacticDiagnostics text file) file

theorem passes_of_not_report {S : Settings} {file : Path} (h : S.shouldReport file = false)
    (ds : List Diagnostic) : S.Passes ds file := by
  intro store
  simp [raiseDiagnostics, h]

theorem passes_nil (S : Settings) (file : Path) : S.Passes [] file := by
  intro store
  unfold raiseDiagnostics
  split
  · exact ⟨_, rfl⟩
  · simp [Policy.filter]

/-- The syntactic check counts braces only: a text whose braces pair up passes it under any
settings. -/
theorem syntaxPasses_of_balanced (S : Settings) {text : String} (file : Path)
    (h : Compiler.Standin.countChar text '{' = Compiler.Standin.countChar text '}') :
    S.SyntaxPasses text file := by
  unfold SyntaxPasses Compiler.Standin.syntacticDiagnostics
  rw [if_pos (beq_iff_eq.mpr h)]
  exact passes_nil S file

end Config.Settings

namespace Compiler

open Config Standin ServiceHost

theorem ServiceHost.setOptions_options (h : ServiceHost) (o : CompilerOptions)
    (heq : (h.options == o) = true → h.options = o) : (h.setOptions o).options = o := by
  unfold ServiceHost.setOptions
  split
  · exact heq ‹_›
  · rfl

theorem ServiceHost.updateFile_options (h : ServiceHost) (p : Path) (text : String) :
    (h.updateFile p text).2.options = h.options := by
  rw [updateFile_snd]

namespace CheckedCompiler

/-- Whatever its outcome, the step leaves a host that adds to the one it was given. -/
def HostGrows {α : Type} (m : CheckedRun α) : Prop :=
  ∀ w c, Adds c.host (m.run.run (w, c)).2.2.host

theorem hostGrows_pure {α : Type} (a : α) : HostGrows (pure a : CheckedRun α) :=
  fun _ c => Adds.refl c.host

theorem hostGrows_of_host {α : Type} {m : CheckedRun α}
    (h : ∀ w c, (m.run.run (w, c)).2.2.host = c.host) : HostGrows m := by
  intro w c
  rw [h]
  exact Adds.refl c.host

theorem hostGrows_bind {α β : Type} {m : CheckedRun α} {f : α → CheckedRun β} (hm : HostGrows m)
    (hf : ∀ a, HostGrows (f a)) : HostGrows (m >>= f) := by
  intro w c
  rw [exceptState_run_bind]
  have hstep := hm w c
  rcases hr : m.run.run (w, c) with ⟨r, w', c'⟩
  rw [hr] at hstep
  cases r with
  | ok a => exact hstep.trans (hf a w' c')
  | error e => exact hstep

theorem hostGrows_get : HostGrows (get : CheckedRun (Workspace × CheckedCompiler)) :=
  hostGrows_of_host (fun _ _ => rfl)

theorem hostGrows_liftExcept {α : Type} (x : Except CompileError α) :
    HostGrows (liftExcept x : CheckedRun α) := by
  cases x <;> exact hostGrows_of_host (fun _ _ => rfl)

theorem hostGrows_onService {α : Type} (s : Settings) {f : FileStore → List Path → ServiceM α}
    (hf : ∀ store skipped, Grows (f store skipped)) : HostGrows (onService s f) := by
  intro w c
  exact hf w.store _ ⟨c.host, c.seen, _⟩

theorem raise_run (s : Settings) (ds : List Diagnostic) (file : Path) (w : Workspace)
    (c : CheckedCompiler) :
    (raise s ds file).run.run (w, c) = match w.raise s ds file with
      | .ok w' => (.ok (), (w', c))
      | .error e => (.error e, (w, c)) := by
  unfold raise
  rw [exceptState_run_bind]
  show ((liftExcept (w.raise s ds file) >>= fun w' => set (w', c)) : CheckedRun Unit).run.run (w, c) = _
  rw [exceptState_run_bind]
  cases w.raise s ds file <;> rfl

theorem hostGrows_raise (s : Settings) (ds : List Diagnostic) (file : Path) :
    HostGrows (raise s ds file) := by
  refine hostGrows_of_host (fun w c => ?_)
  rw [raise_run]
  cases w.raise s ds file <;> rfl

theorem hostGrows_typeCheck (s : Settings) (file : Path) : HostGrows (typeCheck s file) := by
  unfold typeCheck
  split
  · refine hostGrows_bind (hostGrows_onService s (fun store _ => grows_syntacticOf store file))
      (fun _ => ?_)
    refine hostGrows_bind (hostGrows_onService s (fun store _ => grows_semanticOf store file))
      (fun found => ?_)
    cases found with
    | some semantic => exact hostGrows_raise s _ file
    | none => exact hostGrows_of_host (fun _ _ => rfl)
  · exact hostGrows_pure ()

theorem hostGrows_walkImports (s : Settings) (root : Path) :
    ∀ fuel queue seen, HostGrows (walkImports s root fuel queue seen) := by
  intro fuel
  induction fuel with
  | zero => exact fun _ _ => by unfold walkImports; exact hostGrows_pure _
  | succ fuel ih =>
    intro queue seen
    cases queue with
    | nil => unfold walkImports; exact hostGrows_pure _
    | cons file queue =>
      unfold walkImports
      refine hostGrows_bind
        (hostGrows_onService s (fun store _ => grows_resolvedModulesOf store file)) (fun _ => ?_)
      exact ih _ _

theorem hostGrows_collectImports (s : Settings) (root : Path) :
    HostGrows (collectImports s root) := by
  unfold collectImports
  exact hostGrows_bind hostGrows_get (fun _ => hostGrows_walkImports s root _ _ _)

theorem hostGrows_recordModules (p : Path) (content : String) (modules : List Path) :
    HostGrows (recordModules p content modules) :=
  hostGrows_of_host (fun _ _ => rfl)

theorem HostGrows.adds_of_run {α : Type} {m : CheckedRun α} (hm : HostGrows m)
    {σ σ' : Workspace × CheckedCompiler} {r : Except CompileError α} (h : m.run.run σ = (r, σ'))
    {h₀ : ServiceHost} (ha : Adds h₀ σ.2.host) : Adds h₀ σ'.2.host := by
  obtain ⟨w, c⟩ := σ
  have hstep := hm w c
  rw [h] at hstep
  exact ha.trans hstep

/-! ## Checking dependents again -/

/-- From a host that adds to `h₀`, the step leaves one that adds to `h₀`. -/
def GrowsFrom {α : Type} (h₀ : ServiceHost) (m : CheckedRun α) : Prop :=
  ∀ w c, Adds h₀ c.host → Adds h₀ (m.run.run (w, c)).2.2.host

theorem HostGrows.growsFrom {α : Type} {m : CheckedRun α} (hm : HostGrows m) (h₀ : ServiceHost) :
    GrowsFrom h₀ m :=
  fun w c ha => ha.trans (hm w c)

theorem growsFrom_bind {α β : Type} {h₀ : ServiceHost} {m : CheckedRun α} {f : α → CheckedRun β}
    (hm : GrowsFrom h₀ m) (hf : ∀ a, GrowsFrom h₀ (f a)) : GrowsFrom h₀ (m >>= f) := by
  intro w c ha
  rw [exceptState_run_bind]
  have hstep := hm w c ha
  rcases hr : m.run.run (w, c) with ⟨r, w', c'⟩
  rw [hr] at hstep
  cases r with
  | ok a => exact hf a w' c' hstep
  | error e => exact hstep

theorem growsFrom_forM {α : Type} {h₀ : ServiceHost} {f : α → CheckedRun PUnit} :
    ∀ l : List α, (∀ a ∈ l, GrowsFrom h₀ (f a)) → GrowsFrom h₀ (l.forM f) := by
  intro l
  induction l with
  | nil => exact fun _ => (hostGrows_pure _).growsFrom h₀
  | cons a l ih =>
    intro hf
    show GrowsFrom h₀ (f a >>= fun _ => l.forM f)
    exact growsFrom_bind (hf a List.mem_cons_self)
      (fun _ => ih (fun b hb => hf b (List.mem_cons_of_mem a hb)))

/-- Setting the text of a path that `h₀` did not hold keeps adding to `h₀`, even when the
path was read in since. -/
theorem adds_updateFile_of_absent {h₀ h : ServiceHost} (ha : Adds h₀ h) {f : Path} (text : String)
    (hf : h₀.files.get? f = none) : Adds h₀ (h.updateFile f text).2 := by
  rw [updateFile_snd]
  refine ⟨ha.options, Nat.le_trans ha.version (by dsimp only; split <;> omega), ?_, ?_⟩
  · intro p r hp
    have hpf : (p == f) = false := by
      cases hpf : (p == f)
      · rfl
      · rw [FileTable.get?_congr h₀.files hpf, hf] at hp
        cases hp
    rw [FileTable.get?_update_of_ne h.files text hpf]
    exact ha.kept p r hp
  · intro p r hp hn
    rcases FileTable.update_unchanged_or_dirty h.files f text with hu | ⟨-, hrec⟩
    · rw [hu] at hp
      exact ha.fresh p r hp hn
    · rcases hrec p r hp with hold | hnone
      · exact ha.fresh p r hold hn
      · exact hnone

theorem hostGrows_revalidateDependents (s : Settings) (p : Path) :
    HostGrows (revalidateDependents s p) := by
  intro w c
  unfold revalidateDependents
  rw [exceptState_run_bind]
  dsimp only
  -- the dependents checked are those the host did not hold when the check began
  refine growsFrom_forM _ (fun f hf => ?_) _ _ (Adds.refl c.host)
  have habsent : c.host.files.get? f = none := by
    have := (List.mem_filter.mp hf).2
    simpa [FileTable.contains] using this
  refine growsFrom_bind ((hostGrows_get).growsFrom _) (fun σ => ?_)
  split
  · exact (hostGrows_pure _).growsFrom _
  · refine growsFrom_bind (fun w' c' ha => ?_) (fun _ => (hostGrows_typeCheck s f).growsFrom _)
    exact adds_updateFile_of_absent ha _ habsent

/-- The module record a step of the service runs with. -/
def moduleOf (s : Settings) (w : Workspace) : Module :=
  (w.module? s.compilerName).getD (Module.ofVersion s.compilerName s.compilerVersion)

/-- A step of the service never fails: it gives the step's answer from the compiler's host and
leaves the host the step leaves. -/
theorem onService_run {α : Type} (s : Settings) (f : FileStore → List Path → ServiceM α)
    (w : Workspace) (c : CheckedCompiler) :
    ∃ w' c', (onService s f).run.run (w, c) =
        (.ok ((f w.store (moduleOf s w).skipped).run ⟨c.host, c.seen, (moduleOf s w).stats⟩).1,
          (w', c')) ∧
      c'.host = ((f w.store (moduleOf s w).skipped).run ⟨c.host, c.seen, (moduleOf s w).stats⟩).2.host :=
  ⟨_, _, rfl, rfl⟩

theorem syntacticOf_result (store : FileStore) (file : Path) (svc : Service) {text : String}
    (ht : svc.host.files.text? file.normalize = some text) :
    ((syntacticOf store file).run svc).1 = syntacticDiagnostics text file := by
  unfold syntacticOf
  rw [Standin.run_bind, Standin.run_bind,
    snapshot_run_of_text store file (by rw [sync_run_host]; exact ht)]
  rfl

/-- A check that passes passes the syntactic check of the file's text. -/
theorem typeCheck_passes (S : Settings) (file : Path) (w : Workspace) (c : CheckedCompiler)
    {text : String} (ht : c.host.files.text? file.normalize = some text)
    {σ : Workspace × CheckedCompiler} (h : (typeCheck S file).run.run (w, c) = (.ok (), σ)) :
    S.SyntaxPasses text file := by
  unfold typeCheck at h
  split at h
  · obtain ⟨w₁, c₁, h₁, -⟩ := onService_run S (fun store _ => syntacticOf store file) w c
    rw [exceptState_bind_ok h₁, syntacticOf_result _ _ _ ht] at h
    obtain ⟨w₂, c₂, h₂, -⟩ := onService_run S (fun store _ => semanticOf store file) w₁ c₁
    rw [exceptState_bind_ok h₂] at h
    -- a check that never ends fails the compile
    split at h
    case h_2 => cases h
    rw [raise_run] at h
    split at h
    · rename_i w' hraise
      unfold Workspace.raise at hraise
      split at hraise
      · cases hraise
      · exact Settings.passes_of_raise_append ‹_›
    · cases h
  · exact Settings.passes_of_not_report (by simpa using ‹¬S.shouldReport file = true›) _

/-! ## Sound compilers -/

/-- The compiler's host has the options of some call, and its stored outputs are sound for
texts that pass the settings' syntactic check. -/
structure Sound (S : Settings) (c : CheckedCompiler) : Prop where
  outputs : c.host.OutputsSound S.SyntaxPasses
  options : ∃ b, c.host.options = S.options.forModuleSystem S.useEsm b

theorem Sound.of_adds {S : Settings} {c c' : CheckedCompiler} (hc : Sound S c)
    (a : Adds c.host c'.host) : Sound S c' :=
  ⟨hc.outputs.of_adds a, a.options ▸ hc.options⟩

theorem sound_start (S : Settings) (store : FileStore) : Sound S (start S store) := by
  refine ⟨?_, ⟨false, rfl⟩⟩
  intro p r v o hr
  simp [start, ServiceHost.start, FileTable.empty, FileTable.get?] at hr

/-- Storing the emit of a record's text keeps the outputs sound. -/
theorem OutputsSound.storeOutput {A : String → Path → Prop} {h : ServiceHost}
    (hs : h.OutputsSound A) {p : Path} {r : FileRecord} (hr : h.files.get? p = some r)
    (hp : p.normalize = p) {o : Output}
    (hemit : selectOutput p (emitFor r.text p h.options) = .ok o) (hA : A r.text p) :
    ({ h with files := h.files.storeOutput p h.projectVersion o } : ServiceHost).OutputsSound A := by
  intro q r' v o' hq ho
  dsimp only at hq ⊢
  rw [FileTable.get?_storeOutput] at hq
  split at hq
  · rename_i hqp
    rw [FileTable.get?_congr h.files hqp, hr] at hq
    simp only [Option.map_some, Option.some.injEq] at hq
    subst hq
    simp only [Option.some.injEq, Prod.mk.injEq] at ho
    obtain ⟨rfl, rfl⟩ := ho
    have hqn : q.normalize = p := by rw [Path.normalize_eq_of_beq hqp, hp]
    rw [hqn]
    exact ⟨Nat.le_refl _, fun _ => ⟨hemit, hA⟩⟩
  · exact hs q r' v o' hq ho

/-- The options a host ends up with after the call's options are set. -/
theorem setOptions_optionsFor {S : Settings} {c : CheckedCompiler} (hS : S.options.PassesOnUntyped)
    (hc : Sound S c) (t : TransformOptions) :
    (c.host.setOptions (S.optionsFor t)).options = S.optionsFor t := by
  obtain ⟨b, hb⟩ := hc.options
  refine ServiceHost.setOptions_options _ _ (fun hbeq => ?_)
  rw [hb] at hbeq ⊢
  exact CompilerOptions.forModuleSystem_eq_of_beq hS hbeq

theorem get_run (σ : Workspace × CheckedCompiler) :
    (get : CheckedRun (Workspace × CheckedCompiler)).run.run σ = (.ok σ, σ) := rfl

theorem modifyHost_run (f : ServiceHost → ServiceHost) (w : Workspace) (c : CheckedCompiler) :
    (modifyHost f).run.run (w, c) = (.ok (), (w, { c with host := f c.host })) := rfl

/-! ## What a compile delivers -/

/-- Run from `σ`, the step leaves a compiler sound for `S`, and what it gives satisfies `P`. -/
def Delivers {α : Type} (S : Settings) (P : α → Prop) (m : CheckedRun α)
    (σ : Workspace × CheckedCompiler) : Prop :=
  Sound S (m.run.run σ).2.2 ∧ ∀ a, (m.run.run σ).1 = .ok a → P a

/-- A first step that grows the host and fails gives nothing, and leaves a sound compiler when
the host it started from adds to a sound one. -/
theorem delivers_bind_error {S : Settings} {c₁ : CheckedCompiler} (hc₁ : Sound S c₁)
    {α β : Type} {m : CheckedRun α} (hm : HostGrows m) (f : α → CheckedRun β)
    {σ σ' : Workspace × CheckedCompiler} {err : CompileError} (h : m.run.run σ = (.error err, σ'))
    (hadd : Adds c₁.host σ.2.host) (P : β → Prop) : Delivers S P (m >>= f) σ := by
  rw [Delivers, exceptState_bind_error h]
  exact ⟨hc₁.of_adds (hm.adds_of_run h hadd), fun _ ho => by cases ho⟩

/-- The last steps of a compile: the output selected from the emit is stored and given back.
From a host that adds to a sound one holding the text at `p`, and for an emit of that text
(or one with no files), they keep the compiler sound and give only the emit of the text. -/
theorem delivers_storeOutput {S : Settings} {c₁ : CheckedCompiler} (hc₁ : Sound S c₁) {p : Path}
    (hp : p.normalize = p) {r : FileRecord} (hr : c₁.host.files.get? p = some r)
    (hpass : S.SyntaxPasses r.text p) {e : EmitOutput}
    (he : (∃ b, e = ⟨[], b⟩) ∨ e = emitFor r.text p c₁.host.options) {P : Output → Prop}
    (hP : ∀ o, selectOutput p (emitFor r.text p c₁.host.options) = .ok o → P o)
    {σ : Workspace × CheckedCompiler} (hadd : Adds c₁.host σ.2.host) :
    Delivers S P (do
        let output ← liftExcept (selectOutput p e)
        modifyHost (fun h => { h with files := h.files.storeOutput p h.projectVersion output })
        pure output : CheckedRun Output) σ := by
  obtain ⟨w, c⟩ := σ
  cases hsel : selectOutput p e with
  | error err =>
    exact delivers_bind_error hc₁ (hostGrows_liftExcept _) _ rfl hadd P
  | ok out =>
    -- an emit with no files selects nothing, so this one is the emit of the text
    have hout : selectOutput p (emitFor r.text p c₁.host.options) = .ok out := by
      rcases he with ⟨b, rfl⟩ | rfl
      · exact absurd hsel (selectOutput_empty _ _ _)
      · exact hsel
    rw [Delivers, exceptState_bind_ok (show (liftExcept (.ok out) : CheckedRun Output).run.run
      (w, c) = (.ok out, (w, c)) from rfl), exceptState_bind_ok (modifyHost_run _ _ _)]
    refine ⟨⟨?_, hadd.options ▸ hc₁.options⟩, fun o ho => ?_⟩
    · refine OutputsSound.storeOutput (hc₁.of_adds hadd).outputs (hadd.kept _ _ hr) hp ?_ hpass
      rw [hadd.options]
      exact hout
    · cases ho
      exact hP out hout

/-- A compile keeps the compiler sound whatever its outcome; one that succeeds gives the emit
of the content at the normalized path with the call's options, and the content passes the
syntactic check. -/
theorem compile_spec {S : Settings} (hS : S.options.PassesOnUntyped) {c : CheckedCompiler}
    (hc : Sound S c) (w : Workspace) (content : String) (path : Path) (t : TransformOptions) :
    Sound S ((compile S content path t).run.run (w, c)).2.2 ∧
      ∀ o, ((compile S content path t).run.run (w, c)).1 = .ok o →
        selectOutput path.normalize (emitFor content path.normalize (S.optionsFor t)) = .ok o ∧
          S.SyntaxPasses content path.normalize := by
  -- the host once the call's options are set, and once the content is set too
  obtain ⟨H₀, hH₀⟩ : ∃ H₀, c.host.setOptions (S.optionsFor t) = H₀ := ⟨_, rfl⟩
  have hopt₀ : H₀.options = S.optionsFor t := hH₀ ▸ setOptions_optionsFor hS hc t
  have hsound₀ : H₀.OutputsSound S.SyntaxPasses := hH₀ ▸ hc.outputs.setOptions _
  obtain ⟨r₁, hr₁, hr₁text⟩ := FileTable.get?_update_self H₀.files path.normalize content
  obtain ⟨H₁, hH₁⟩ : ∃ H₁, (H₀.updateFile path.normalize content).2 = H₁ := ⟨_, rfl⟩
  have hr₁' : H₁.files.get? path.normalize = some r₁ := by rw [← hH₁, updateFile_snd]; exact hr₁
  have hopt : H₁.options = S.optionsFor t := by
    rw [← hH₁, ServiceHost.updateFile_options, hopt₀]
  have hc₁ : Sound S { c with host := H₁ } :=
    ⟨hH₁ ▸ hsound₀.updateFile _ _, ⟨t.supportsStaticEsm, hopt⟩⟩
  have hnorm : path.normalize.normalize = path.normalize := Path.normalize_normalize path
  unfold compile
  rw [exceptState_bind_ok (modifyHost_run _ w c), exceptState_bind_ok (get_run _)]
  dsimp only
  rw [hH₀, hH₁]
  have htext : H₁.files.text? path.normalize.normalize = some content := by
    simp [FileTable.text?, hnorm, hr₁', hr₁text]
  split
  · -- the output stored for the current version is given back
    rename_i o hout
    refine ⟨hc₁, fun o' ho' => ?_⟩
    cases ho'
    obtain ⟨r, hr, hro⟩ := FileTable.output?_eq_some.mp hout
    rw [hr₁', Option.some.injEq] at hr
    subst hr
    obtain ⟨hsel, hpass⟩ := (hc₁.outputs _ _ _ _ hr₁' hro).2 rfl
    rw [hnorm, hr₁text] at hsel hpass
    exact ⟨hopt ▸ hsel, hpass⟩
  · -- the file is emitted, checked, and its dependents or imports are followed
    obtain ⟨w₂, c₂, h₂, hhost₂⟩ :=
      onService_run S (fun store skipped => emitOutput store skipped path.normalize) w
        { c with host := H₁ }
    rw [exceptState_bind_ok h₂]
    have hadd₂ : Adds H₁ c₂.host := by
      rw [hhost₂]
      exact grows_emitOutput w.store _ path.normalize ⟨H₁, c.seen, (moduleOf S w).stats⟩
    have hemit := emitOutput_result w.store (moduleOf S w).skipped path.normalize
      ⟨H₁, c.seen, (moduleOf S w).stats⟩ htext
    generalize ((emitOutput w.store (moduleOf S w).skipped path.normalize).run
      ⟨H₁, c.seen, (moduleOf S w).stats⟩).1 = e at hemit ⊢
    rcases htc : (typeCheck S path.normalize).run.run (w₂, c₂) with ⟨_ | _, σ₃⟩
    · exact delivers_bind_error hc₁ (hostGrows_typeCheck S _) _ htc hadd₂ _
    have hadd₃ : Adds H₁ σ₃.2.host := (hostGrows_typeCheck S _).adds_of_run htc hadd₂
    have hpass : S.SyntaxPasses content path.normalize := by
      refine typeCheck_passes S path.normalize w₂ c₂ ?_ htc
      simp [FileTable.text?, hnorm, hadd₂.kept _ _ hr₁', hr₁text]
    -- once the file is checked, what is left gives the emit of the content
    have tail := fun (σ : Workspace × CheckedCompiler) (hadd : Adds H₁ σ.2.host) =>
      delivers_storeOutput hc₁ hnorm hr₁' (hr₁text ▸ hpass) (hr₁text ▸ hemit)
        (P := fun o => selectOutput path.normalize (emitFor content path.normalize (S.optionsFor t)) =
          .ok o ∧ S.SyntaxPasses content path.normalize)
        (fun o ho => ⟨by rw [← hopt, ← hr₁text]; exact ho, hpass⟩) hadd
    rw [exceptState_bind_ok htc]
    split
    · -- a test file has its imports recorded
      rcases hci : (collectImports S path.normalize).run.run σ₃ with ⟨_ | modules, σ₄⟩
      · exact delivers_bind_error hc₁ (hostGrows_collectImports S _) _ hci hadd₃ _
      have hadd₄ := (hostGrows_collectImports S _).adds_of_run hci hadd₃
      rw [exceptState_bind_ok hci]
      rcases hrm : (recordModules path.normalize content modules).run.run σ₄ with ⟨_ | _, σ₅⟩
      · exact delivers_bind_error hc₁ (hostGrows_recordModules _ _ _) _ hrm hadd₄ _
      rw [exceptState_bind_ok hrm]
      exact tail σ₅ ((hostGrows_recordModules _ _ _).adds_of_run hrm hadd₄)
    · -- any other file has its recorded dependents checked again
      rcases hrv : (revalidateDependents S path.normalize).run.run σ₃ with ⟨_ | _, σ₄⟩
      · exact delivers_bind_error hc₁ (hostGrows_revalidateDependents S _) _ hrv hadd₃ _
      rw [exceptState_bind_ok hrv]
      exact tail σ₄ ((hostGrows_revalidateDependents S _).adds_of_run hrv hadd₃)

/-- Looking up the modules a file imports keeps the compiler sound. -/
theorem resolvedModules_sound {S : Settings} {c : CheckedCompiler} (hc : Sound S c) (w : Workspace)
    (content : String) (path : Path) :
    Sound S ((resolvedModules S content path).run.run (w, c)).2.2 := by
  unfold resolvedModules
  rw [exceptState_bind_ok (get_run _)]
  dsimp only
  split
  · exact hc
  · rw [exceptState_bind_ok (modifyHost_run _ _ _)]
    have hc' : Sound S { c with host := (c.host.updateFile path.normalize content).2 } :=
      ⟨hc.outputs.updateFile _ _, (ServiceHost.updateFile_options _ _ _).symm ▸ hc.options⟩
    refine hc'.of_adds (hostGrows_bind (hostGrows_collectImports S _) (fun modules => ?_) _ _)
    split
    · exact hostGrows_bind (hostGrows_recordModules _ _ _) (fun _ => hostGrows_pure _)
    · exact hostGrows_pure _

end CheckedCompiler

end Compiler
end TestTransform
