import TestTransform.Transform
import TestTransform.Proofs.CheckedOutputs

/-
What a compiler of either kind gives back.

For a TypeScript or JavaScript file the JavaScript written is named with a `.js`, `.mjs` or
`.cjs` extension, so the type-checking compiler's choice among the files of an emit picks the
code and the map: both compilers give the emit of the content with the call's options
(`emitted`), except that an isolated compiler reads the file of a referenced project from
what its build wrote (`expectedOutput`). An isolated compile of any other file succeeds
exactly when its syntactic diagnostics raise no fault.

A compiler fits settings (`Instance.SoundFor`) when it is isolated exactly when they say so
and, when it type-checks, it is sound for them; every compile and every lookup of imports
keeps it so.
-/

namespace TestTransform

open Config Compiler Standin

/-! ## Output names -/

/-- A text that ends in `e` does not end in a pattern at least as long that does not end in `e`. -/
theorem endsWith_append_eq_false (s e pat : String) (hlen : e.toList.length ≤ pat.toList.length)
    (hne : ¬ e.toList <:+ pat.toList) : (s ++ e).endsWith pat = false := by
  rw [← String.endsWith_toSlice, String.Slice.endsWith_string_eq_false_iff]
  intro hpat
  apply hne
  refine List.suffix_of_suffix_length_le (List.suffix_append s.toList e.toList) ?_ hlen
  simpa [String.toList_append] using hpat

theorem endsWith_append_self (s e : String) : (s ++ e).endsWith e = true := by
  rw [← String.endsWith_toSlice, String.Slice.endsWith_string_iff]
  simp [String.toList_append]

/-- A JavaScript name is taken neither for a map nor for a declaration file. -/
theorem jsName_endsWith (pre : String) {e : String} (he : e ∈ [".js", ".mjs", ".cjs"]) :
    (pre ++ e).endsWith ".map" = false ∧ (pre ++ e).endsWith ".d.ts" = false := by
  simp only [List.mem_cons, List.not_mem_nil, or_false] at he
  rcases he with rfl | rfl | rfl <;>
    exact ⟨endsWith_append_eq_false _ _ _ (by decide) (by decide),
      endsWith_append_eq_false _ _ _ (by decide) (by decide)⟩

theorem intercalate_append_singleton (sep : String) (l : List String) (m : String) :
    ∃ pre, sep.intercalate (l ++ [m]) = pre ++ m := by
  cases l with
  | nil => exact ⟨"", by simp [String.intercalate_singleton]⟩
  | cons a l =>
    refine ⟨sep.intercalate (a :: l) ++ sep, ?_⟩
    rw [String.intercalate_append_of_ne_nil (by simp) (by simp), String.intercalate_singleton]

/-- The JavaScript of a file with an extension ends in `.js`, `.mjs` or `.cjs`. -/
theorem outputName_text {p : Path} {x : String} (hx : p.extension = some x) :
    ∃ pre e, (outputName p).text = pre ++ e ∧ e ∈ [".js", ".mjs", ".cjs"] := by
  obtain ⟨n, hn, -⟩ := Option.bind_eq_some_iff.mp hx
  have hstem : p.fileStem = some (Path.splitName n).1 := by simp [Path.fileStem, hn]
  -- whichever extension replaces the old one, the name ends with a dot and it
  have hwith : ∀ ext, ext ≠ "" → ∃ pre, (p.withExtension ext).text = pre ++ ("." ++ ext) := by
    intro ext hext
    unfold Path.withExtension
    rw [hstem]
    simp only [String.isEmpty_iff, hext, if_false]
    obtain ⟨pre, hpre⟩ := intercalate_append_singleton "/"
      ((p.segments.reverse.dropWhile Path.isBlankSegment).reverse.dropLast)
      ((Path.splitName n).1 ++ "." ++ ext)
    exact ⟨pre ++ (Path.splitName n).1, by rw [hpre, String.append_assoc, String.append_assoc]⟩
  unfold outputName
  split
  · obtain ⟨pre, h⟩ := hwith "mjs" (by decide)
    exact ⟨pre, ".mjs", h, by simp⟩
  · obtain ⟨pre, h⟩ := hwith "cjs" (by decide)
    exact ⟨pre, ".cjs", h, by simp⟩
  · obtain ⟨pre, h⟩ := hwith "js" (by decide)
    exact ⟨pre, ".js", h, by simp⟩

namespace Compiler

/-- The code a compile writes for a file with its map inlined. -/
def emitted (content : String) (path : Path) (options : CompilerOptions) : Output :=
  let (code, map) := emitJavaScript content path options
  finalize code map path

/-- From the emit of a file with an extension the compiler picks its code and its map. -/
theorem selectOutput_emitFor {p : Path} {x : String} (hx : p.extension = some x)
    (content : String) (options : CompilerOptions) :
    CheckedCompiler.selectOutput p (ServiceHost.emitFor content p options) =
      .ok (emitted content p options) := by
  obtain ⟨pre, e, htext, he⟩ := outputName_text hx
  obtain ⟨hmap, hdecl⟩ := jsName_endsWith pre he
  rw [← htext] at hmap hdecl
  unfold CheckedCompiler.selectOutput ServiceHost.emitFor emitted
  rcases emitJavaScript content p options with ⟨code, map⟩
  cases map with
  | none => simp [hmap, hdecl]
  | some m => simp [hmap, hdecl, endsWith_append_self]

/-- The output the compilers agree on for a file: read from the build of the referenced
project holding it, for an isolated compiler, and otherwise the emit of the content with the
call's options. -/
def expectedOutput (store : FileStore) (S : Settings) (content : String) (path : Path)
    (t : TransformOptions) : Option Output :=
  match (if S.isolated then S.referenceFor path else none) with
  | some r => (readReferenced store r path).toOption
  | none => some (emitted content path (S.optionsFor t))

/-- Outside the referenced projects, the expected output is the emit, for either compiler. -/
theorem expectedOutput_of_no_reference {store : FileStore} {S : Settings} {content : String}
    {path : Path} (t : TransformOptions) (href : S.referenceFor path = none) :
    expectedOutput store S content path t = some (emitted content path (S.optionsFor t)) := by
  unfold expectedOutput
  rw [show (if S.isolated then S.referenceFor path else none) = none by split <;> simp [href]]

/-! ## Compiling one file on its own -/

theorem transpile_fst (m : Standin.Module) (input : String) (file : Path)
    (options : CompilerOptions) (report : Bool) :
    (m.transpile input file options report).1 =
      ⟨(emitJavaScript input file options).1, (emitJavaScript input file options).2,
        if report then Standin.syntacticDiagnostics input file else []⟩ := rfl

/-- Outside the referenced projects, an isolated compile transpiles the file and raises its
syntactic diagnostics when they are reported; it fails only there. -/
theorem compileIsolated_run_of_none {S : Settings} (content : String) {path : Path}
    (t : TransformOptions) (w : Workspace) (href : S.referenceFor path.normalize = none) :
    ∃ w₁, (compileIsolated S content path t).run.run w =
      if S.shouldReport path.normalize then
        match w₁.raise S (Standin.syntacticDiagnostics content path.normalize) path.normalize with
        | .ok w₂ => (.ok (emitted content path.normalize (S.optionsFor t)), w₂)
        | .error e => (.error e, w₁)
      else (.ok (emitted content path.normalize (S.optionsFor t)), w₁) := by
  refine ⟨w.setModule ((CheckedCompiler.moduleOf S w).transpile content path.normalize
    (S.optionsFor t) (S.shouldReport path.normalize)).2, ?_⟩
  unfold compileIsolated
  rw [exceptState_bind_ok (show (get : ExceptT CompileError (StateM Workspace) Workspace).run.run w =
    (.ok w, w) from rfl)]
  dsimp only
  rw [href]
  dsimp only
  rw [exceptState_bind_ok (show (set _ : ExceptT CompileError (StateM Workspace) PUnit).run.run w =
    (.ok ⟨⟩, _) from rfl)]
  simp only [transpile_fst]
  rw [show (w.module? S.compilerName).getD (Standin.Module.ofVersion S.compilerName S.compilerVersion) =
    CheckedCompiler.moduleOf S w from rfl]
  split
  · rw [exceptState_run_bind]
    cases (w.setModule ((CheckedCompiler.moduleOf S w).transpile content path.normalize
      (S.optionsFor t) (S.shouldReport path.normalize)).2).raise S
        (Standin.syntacticDiagnostics content path.normalize) path.normalize <;> rfl
  · rfl

theorem compileIsolated_ok {S : Settings} (hiso : S.isolated = true) {content : String}
    {path : Path} {t : TransformOptions} {w w' : Workspace} {o : Output}
    (h : (compileIsolated S content path t).run.run w = (.ok o, w')) :
    expectedOutput w.store S content path.normalize t = some o := by
  unfold expectedOutput
  rw [hiso, if_pos rfl]
  cases hr : S.referenceFor path.normalize with
  | some r =>
    unfold compileIsolated at h
    rw [exceptState_bind_ok (show (get : ExceptT CompileError (StateM Workspace) Workspace).run.run w =
      (.ok w, w) from rfl)] at h
    dsimp only at h
    rw [hr] at h
    dsimp only at h
    cases hread : readReferenced w.store r path.normalize with
    | error e =>
      rw [hread] at h
      cases h
    | ok o' =>
      rw [hread] at h
      cases h
      dsimp only
      rw [hread]
      rfl
  | none =>
    obtain ⟨w₁, hrun⟩ := compileIsolated_run_of_none content t w hr
    rw [hrun] at h
    -- the transpile's result is the emit; only the raise of its diagnostics may fail
    split at h
    · split at h
      · cases h
        rfl
      · cases h
    · cases h
      rfl

/-- An isolated compile of a file outside the referenced projects whose syntax passes gives
the emit of its content. -/
theorem compileIsolated_progress {S : Settings} {content : String} {path : Path}
    {t : TransformOptions} (w : Workspace) (href : S.referenceFor path.normalize = none)
    (hpass : S.SyntaxPasses content path.normalize) :
    ∃ w', (compileIsolated S content path t).run.run w =
      (.ok (emitted content path.normalize (S.optionsFor t)), w') := by
  obtain ⟨w₁, hrun⟩ := compileIsolated_run_of_none content t w href
  rw [hrun]
  split
  · obtain ⟨ws, hws⟩ := hpass w₁.store
    unfold Workspace.raise
    rw [hws]
    exact ⟨_, rfl⟩
  · exact ⟨_, rfl⟩

/-- An isolated compile succeeds with the expected output when the file's syntax passes or
the file belongs to a referenced project. -/
theorem compileIsolated_succeeds {S : Settings} (hiso : S.isolated = true) {content : String}
    {path : Path} {t : TransformOptions} (w : Workspace) {o : Output}
    (ho : expectedOutput w.store S content path.normalize t = some o)
    (hpass : S.referenceFor path.normalize = none → S.SyntaxPasses content path.normalize) :
    ∃ w', (compileIsolated S content path t).run.run w = (.ok o, w') := by
  unfold expectedOutput at ho
  rw [hiso, if_pos rfl] at ho
  cases href : S.referenceFor path.normalize with
  | none =>
    rw [href] at ho
    dsimp only at ho
    cases ho
    exact compileIsolated_progress w href (hpass href)
  | some r =>
    rw [href] at ho
    dsimp only at ho
    -- the file is read from what the build of its project wrote
    cases hread : readReferenced w.store r path.normalize with
    | error e =>
      rw [hread] at ho
      cases ho
    | ok o' =>
      rw [hread] at ho
      cases ho
      refine ⟨w, ?_⟩
      unfold compileIsolated
      rw [exceptState_bind_ok (show (get : ExceptT CompileError (StateM Workspace) Workspace).run.run w =
        (.ok w, w) from rfl)]
      dsimp only
      rw [href]
      dsimp only
      rw [hread]
      rfl

/-! ## Either kind of compiler -/

namespace Instance

/-- A compiler fits settings: it is isolated exactly when they ask for it, and a
type-checking one is sound for them. -/
def SoundFor (S : Settings) : Compiler.Instance → Prop
  | .isolated => S.isolated = true
  | .checked c => S.isolated = false ∧ CheckedCompiler.Sound S c

theorem soundFor_start (S : Settings) (store : FileStore) : (start S store).SoundFor S := by
  unfold start
  split
  · assumption
  · exact ⟨by simpa using ‹¬S.isolated = true›, CheckedCompiler.sound_start S store⟩

variable {α : Type} (isolated : ExceptT CompileError (StateM Workspace) α) (checked : CheckedRun α)
  (w : Workspace)

theorem run_isolated :
    (run isolated checked).run.run (w, .isolated) =
      ((isolated.run.run w).1, ((isolated.run.run w).2, .isolated)) := rfl

theorem run_checked (c : CheckedCompiler) :
    (run isolated checked).run.run (w, .checked c) =
      ((checked.run.run (w, c)).1, ((checked.run.run (w, c)).2.1, .checked (checked.run.run (w, c)).2.2)) :=
  rfl

end Instance

/-- A compile keeps a compiler fit for its settings, whatever its outcome. -/
theorem Instance.compile_soundFor {S : Settings} (hS : S.options.PassesOnUntyped)
    {i : Compiler.Instance} (hi : i.SoundFor S) (w : Workspace) (content : String) (path : Path)
    (t : TransformOptions) : ((compile S content path t).run.run (w, i)).2.2.SoundFor S := by
  cases i with
  | isolated => exact hi
  | checked c =>
    unfold compile
    rw [run_checked]
    exact ⟨hi.1, (CheckedCompiler.compile_spec hS hi.2 w content path t).1⟩

/-- A compile that succeeds gives the expected output, and for a type-checking compiler the
content passes the syntactic check. -/
theorem Instance.compile_output {S : Settings} (hS : S.options.PassesOnUntyped) {i : Compiler.Instance}
    (hi : i.SoundFor S) (w : Workspace) (content : String) {path : Path} {x : String}
    (hx : path.normalize.extension = some x) (t : TransformOptions) {o : Output}
    (ho : ((compile S content path t).run.run (w, i)).1 = .ok o) :
    expectedOutput w.store S content path.normalize t = some o ∧
      (S.isolated = false → S.SyntaxPasses content path.normalize) := by
  cases i with
  | isolated =>
    have hiso : S.isolated = true := hi
    refine ⟨compileIsolated_ok hiso (Prod.ext ho rfl), fun h => ?_⟩
    simp [hiso] at h
  | checked c =>
    obtain ⟨hiso, hc⟩ := hi
    unfold compile at ho
    rw [run_checked] at ho
    dsimp only at ho
    obtain ⟨hsel, hpass⟩ := (CheckedCompiler.compile_spec hS hc w content path t).2 o ho
    rw [selectOutput_emitFor hx] at hsel
    cases hsel
    exact ⟨by simp [expectedOutput, hiso], fun _ => hpass⟩

theorem Instance.resolvedModules_soundFor {S : Settings} {i : Compiler.Instance} (hi : i.SoundFor S)
    (w : Workspace) (content : String) (path : Path) :
    ((resolvedModules S content path).run.run (w, i)).2.2.SoundFor S := by
  cases i with
  | isolated => exact hi
  | checked c => exact ⟨hi.1, CheckedCompiler.resolvedModules_sound hi.2 w content path⟩

end Compiler

end TestTransform
