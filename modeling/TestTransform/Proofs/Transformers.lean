import TestTransform.Proofs.CompileOutputs

/-
A transformer over its whole history.

A transformer is sound when every entry's options pass on only options of their own fields
and its compiler fits its settings. Building an entry, compiling on it, looking up a file's
imports, and so every call a worker makes (transforming, the two cache keys and the
settings), keep a transformer sound; so every transformer a worker reaches from an empty one
is sound.

On a sound transformer, a transformation that succeeds gives `transformOutput`: a function of
the files, the settings of the call, the next transformer, the source, the path and the
call's options alone, whatever the worker did before.
-/

namespace TestTransform

open Config Compiler Standin

/-! ## Sound transformers -/

/-- An entry's options pass on only options of their own fields, and its compiler fits its
settings. -/
structure Entry.Sound (e : Entry) : Prop where
  options : e.settings.options.PassesOnUntyped
  compiler : e.compiler.SoundFor e.settings

namespace Transformer

/-- Every entry of the transformer is sound. -/
def Sound (T : Transformer) : Prop := ∀ k e, T.entry k = some e → e.Sound

theorem sound_empty : empty.Sound := by
  intro k e he
  unfold entry empty at he
  simp at he

/-- The settings a call of the transformer would use for a host configuration. -/
def settingsAt (T : Transformer) (w : Workspace) (h : HostConfig) : Except TransformError Settings :=
  ((settingsFor h).run.run (w, T)).1

/-- The transformer's settings for a host configuration are those the workspace's files give
now: it built them, if it did, from the same files. -/
def Current (T : Transformer) (w : Workspace) (h : HostConfig) : Prop :=
  T.settingsAt w h = (Settings.build h w.store w.registry w.envIgnore).mapError .config

theorem entry_push (T : Transformer) (e : Entry) (known : List (String × Nat)) (k : Nat) :
    ({ T with entries := T.entries.push e, known := known } : Transformer).entry k =
      if k = T.entries.size then some e else T.entry k := by
  simp [entry, Array.getElem?_push]

theorem entry_set {T : Transformer} {j : Nat} {e₀ : Entry} (hj : T.entry j = some e₀) (e : Entry)
    (k : Nat) :
    ({ T with entries := T.entries.set! j e } : Transformer).entry k =
      if k = j then some e else T.entry k := by
  have hlt : j < T.entries.size := (Array.getElem?_eq_some_iff.mp hj).1
  unfold entry
  rw [Array.set!_eq_setIfInBounds, Array.getElem?_setIfInBounds, if_pos hlt]
  by_cases hk : k = j
  · simp [hk]
  · simp [hk, Ne.symm hk]

theorem sound_push {T : Transformer} (hT : T.Sound) {e : Entry} (he : e.Sound)
    (known : List (String × Nat)) :
    ({ T with entries := T.entries.push e, known := known } : Transformer).Sound := by
  intro k e' hk
  rw [entry_push] at hk
  split at hk
  · cases hk
    exact he
  · exact hT k e' hk

theorem sound_set {T : Transformer} (hT : T.Sound) {j : Nat} {e₀ e : Entry}
    (hj : T.entry j = some e₀) (he : e.Sound) :
    ({ T with entries := T.entries.set! j e } : Transformer).Sound := by
  intro k e' hk
  rw [entry_set hj] at hk
  split at hk
  · cases hk
    exact he
  · exact hT k e' hk

theorem entryByText_run (h : HostConfig) (w : Workspace) (T : Transformer) :
    (entryByText h).run.run (w, T) = match T.known.lookup h.canonical with
      | some k => (.ok k, (w, T))
      | none => match Settings.build h w.store w.registry w.envIgnore with
        | .error e => (.error (.config e), (w, T))
        | .ok s => (.ok T.entries.size, (w, { T with
            entries := T.entries.push ⟨s, Compiler.Instance.start s w.store⟩,
            known := T.known ++ [(h.canonical, T.entries.size)] })) := by
  unfold entryByText
  rw [exceptState_bind_ok (show (get : Transforming _).run.run (w, T) = (.ok (w, T), (w, T)) from rfl)]
  dsimp only
  cases T.known.lookup h.canonical with
  | some k => rfl
  | none => cases Settings.build h w.store w.registry w.envIgnore <;> rfl

theorem entryByText_sound {T : Transformer} (hT : T.Sound) (h : HostConfig) (w : Workspace) :
    ((entryByText h).run.run (w, T)).2.2.Sound := by
  rw [entryByText_run]
  split
  · exact hT
  · split
    · exact hT
    · rename_i s hb
      exact sound_push hT ⟨Settings.build_passesOnUntyped hb, Compiler.Instance.soundFor_start s w.store⟩ _

theorem entryForShared_run (h : SharedHost) (w : Workspace) (T : Transformer) :
    (entryForShared h).run.run (w, T) =
      match T.slots.find? (fun (s, _) => s.address == h.address) with
      | some (_, k) => (.ok k, (w, T))
      | none => match (entryByText h.config).run.run (w, T) with
        | (.ok k, (w', T')) => (.ok k, (w', { T' with slots := takeSlot h k T'.slots }))
        | (.error e, σ) => (.error e, σ) := by
  unfold entryForShared
  rw [exceptState_bind_ok (show (get : Transforming _).run.run (w, T) = (.ok (w, T), (w, T)) from rfl)]
  dsimp only
  cases T.slots.find? (fun (s, _) => s.address == h.address) with
  | some sk => rfl
  | none =>
    dsimp only
    rw [exceptState_run_bind]
    rcases (entryByText h.config).run.run (w, T) with ⟨_ | k, w', T'⟩ <;> rfl

/-- Which copy a slot holds says nothing about the entries. -/
theorem sound_slots {T : Transformer} (hT : T.Sound) (slots : List (SharedHost × Nat)) :
    ({ T with slots := slots } : Transformer).Sound :=
  fun k e he => hT k e he

theorem entryForShared_sound {T : Transformer} (hT : T.Sound) (h : SharedHost) (w : Workspace) :
    ((entryForShared h).run.run (w, T)).2.2.Sound := by
  rw [entryForShared_run]
  split
  · exact hT
  · have hb := entryByText_sound hT h.config w
    revert hb
    rcases (entryByText h.config).run.run (w, T) with ⟨_ | k, w', T'⟩
    · exact id
    · exact fun hb => sound_slots hb _

theorem entryFor_run (h : HostConfig) (w : Workspace) (T : Transformer) :
    (entryFor h).run.run (w, T) = (entryForShared ⟨freshAddress T, h⟩).run.run (w, T) := by
  unfold entryFor
  rw [exceptState_bind_ok (show (get : Transforming _).run.run (w, T) = (.ok (w, T), (w, T)) from rfl)]

theorem entryFor_sound {T : Transformer} (hT : T.Sound) (h : HostConfig) (w : Workspace) :
    ((entryFor h).run.run (w, T)).2.2.Sound := by
  rw [entryFor_run]
  exact entryForShared_sound hT _ w

theorem onCompiler_run {α : Type} {k : Nat}
    (f : Settings → ExceptT CompileError (StateM (Workspace × Compiler.Instance)) α) (w : Workspace)
    {T : Transformer} {e : Entry} (he : T.entry k = some e) :
    (onCompiler k f).run.run (w, T) =
      ((match ((f e.settings).run.run (w, e.compiler)).1 with
          | .ok a => .ok a
          | .error ce => .error (.compile ce)),
        (((f e.settings).run.run (w, e.compiler)).2.1,
          { T with entries := T.entries.set! k { e with compiler := ((f e.settings).run.run (w, e.compiler)).2.2 } })) := by
  unfold onCompiler
  rw [exceptState_bind_ok (show (get : Transforming _).run.run (w, T) = (.ok (w, T), (w, T)) from rfl)]
  dsimp only
  rw [he]
  dsimp only
  rcases (f e.settings).run.run (w, e.compiler) with ⟨_ | _, w', i⟩ <;> rfl

theorem onCompiler_run_none {α : Type} {k : Nat}
    (f : Settings → ExceptT CompileError (StateM (Workspace × Compiler.Instance)) α) (w : Workspace)
    {T : Transformer} (he : T.entry k = none) :
    (onCompiler k f).run.run (w, T) = (.error (.fallback "" "no such entry"), (w, T)) := by
  unfold onCompiler
  rw [exceptState_bind_ok (show (get : Transforming _).run.run (w, T) = (.ok (w, T), (w, T)) from rfl)]
  dsimp only
  rw [he]
  rfl

/-! ## Every call keeps a transformer sound -/

/-- Run from a sound transformer, the step leaves a sound one, whatever its outcome. -/
def KeepsSound {α : Type} (m : Transforming α) : Prop :=
  ∀ w T, Sound T → Sound ((m.run.run (w, T)).2.2)

theorem keepsSound_of_transformer {α : Type} {m : Transforming α}
    (hm : ∀ w T, ((m.run.run (w, T)).2.2) = T) : KeepsSound m := by
  intro w T hT
  rw [hm]
  exact hT

theorem keepsSound_pure {α : Type} (a : α) : KeepsSound (pure a : Transforming α) :=
  keepsSound_of_transformer (fun _ _ => rfl)

theorem keepsSound_bind {α β : Type} {m : Transforming α} {f : α → Transforming β}
    (hm : KeepsSound m) (hf : ∀ a, KeepsSound (f a)) : KeepsSound (m >>= f) := by
  intro w T hT
  rw [exceptState_run_bind]
  have hm' := hm w T hT
  rcases hrun : m.run.run (w, T) with ⟨_ | a, w', T'⟩ <;> rw [hrun] at hm'
  · exact hm'
  · exact hf a w' T' hm'

theorem keepsSound_get : KeepsSound (get : Transforming (Workspace × Transformer)) :=
  keepsSound_of_transformer (fun _ _ => rfl)

theorem keepsSound_throw {α : Type} (e : TransformError) : KeepsSound (throw e : Transforming α) :=
  keepsSound_of_transformer (fun _ _ => rfl)

theorem keepsSound_entryFor (h : HostConfig) : KeepsSound (entryFor h) :=
  fun w _ hT => entryFor_sound hT h w

theorem keepsSound_settingsOf (k : Nat) : KeepsSound (settingsOf k) := by
  refine keepsSound_of_transformer (fun w T => ?_)
  unfold settingsOf
  rw [exceptState_bind_ok (show (get : Transforming _).run.run (w, T) = (.ok (w, T), (w, T)) from rfl)]
  dsimp only
  split <;> rfl

theorem keepsSound_warn (code : Nat) (message : String) : KeepsSound (warn code message) :=
  keepsSound_of_transformer (fun _ _ => rfl)

/-- A step on an entry's compiler keeps the transformer sound when it keeps a compiler fit
for settings whose options pass on only their own fields. -/
theorem keepsSound_onCompiler {α : Type} (k : Nat)
    {f : Settings → ExceptT CompileError (StateM (Workspace × Compiler.Instance)) α}
    (hf : ∀ S i w, S.options.PassesOnUntyped → i.SoundFor S → ((f S).run.run (w, i)).2.2.SoundFor S) :
    KeepsSound (onCompiler k f) := by
  intro w T hT
  cases he : T.entry k with
  | none =>
    rw [onCompiler_run_none f w he]
    exact hT
  | some e =>
    rw [onCompiler_run f w he]
    have hs := hT k e he
    exact sound_set hT he ⟨hs.options, hf _ _ w hs.options hs.compiler⟩

theorem keepsSound_compile (k : Nat) (source : String) (path : Path) (options : TransformOptions) :
    KeepsSound (onCompiler k (fun s => Compiler.Instance.compile s source path options)) :=
  keepsSound_onCompiler k (fun _ _ w hS hi => Compiler.Instance.compile_soundFor hS hi w _ _ _)

/-- The last step of `process`, as it runs it: the next transformer's part, given the
transform's result for the file at `path`. -/
def handOver (fallback : Option Fallback) (path : Path) (r : Transformed) : Transforming Transformed :=
  match fallback with
  | some (.recording _) => do
    modify (fun (w, t) => ({ w with calls := w.calls ++ [(path, false)] }, t))
    pure ⟨Fallback.marker ++ r.code, none⟩
  | some (.failing name message) => throw (.fallback name message)
  | none => pure r

theorem keepsSound_handOver (fallback : Option Fallback) (path : Path) (r : Transformed) :
    KeepsSound (handOver fallback path r) := by
  unfold handOver
  split
  · exact keepsSound_bind (keepsSound_of_transformer (fun _ _ => rfl)) (fun _ => keepsSound_pure _)
  · exact keepsSound_throw _
  · exact keepsSound_pure _

theorem keepsSound_processAt (k : Nat) (source : String) (path : Path)
    (options : TransformOptions) : KeepsSound (processAt k source path options) := by
  unfold processAt
  refine keepsSound_bind (keepsSound_settingsOf k) (fun s => ?_)
  dsimp only
  split
  · exact keepsSound_pure _
  split
  · exact keepsSound_pure _
  refine keepsSound_bind keepsSound_get (fun σ => ?_)
  -- each kind of file gives a result, by a warning or a compile, and the next transformer
  -- runs: split the kinds, and JavaScript on whether it is allowed
  split
  · split
    · exact keepsSound_bind (keepsSound_warn _ _)
        (fun _ => keepsSound_bind (keepsSound_pure _) (keepsSound_handOver _ _))
    · exact keepsSound_bind (keepsSound_compile _ _ _ _)
        (fun _ => keepsSound_bind (keepsSound_pure _) (keepsSound_handOver _ _))
  · exact keepsSound_bind (keepsSound_compile _ _ _ _)
      (fun _ => keepsSound_bind (keepsSound_pure _) (keepsSound_handOver _ _))
  · exact keepsSound_bind (keepsSound_warn _ _)
      (fun _ => keepsSound_bind (keepsSound_pure _) (keepsSound_handOver _ _))

theorem keepsSound_process (source : String) (path : Path) (h : HostConfig)
    (options : TransformOptions) : KeepsSound (process source path h options) :=
  keepsSound_bind (keepsSound_entryFor h) (fun k => keepsSound_processAt k _ _ _)

theorem keepsSound_entryForText (serialized : String) : KeepsSound (entryForText serialized) := by
  unfold entryForText
  refine keepsSound_bind keepsSound_get (fun ⟨_, t⟩ => ?_)
  dsimp only
  split
  · exact keepsSound_pure _
  · split
    · exact keepsSound_throw _
    · refine keepsSound_bind (keepsSound_entryFor _) (fun k => keepsSound_bind ?_ (fun _ => keepsSound_pure _))
      -- naming the entry by another text leaves the entries as they were
      exact fun w T hT => hT

theorem keepsSound_computeKey (k : Nat) (source : String) (path : Path) (options : TransformOptions) :
    KeepsSound (computeKey k source path options) := by
  unfold computeKey
  refine keepsSound_bind (keepsSound_settingsOf k) (fun s => ?_)
  refine keepsSound_bind keepsSound_get (fun σ => ?_)
  dsimp only
  split
  · exact keepsSound_pure _
  · refine keepsSound_bind (keepsSound_onCompiler k (fun _ _ w _ hi => ?_)) (fun modules => ?_)
    · exact Compiler.Instance.resolvedModules_soundFor hi w _ _
    · exact keepsSound_bind keepsSound_get (fun _ => keepsSound_pure _)

theorem keepsSound_cacheKey (source : String) (path : Path) (serialized : String)
    (options : TransformOptions) : KeepsSound (cacheKey source path serialized options) :=
  keepsSound_bind (keepsSound_entryForText serialized) (fun k => keepsSound_computeKey k _ _ _)

theorem keepsSound_cacheKeyFor (source : String) (path : Path) (h : HostConfig)
    (options : TransformOptions) : KeepsSound (cacheKeyFor source path h options) :=
  keepsSound_bind (keepsSound_entryFor h) (fun k => keepsSound_computeKey k _ _ _)

theorem keepsSound_settingsFor (h : HostConfig) : KeepsSound (settingsFor h) :=
  keepsSound_bind (keepsSound_entryFor h) keepsSound_settingsOf

/-! ## Reachable transformers -/

/-- The transformers a worker reaches from an empty one by transforming files and computing
their cache keys, over workspaces that may change between calls. -/
inductive Reachable : Transformer → Prop
  | empty : Reachable empty
  | process {T : Transformer} (w : Workspace) (source : String) (path : Path) (h : HostConfig)
      (options : TransformOptions) :
      Reachable T → Reachable ((process source path h options).run.run (w, T)).2.2
  | cacheKey {T : Transformer} (w : Workspace) (source : String) (path : Path) (serialized : String)
      (options : TransformOptions) :
      Reachable T → Reachable ((cacheKey source path serialized options).run.run (w, T)).2.2
  | cacheKeyFor {T : Transformer} (w : Workspace) (source : String) (path : Path) (h : HostConfig)
      (options : TransformOptions) :
      Reachable T → Reachable ((cacheKeyFor source path h options).run.run (w, T)).2.2
  | settingsFor {T : Transformer} (w : Workspace) (h : HostConfig) :
      Reachable T → Reachable ((settingsFor h).run.run (w, T)).2.2

theorem Reachable.sound {T : Transformer} (hT : Reachable T) : T.Sound := by
  induction hT with
  | empty => exact sound_empty
  | process w source path h options _ ih => exact keepsSound_process source path h options w _ ih
  | cacheKey w source path serialized options _ ih =>
    exact keepsSound_cacheKey source path serialized options w _ ih
  | cacheKeyFor w source path h options _ ih => exact keepsSound_cacheKeyFor source path h options w _ ih
  | settingsFor w h _ ih => exact keepsSound_settingsFor h w _ ih

/-! ## What a transformation gives -/

/-- The compiled output of a file, as the next transformer gets it. -/
def compiledOutput (store : FileStore) (S : Settings) (source : String) (path : Path)
    (t : TransformOptions) : Option Transformed :=
  (expectedOutput store S source path t).map (fun o => ⟨o.code, o.sourceMap⟩)

/-- By its kind, a file is compiled or passed on as it is. -/
def kindOutput (store : FileStore) (S : Settings) (source : String) (path : Path)
    (t : TransformOptions) : Option Transformed :=
  match FileKind.of path with
  | .javaScript => if S.allowsJs then compiledOutput store S source path t else some ⟨source, none⟩
  | .typeScript => compiledOutput store S source path t
  | .other => some ⟨source, none⟩

section KindOutput

variable {store : FileStore} {S : Settings} {source : String} {path : Path} {t : TransformOptions}

theorem kindOutput_javaScript (hk : FileKind.of path = .javaScript) :
    kindOutput store S source path t =
      if S.allowsJs then compiledOutput store S source path t else some ⟨source, none⟩ := by
  simp only [kindOutput, hk]

theorem kindOutput_typeScript (hk : FileKind.of path = .typeScript) :
    kindOutput store S source path t = compiledOutput store S source path t := by
  simp only [kindOutput, hk]

theorem kindOutput_other (hk : FileKind.of path = .other) :
    kindOutput store S source path t = some ⟨source, none⟩ := by
  simp only [kindOutput, hk]

end KindOutput

/-- The result a file gets by its kind, before the next transformer: compiled, or passed on
as it is with a warning. -/
def kindStep (k : Nat) (s : Settings) (source : String) (path : Path) (options : TransformOptions)
    (fallback : Option Fallback) : Transforming Transformed :=
  match FileKind.of path with
  | .javaScript =>
    if !s.allowsJs then do
      warn Diagnostic.jsWithoutAllowJs (jsWithoutAllowJsText path)
      pure ⟨source, none⟩
    else do
      let o ← onCompiler k (fun s => Compiler.Instance.compile s source path options)
      pure ⟨o.code, o.sourceMap⟩
  | .typeScript => do
    let o ← onCompiler k (fun s => Compiler.Instance.compile s source path options)
    pure ⟨o.code, o.sourceMap⟩
  | .other => do
    warn Diagnostic.unknownFileType (unknownFileTypeText path fallback)
    pure ⟨source, none⟩

/-- The next transformer marks what it is given, or fails. -/
def afterFallback : Option Fallback → Option Transformed → Option Transformed
  | some (.recording _), r => r.map (fun r => ⟨Fallback.marker ++ r.code, none⟩)
  | some (.failing _ _), _ => none
  | none, r => r

theorem handOver_ok (fallback : Option Fallback) (path : Path) (r : Transformed)
    (σ : Workspace × Transformer) {o : Transformed}
    (h : ((handOver fallback path r).run.run σ).1 = .ok o) : afterFallback fallback (some r) = some o := by
  rcases fallback with _ | ⟨name⟩ | ⟨name, message⟩ <;> cases h <;> rfl

theorem handOver_of_afterFallback (fallback : Option Fallback) (path : Path) (r : Transformed)
    (σ : Workspace × Transformer) {o : Transformed} (h : afterFallback fallback (some r) = some o) :
    ∃ σ', (handOver fallback path r).run.run σ = (.ok o, σ') := by
  rcases fallback with _ | ⟨name⟩ | ⟨name, message⟩ <;> cases h <;> exact ⟨_, rfl⟩

/-- The file goes to the compiler: it is neither a declaration file nor stringified, and it is
TypeScript, or JavaScript that the options allow. -/
def ReachesCompiler (S : Settings) (p : Path) : Prop :=
  let path := Path.resolve S.rootDir p
  path.isDeclarationFile = false ∧ S.shouldStringify path = false ∧
    (FileKind.of path = .typeScript ∨ FileKind.of path = .javaScript ∧ S.allowsJs = true)

/-- What transforming a file gives whenever it succeeds: declaration files are emptied,
stringified files export their text, and the others go through their kind's output and the
next transformer. -/
def transformOutput (store : FileStore) (S : Settings) (fallback : Option Fallback)
    (source : String) (p : Path) (t : TransformOptions) : Option Transformed :=
  let path := Path.resolve S.rootDir p
  if path.isDeclarationFile then some ⟨"", none⟩
  else if S.shouldStringify path then some ⟨"module.exports=" ++ (Json.Value.str source).compact, none⟩
  else afterFallback fallback (kindOutput store S source path t)

theorem settingsAt_ok_of_current {T : Transformer} {w : Workspace} {h : HostConfig}
    (hc : T.Current w h) {S : Settings} (hS : Settings.build h w.store w.registry w.envIgnore = .ok S) :
    T.settingsAt w h = .ok S := by
  rw [hc, hS]
  rfl

theorem settingsOf_run (k : Nat) (σ : Workspace × Transformer) :
    (settingsOf k).run.run σ = (match σ.2.entry k with
      | some e => .ok e.settings
      | none => .error (.fallback "" "no such entry"), σ) := by
  unfold settingsOf
  rw [exceptState_bind_ok (show (get : Transforming _).run.run σ = (.ok σ, σ) from rfl)]
  cases σ.2.entry k <;> rfl

theorem warn_run (code : Nat) (message : String) (w : Workspace) (T : Transformer) :
    (warn code message).run.run (w, T) = (.ok (), (w.report [Diagnostic.warning code message], T)) :=
  rfl

/-- A transformation on an entry, as it runs: declaration files and stringified files end at
once, the others take their kind's step and hand its result over. -/
theorem processAt_run {T : Transformer} {k : Nat} {e : Entry} (he : T.entry k = some e)
    (w : Workspace) (source : String) (p : Path) (t : TransformOptions) :
    (processAt k source p t).run.run (w, T) =
      let path := e.settings.rootDir.resolve p
      if path.isDeclarationFile then (.ok ⟨"", none⟩, (w, T))
      else if e.settings.shouldStringify path then
        (.ok ⟨"module.exports=" ++ (Json.Value.str source).compact, none⟩, (w, T))
      else (kindStep k e.settings source path t w.fallback >>= handOver w.fallback path).run.run (w, T) := by
  unfold processAt
  rw [exceptState_run_bind, settingsOf_run]
  dsimp only
  rw [he]
  dsimp only
  split
  · rfl
  split
  · rfl
  rw [exceptState_bind_ok (show (get : Transforming _).run.run (w, T) = (.ok (w, T), (w, T)) from rfl)]
  -- the kinds' arms each end with the hand-over: split the kinds, and JavaScript on the option
  unfold kindStep
  cases FileKind.of (e.settings.rootDir.resolve p)
  · simp only [bind_assoc, pure_bind]
    rfl
  · cases e.settings.allowsJs
    · simp only [Bool.not_false, ↓reduceIte, bind_assoc, pure_bind]
      rfl
    · simp only [Bool.not_true, Bool.false_eq_true, ↓reduceIte, bind_assoc, pure_bind]
      rfl
  · simp only [bind_assoc, pure_bind]
    rfl

/-- An empty transformer builds the settings of any host configuration from the files it is
given. -/
theorem current_empty (w : Workspace) (h : HostConfig) : empty.Current w h := by
  unfold Current settingsAt settingsFor
  rw [exceptState_run_bind, entryFor_run, entryForShared_run, entryByText_run]
  -- an empty transformer holds no copy and knows no text, so the settings are built now
  cases Settings.build h w.store w.registry w.envIgnore <;> rfl

theorem entryByText_workspace (h : HostConfig) (w : Workspace) (T : Transformer) :
    ((entryByText h).run.run (w, T)).2.1 = w := by
  rw [entryByText_run]
  split
  · rfl
  · split <;> rfl

theorem entryForShared_workspace (h : SharedHost) (w : Workspace) (T : Transformer) :
    ((entryForShared h).run.run (w, T)).2.1 = w := by
  rw [entryForShared_run]
  split
  · rfl
  · have hw := entryByText_workspace h.config w T
    revert hw
    rcases (entryByText h.config).run.run (w, T) with ⟨_ | k, w', T'⟩ <;> exact id

theorem entryFor_workspace (h : HostConfig) (w : Workspace) (T : Transformer) :
    ((entryFor h).run.run (w, T)).2.1 = w := by
  rw [entryFor_run]
  exact entryForShared_workspace _ w T

/-- The settings of a call are those of the entry its host configuration gets. -/
theorem settingsAt_entry {T : Transformer} {w : Workspace} {h : HostConfig} {S : Settings}
    (hS : T.settingsAt w h = .ok S) :
    ∃ k T', (entryFor h).run.run (w, T) = (.ok k, (w, T')) ∧
      ∃ e, T'.entry k = some e ∧ e.settings = S := by
  unfold settingsAt settingsFor at hS
  rw [exceptState_run_bind] at hS
  have hw := entryFor_workspace h w T
  rcases hE : (entryFor h).run.run (w, T) with ⟨_ | k, w', T'⟩ <;> rw [hE] at hS hw
  · cases hS
  · dsimp only at hS hw
    subst hw
    rw [settingsOf_run] at hS
    dsimp only at hS
    split at hS
    · cases hS
      exact ⟨k, T', rfl, _, ‹_›, rfl⟩
    · cases hS

theorem FileKind.extension_of_ne_other {p : Path} (h : FileKind.of p ≠ .other) :
    ∃ x, p.extension = some x := by
  cases hx : p.extension with
  | none => simp [FileKind.of, hx] at h
  | some x => exact ⟨x, rfl⟩

/-- A compile on an entry of a sound transformer that succeeds gives the compiled output, and
for a type-checking compiler the content passes the syntactic check. -/
theorem compiledOutput_of_run {T : Transformer} (hT : T.Sound) {k : Nat} {e : Entry}
    (he : T.entry k = some e) (w : Workspace) (source : String) {path : Path}
    (hpath : path.normalize = path) {x : String} (hx : path.extension = some x)
    (t : TransformOptions) {out : Output} {σ : Workspace × Transformer}
    (h : (onCompiler k (fun s => Compiler.Instance.compile s source path t)).run.run (w, T) = (.ok out, σ)) :
    compiledOutput w.store e.settings source path t = some ⟨out.code, out.sourceMap⟩ ∧
      (e.settings.isolated = false → e.settings.SyntaxPasses source path) := by
  rw [onCompiler_run _ w he] at h
  have h₁ := congrArg Prod.fst h
  dsimp only at h₁
  split at h₁
  · rename_i out' hc
    cases h₁
    have hx' : path.normalize.extension = some x := by rw [hpath]; exact hx
    have hout := Compiler.Instance.compile_output (hT k e he).options (hT k e he).compiler w
      source hx' t hc
    rw [hpath] at hout
    exact ⟨by simp [compiledOutput, hout.1], hout.2⟩
  · cases h₁

/-- A kind's step that succeeds on a sound transformer gives the file's kind output; a file it
compiled on a type-checking entry passed its syntactic check. -/
theorem kindStep_ok {T : Transformer} (hT : T.Sound) {k : Nat} {e : Entry}
    (he : T.entry k = some e) (w : Workspace) (source : String) {path : Path}
    (hpath : path.normalize = path) (t : TransformOptions) (fb : Option Fallback) {r : Transformed}
    (h : ((kindStep k e.settings source path t fb).run.run (w, T)).1 = .ok r) :
    kindOutput w.store e.settings source path t = some r ∧
      (e.settings.isolated = false →
        (FileKind.of path = .typeScript ∨ FileKind.of path = .javaScript ∧ e.settings.allowsJs = true) →
        e.settings.SyntaxPasses source path) := by
  -- a compile that succeeds gives the compiled output
  have compiled : FileKind.of path ≠ .other →
      ((do
        let o ← onCompiler k fun s => Compiler.Instance.compile s source path t
        pure ⟨o.code, o.sourceMap⟩ : Transforming Transformed).run.run (w, T)).1 = .ok r →
      compiledOutput w.store e.settings source path t = some r ∧
        (e.settings.isolated = false → e.settings.SyntaxPasses source path) := by
    intro hkind hrun
    obtain ⟨x, hx⟩ := FileKind.extension_of_ne_other hkind
    obtain ⟨out, σ, hc, hpure⟩ := exceptState_bind_eq_ok hrun
    cases hpure
    exact compiledOutput_of_run hT he w source hpath hx t hc
  unfold kindStep at h
  split at h
  · rename_i hk
    rw [kindOutput_javaScript hk]
    split at h
    · rename_i hjs
      obtain ⟨_, _, -, hpure⟩ := exceptState_bind_eq_ok h
      cases hpure
      exact ⟨by rw [if_neg (by simpa using hjs)], fun _ hr => by simp_all⟩
    · rename_i hjs
      obtain ⟨hout, hpass⟩ := compiled (by rw [hk]; decide) h
      exact ⟨by rw [if_pos (by simpa using hjs), hout], fun hiso _ => hpass hiso⟩
  · rename_i hk
    rw [kindOutput_typeScript hk]
    obtain ⟨hout, hpass⟩ := compiled (by rw [hk]; decide) h
    exact ⟨hout, fun hiso _ => hpass hiso⟩
  · rename_i hk
    rw [kindOutput_other hk]
    obtain ⟨_, _, -, hpure⟩ := exceptState_bind_eq_ok h
    cases hpure
    exact ⟨rfl, fun _ hr => by simp_all⟩

/-- On a sound transformer, a transformation that succeeds gives `transformOutput` for the
settings of the call; and a file that reached a type-checking compiler passed its syntactic
check. -/
theorem process_output {T : Transformer} (hT : T.Sound) {w : Workspace} {h : HostConfig}
    {S : Settings} (hS : T.settingsAt w h = .ok S) (source : String) (p : Path)
    (t : TransformOptions) {o : Transformed}
    (ho : ((process source p h t).run.run (w, T)).1 = .ok o) :
    transformOutput w.store S w.fallback source p t = some o ∧
      (S.isolated = false → ReachesCompiler S p → S.SyntaxPasses source (Path.resolve S.rootDir p)) := by
  obtain ⟨k, T', hE, e, he, rfl⟩ := settingsAt_entry hS
  have hT' : T'.Sound := by simpa [hE] using entryFor_sound hT h w
  unfold process at ho
  rw [exceptState_bind_ok hE, processAt_run he] at ho
  unfold transformOutput ReachesCompiler
  dsimp only at ho ⊢
  split at ho
  · cases ho
    exact ⟨by rw [if_pos ‹_›], fun _ hr => absurd hr.1 (by simp [*])⟩
  rw [if_neg ‹_›]
  split at ho
  · cases ho
    exact ⟨by rw [if_pos ‹_›], fun _ hr => absurd hr.2.1 (by simp [*])⟩
  rw [if_neg ‹_›]
  -- the kind's step gives its output, and the next transformer runs on it
  obtain ⟨r, σ, hk, hrest⟩ := exceptState_bind_eq_ok ho
  obtain ⟨hr, hpass⟩ := kindStep_ok hT' he w source (Path.resolve_normalize _ _) t w.fallback (by rw [hk])
  exact ⟨by rw [hr]; exact handOver_ok _ _ _ _ hrest, fun hiso hreach => hpass hiso hreach.2.2⟩

/-- A declaration file becomes empty, whatever the transformer holds. -/
theorem process_declaration {T : Transformer} {w : Workspace} {h : HostConfig} {S : Settings}
    (hS : T.settingsAt w h = .ok S) (source : String) {p : Path}
    (hd : (Path.resolve S.rootDir p).isDeclarationFile = true) (t : TransformOptions) :
    ∃ σ, (process source p h t).run.run (w, T) = (.ok ⟨"", none⟩, σ) := by
  obtain ⟨k, T', hE, e, he, rfl⟩ := settingsAt_entry hS
  unfold process
  rw [exceptState_bind_ok hE, processAt_run he]
  dsimp only
  rw [if_pos hd]
  exact ⟨_, rfl⟩

theorem afterFallback_some {fb : Option Fallback} {r : Option Transformed} {o : Transformed}
    (h : afterFallback fb r = some o) : ∃ r', r = some r' := by
  cases r with
  | none => cases fb with
    | none => cases h
    | some f => cases f <;> cases h
  | some r' => exact ⟨r', rfl⟩

/-- On an isolated entry, a compile whose expected output exists gives it, when the file's
syntax passes or the file belongs to a referenced project. -/
theorem compile_of_isolated {T : Transformer} (hT : T.Sound) {k : Nat} {e : Entry}
    (he : T.entry k = some e) (hiso : e.settings.isolated = true) (w : Workspace) (source : String)
    {path : Path} (hpath : path.normalize = path) (t : TransformOptions) {out : Output}
    (hout : expectedOutput w.store e.settings source path t = some out)
    (hpass : e.settings.referenceFor path = none → e.settings.SyntaxPasses source path) :
    ∃ σ, (onCompiler k (fun s => Compiler.Instance.compile s source path t)).run.run (w, T) =
      (.ok out, σ) := by
  have hc : e.compiler = .isolated := by
    have hfit := (hT k e he).compiler
    cases hcomp : e.compiler with
    | isolated => rfl
    | checked c =>
      rw [hcomp] at hfit
      exact absurd (hiso.symm.trans hfit.1) (by decide)
  obtain ⟨w', hw'⟩ := compileIsolated_succeeds (t := t) hiso w (by rw [hpath]; exact hout)
    (by rw [hpath]; exact hpass)
  rw [onCompiler_run _ w he, hc]
  unfold Compiler.Instance.compile
  rw [Compiler.Instance.run_isolated, hw']
  exact ⟨_, rfl⟩

/-- On an isolated entry, a kind's step whose output exists gives it, when a file that goes to
the compiler outside the referenced projects passes its syntactic check. -/
theorem kindStep_of_isolated {T : Transformer} (hT : T.Sound) {k : Nat} {e : Entry}
    (he : T.entry k = some e) (hiso : e.settings.isolated = true) (w : Workspace) (source : String)
    {path : Path} (hpath : path.normalize = path) (t : TransformOptions) (fb : Option Fallback)
    {r : Transformed} (hr : kindOutput w.store e.settings source path t = some r)
    (hpass : (FileKind.of path = .typeScript ∨ FileKind.of path = .javaScript ∧ e.settings.allowsJs = true) →
      e.settings.referenceFor path = none → e.settings.SyntaxPasses source path) :
    ∃ σ, (kindStep k e.settings source path t fb).run.run (w, T) = (.ok r, σ) := by
  -- a compile gives the expected output
  have compiled : (FileKind.of path = .typeScript ∨
        FileKind.of path = .javaScript ∧ e.settings.allowsJs = true) →
      compiledOutput w.store e.settings source path t = some r →
      ∃ σ, (do
        let o ← onCompiler k fun s => Compiler.Instance.compile s source path t
        pure ⟨o.code, o.sourceMap⟩ : Transforming Transformed).run.run (w, T) = (.ok r, σ) := by
    intro hreach hc
    obtain ⟨out, hout, rfl⟩ := Option.map_eq_some_iff.mp hc
    obtain ⟨σ, hrun⟩ := compile_of_isolated hT he hiso w source hpath t hout (hpass hreach)
    exact ⟨σ, by rw [exceptState_bind_ok hrun]; rfl⟩
  unfold kindStep
  split
  · rename_i hk
    rw [kindOutput_javaScript hk] at hr
    split
    · rename_i hjs
      rw [if_neg (by simpa using hjs)] at hr
      cases hr
      exact ⟨_, rfl⟩
    · rename_i hjs
      rw [if_pos (by simpa using hjs)] at hr
      exact compiled (.inr ⟨hk, by simpa using hjs⟩) hr
  · rename_i hk
    rw [kindOutput_typeScript hk] at hr
    exact compiled (.inl hk) hr
  · rename_i hk
    rw [kindOutput_other hk] at hr
    cases hr
    exact ⟨_, rfl⟩

/-- With isolated settings, a transformation whose output exists succeeds with it, when a file
that reaches the compiler outside the referenced projects passes its syntactic check. -/
theorem process_of_isolated {T : Transformer} (hT : T.Sound) {w : Workspace} {h : HostConfig}
    {S : Settings} (hS : T.settingsAt w h = .ok S) (hiso : S.isolated = true) (source : String)
    (p : Path) (t : TransformOptions) {o : Transformed}
    (ho : transformOutput w.store S w.fallback source p t = some o)
    (hpass : ReachesCompiler S p → S.referenceFor (Path.resolve S.rootDir p) = none →
      S.SyntaxPasses source (Path.resolve S.rootDir p)) :
    ∃ σ, (process source p h t).run.run (w, T) = (.ok o, σ) := by
  obtain ⟨k, T', hE, e, he, rfl⟩ := settingsAt_entry hS
  have hT' : T'.Sound := by simpa [hE] using entryFor_sound hT h w
  unfold process
  rw [exceptState_bind_ok hE, processAt_run he]
  unfold transformOutput at ho
  unfold ReachesCompiler at hpass
  dsimp only at ho hpass ⊢
  split
  · rw [if_pos ‹_›] at ho
    cases ho
    exact ⟨_, rfl⟩
  rename_i hdecl
  rw [if_neg hdecl] at ho
  split
  · rw [if_pos ‹_›] at ho
    cases ho
    exact ⟨_, rfl⟩
  rename_i hstr
  rw [if_neg hstr] at ho
  -- the kind's output exists, and the next transformer marks it or passes it on
  obtain ⟨r, hr⟩ := afterFallback_some ho
  rw [hr] at ho
  obtain ⟨σ, hk⟩ := kindStep_of_isolated hT' he hiso w source (Path.resolve_normalize _ _) t w.fallback
    hr (fun hreach => hpass ⟨by simpa using hdecl, by simpa using hstr, hreach⟩)
  obtain ⟨σ', hh⟩ := handOver_of_afterFallback w.fallback _ r σ ho
  exact ⟨σ', by rw [exceptState_bind_ok hk, hh]⟩

end Transformer

end TestTransform
