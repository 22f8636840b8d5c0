import TestTransform.Proofs.RepeatedResolution
import TestTransform.Proofs.ConfigEntries
import TestTransform.Proofs.KeyStream

/-
Cache keys asked for twice.

Computing a key may record a graph entry, write the graph file and read scripts into the host,
but it gives the same key when asked again right after: the second request for the modules gets
the same modules and leaves the files as the first left them (`resolvedModules_again`), and the
key reads nothing else that either request changes (`computeKey_again`). A key is asked for with
a serialized configuration or a live one; on a transformer reached by the hooks, each call finds
the entry whose text is the canonical text of its configuration, provided a serialized text that
is some configuration's canonical text reads back to a configuration with that text. Two calls
whose configurations have one canonical text therefore find one entry.

The main statement, `consecutive_keys_agree`: on a transformer reached by the hooks, a key call
and the call right after it give the same key when their configurations have one canonical text,
whether each is serialized or live.
-/

namespace TestTransform

open Config Compiler Hash

namespace Compiler.Instance

theorem resolvedModules_checked (s : Settings) (content : String) (path : Path) (w : Workspace)
    (c : CheckedCompiler) :
    (resolvedModules s content path).run.run (w, .checked c) =
      (((CheckedCompiler.resolvedModules s content path).run.run (w, c)).1,
        (((CheckedCompiler.resolvedModules s content path).run.run (w, c)).2.1,
          .checked ((CheckedCompiler.resolvedModules s content path).run.run (w, c)).2.2)) := rfl

/-- Asking for the modules of a file never fails. -/
theorem resolvedModules_ok (s : Settings) (content : String) (path : Path) (w : Workspace)
    (inst : Compiler.Instance) :
    ∃ ms w' inst', (resolvedModules s content path).run.run (w, inst) = (.ok ms, (w', inst')) := by
  cases inst with
  | isolated => exact ⟨[], w, .isolated, rfl⟩
  | checked c =>
    rw [resolvedModules_checked]
    cases hl : c.graph.lookupValid path.normalize content with
    | some ms =>
      rw [CheckedCompiler.resolvedModules_valid s hl]
      exact ⟨ms, w, .checked c, rfl⟩
    | none =>
      obtain ⟨out, σ, hwalk, -⟩ := CheckedCompiler.collectImports_found s path.normalize w
        { c with host := (c.host.updateFile path.normalize content).2 }
      rw [CheckedCompiler.resolvedModules_walk s hl hwalk]
      exact ⟨out, _, _, rfl⟩

theorem resolvedModules_fallback (s : Settings) (content : String) (path : Path) (w : Workspace)
    (inst : Compiler.Instance) :
    ((resolvedModules s content path).run.run (w, inst)).2.1.fallback = w.fallback := by
  cases inst with
  | isolated => rfl
  | checked c => exact CheckedCompiler.resolvedModules_fallback s content path w c

/-- After a request that gave `ms`, the same request gives `ms` again and changes no file. -/
theorem resolvedModules_again (s : Settings) (content : String) (path : Path) {w w₁ : Workspace}
    {inst inst₁ : Compiler.Instance} {ms : List Path}
    (h : (resolvedModules s content path).run.run (w, inst) = (.ok ms, (w₁, inst₁))) :
    ∃ w₂ inst₂, (resolvedModules s content path).run.run (w₁, inst₁) = (.ok ms, (w₂, inst₂)) ∧
      w₂.store = w₁.store := by
  cases inst with
  | isolated =>
    cases h
    exact ⟨w, .isolated, rfl, rfl⟩
  | checked c =>
    rw [resolvedModules_checked] at h
    rcases hrun : (CheckedCompiler.resolvedModules s content path).run.run (w, c) with ⟨r, w', c'⟩
    rw [hrun] at h
    cases h
    obtain ⟨w₂, c₂, hrun₂, hstore⟩ := CheckedCompiler.resolvedModules_again s content path hrun
    exact ⟨w₂, .checked c₂, by rw [resolvedModules_checked, hrun₂], hstore⟩

end Compiler.Instance

namespace Transformer

/-! ## The key of one entry -/

/-- What the key of entry settings `s` is computed from, with `modules` the stamped modules. -/
def keyInputs (s : Settings) (source : String) (path : Path) (options : TransformOptions)
    (modules : List (String × Option Nat)) : KeyInputs :=
  ⟨s.cacheKey, s.rootDir.text, options.instrument, source, (Path.resolve s.rootDir path).text, modules⟩

/-- Each module with its modification time in the store. -/
def stamps (store : FileStore) (ms : List Path) : List (String × Option Nat) :=
  ms.map (fun m => (m.text, stampOf store m))

section ComputeKey

variable {k : Nat} {source : String} {path : Path} {options : TransformOptions} {w : Workspace}
  {T : Transformer}

theorem computeKey_none (he : T.entry k = none) :
    (computeKey k source path options).run.run (w, T) = (.error (.fallback "" "no such entry"), (w, T)) := by
  unfold computeKey
  rw [exceptState_bind_error (by rw [settingsOf_run, he])]

/-- Without a program the key hashes the settings and the call, and changes nothing. -/
theorem computeKey_isolated {e : Entry} (he : T.entry k = some e) (hiso : e.settings.isolated = true) :
    (computeKey k source path options).run.run (w, T) =
      (.ok (ofParts ((keyInputs e.settings source path options []).parts
        (w.fallback.map Fallback.name))), (w, T)) := by
  unfold computeKey
  rw [exceptState_bind_ok (by rw [settingsOf_run, he]),
    exceptState_bind_ok (show (get : Transforming _).run.run (w, T) = (.ok (w, T), (w, T)) from rfl)]
  dsimp only
  rw [if_pos hiso, fallbackParts]
  simp only [keyInputs, KeyInputs.parts, instrumentText, List.flatMap_nil, List.append_nil]
  rfl

/-- With a program the key hashes the modules the compiler gives, stamped from the store it
leaves; the entry keeps the compiler as it left it. -/
theorem computeKey_checked {e : Entry} (he : T.entry k = some e) (hiso : e.settings.isolated = false)
    {ms : List Path} {w' : Workspace} {inst' : Compiler.Instance}
    (hres : (Compiler.Instance.resolvedModules e.settings source (Path.resolve e.settings.rootDir path)).run.run
      (w, e.compiler) = (.ok ms, (w', inst'))) :
    (computeKey k source path options).run.run (w, T) =
      (.ok (ofParts ((keyInputs e.settings source path options (stamps w'.store ms)).parts
          (w.fallback.map Fallback.name))),
        (w', { T with entries := T.entries.set! k { e with compiler := inst' } })) := by
  unfold computeKey
  rw [exceptState_bind_ok (by rw [settingsOf_run, he]),
    exceptState_bind_ok (show (get : Transforming _).run.run (w, T) = (.ok (w, T), (w, T)) from rfl)]
  dsimp only
  rw [if_neg (by rw [hiso]; decide), exceptState_run_bind, onCompiler_run _ w he, hres]
  dsimp only
  rw [exceptState_bind_ok (show (get : Transforming _).run.run (w', _) = (.ok (w', _), (w', _)) from rfl),
    fallbackParts]
  simp only [keyInputs, stamps, KeyInputs.parts, instrumentText, List.flatMap_map, List.append_assoc]
  -- each module's stamp is its modification time in milliseconds, or the word `missing`
  congr 7
  funext m
  unfold stampOf
  cases w'.store.modified m <;> rfl

/-- A key is computed for every entry the transformer has. -/
theorem computeKey_ok {e : Entry} (he : T.entry k = some e) :
    ∃ key σ, (computeKey k source path options).run.run (w, T) = (.ok key, σ) := by
  cases hiso : e.settings.isolated with
  | true => exact ⟨_, _, computeKey_isolated he hiso⟩
  | false =>
    obtain ⟨ms, w', inst', hres⟩ := Compiler.Instance.resolvedModules_ok e.settings source
      (Path.resolve e.settings.rootDir path) w e.compiler
    exact ⟨_, _, computeKey_checked he hiso hres⟩

/-- A key computed for entry `k` hashes the parts of the entry's settings and the call, with the
modules the compiler gave, stamped. -/
theorem computeKey_eq_ofParts {e : Entry} (he : T.entry k = some e) {key : String}
    {σ : Workspace × Transformer} (hrun : (computeKey k source path options).run.run (w, T) = (.ok key, σ)) :
    ∃ ms, key = ofParts ((keyInputs e.settings source path options ms).parts (w.fallback.map Fallback.name)) := by
  cases hiso : e.settings.isolated with
  | true =>
    rw [computeKey_isolated he hiso] at hrun
    exact ⟨[], (Except.ok.inj (congrArg Prod.fst hrun)).symm⟩
  | false =>
    obtain ⟨ms, w', inst', hres⟩ := Compiler.Instance.resolvedModules_ok e.settings source
      (Path.resolve e.settings.rootDir path) w e.compiler
    rw [computeKey_checked he hiso hres] at hrun
    exact ⟨_, (Except.ok.inj (congrArg Prod.fst hrun)).symm⟩

/-- Right after a key is computed for entry `k`, computing it again from a transformer with the
same entry `k` gives the same key. -/
theorem computeKey_again {key : String} {w₁ : Workspace} {T₁ : Transformer}
    (hrun : (computeKey k source path options).run.run (w, T) = (.ok key, (w₁, T₁)))
    {T' : Transformer} (hT' : T'.entry k = T₁.entry k) :
    ∃ σ₂, (computeKey k source path options).run.run (w₁, T') = (.ok key, σ₂) := by
  cases he : T.entry k with
  | none =>
    rw [computeKey_none he] at hrun
    cases hrun
  | some e =>
    cases hiso : e.settings.isolated with
    | true =>
      rw [computeKey_isolated he hiso] at hrun
      obtain ⟨hkey, hσ⟩ := Prod.mk.inj hrun
      obtain rfl := Except.ok.inj hkey
      obtain ⟨rfl, rfl⟩ := Prod.mk.inj hσ
      exact ⟨(w, T'), computeKey_isolated (hT'.trans he) hiso⟩
    | false =>
      obtain ⟨ms, w', inst', hres⟩ := Compiler.Instance.resolvedModules_ok e.settings source
        (Path.resolve e.settings.rootDir path) w e.compiler
      have hfallback := Compiler.Instance.resolvedModules_fallback e.settings source
        (Path.resolve e.settings.rootDir path) w e.compiler
      rw [hres] at hfallback
      rw [computeKey_checked he hiso hres] at hrun
      obtain ⟨hkey, hσ⟩ := Prod.mk.inj hrun
      obtain rfl := Except.ok.inj hkey
      obtain ⟨rfl, rfl⟩ := Prod.mk.inj hσ
      -- the entry now holds the compiler the first request left
      have he' : T'.entry k = some { e with compiler := inst' } := by
        rw [hT', entry_set he, if_pos rfl]
      obtain ⟨w₂, inst₂, hres₂, hstore⟩ := Compiler.Instance.resolvedModules_again e.settings source
        (Path.resolve e.settings.rootDir path) hres
      rw [computeKey_checked he' hiso hres₂, hstore, hfallback]
      exact ⟨_, rfl⟩

end ComputeKey

/-! ## The key of a live configuration -/

section CacheKeyFor

variable {T : Transformer} {w : Workspace} {h : HostConfig} {S : Settings} {source : String}
  {path : Path} {options : TransformOptions}

/-- The key of a live configuration hashes the parts of the settings the transformer holds for it
and of the call. -/
theorem cacheKeyFor_eq_ofParts (hS : T.settingsAt w h = .ok S) {key : String}
    {σ : Workspace × Transformer} (hrun : (cacheKeyFor source path h options).run.run (w, T) = (.ok key, σ)) :
    ∃ ms, key = ofParts ((keyInputs S source path options ms).parts (w.fallback.map Fallback.name)) := by
  obtain ⟨k, T', hE, e, he, rfl⟩ := settingsAt_entry hS
  unfold cacheKeyFor at hrun
  rw [exceptState_bind_ok hE] at hrun
  exact computeKey_eq_ofParts he hrun

/-- With isolated settings the key hashes the settings and the call alone. -/
theorem cacheKeyFor_isolated (hS : T.settingsAt w h = .ok S) (hiso : S.isolated = true) :
    ∃ σ, (cacheKeyFor source path h options).run.run (w, T) =
      (.ok (ofParts ((keyInputs S source path options []).parts (w.fallback.map Fallback.name))), σ) := by
  obtain ⟨k, T', hE, e, he, rfl⟩ := settingsAt_entry hS
  unfold cacheKeyFor
  rw [exceptState_bind_ok hE, computeKey_isolated he hiso]
  exact ⟨_, rfl⟩

end CacheKeyFor

/-! ## Finding an entry a second time -/

/-- No copy the transformer holds is at a fresh address. -/
theorem find?_freshAddress (T : Transformer) (h : HostConfig) :
    T.slots.find? (fun (s, _) => s.address == (⟨freshAddress T, h⟩ : SharedHost).address) = none := by
  rw [List.find?_eq_none]
  rintro ⟨s, j⟩ hm
  have := address_lt_freshAddress hm
  simp only [beq_iff_eq]
  omega

/-- A live configuration whose canonical text is known gets that text's entry, and the
transformer keeps its entries. -/
theorem entryFor_known {T : Transformer} {h : HostConfig} {k : Nat}
    (hk : T.known.lookup h.canonical = some k) (w : Workspace) :
    (entryFor h).run.run (w, T) =
      (.ok k, (w, { T with slots := takeSlot ⟨freshAddress T, h⟩ k T.slots })) := by
  rw [entryFor_run, entryForShared_run, find?_freshAddress]
  dsimp only
  rw [entryByText_run, hk]

/-- After a lookup by canonical text, that text names the entry found, and every other text
names what it named or that entry. -/
theorem entryByText_names {h : HostConfig} {w : Workspace} {T : Transformer} {k : Nat}
    {σ : Workspace × Transformer} (he : (entryByText h).run.run (w, T) = (.ok k, σ)) :
    σ.2.known.lookup h.canonical = some k ∧
      ∀ t, σ.2.known.lookup t = T.known.lookup t ∨ σ.2.known.lookup t = some k := by
  rw [entryByText_run] at he
  split at he
  · rename_i k' hk
    cases he
    exact ⟨hk, fun _ => .inl rfl⟩
  · rename_i hk
    split at he
    · cases he
    · cases he
      refine ⟨by rw [lookup_append_single, hk, Option.none_or, if_pos rfl], fun t => ?_⟩
      rw [lookup_append_single]
      cases T.known.lookup t with
      | some j => exact .inl rfl
      | none => by_cases ht : t = h.canonical <;> simp [ht]

theorem entryFor_names {h : HostConfig} {w : Workspace} {T : Transformer} {k : Nat}
    {σ : Workspace × Transformer} (he : (entryFor h).run.run (w, T) = (.ok k, σ)) :
    σ.2.known.lookup h.canonical = some k ∧
      ∀ t, σ.2.known.lookup t = T.known.lookup t ∨ σ.2.known.lookup t = some k := by
  rw [entryFor_run, entryForShared_run, find?_freshAddress] at he
  dsimp only at he
  rcases hb : (entryByText h).run.run (w, T) with ⟨_ | k', w', T'⟩ <;> rw [hb] at he
  · cases he
  · cases he
    have hnames := entryByText_names hb
    exact hnames

/-- A worker that knows a configuration's canonical text uses the settings of the entry the text
names, whatever the files now hold. -/
theorem settingsAt_known {T : Transformer} {h : HostConfig} {k : Nat} {e : Entry}
    (hk : T.known.lookup h.canonical = some k) (he : T.entry k = some e) (w : Workspace) :
    T.settingsAt w h = .ok e.settings := by
  unfold settingsAt settingsFor
  rw [exceptState_run_bind, entryFor_known hk]
  dsimp only
  rw [settingsOf_run]
  -- a lookup moves a slot and leaves the entries
  have he' : ({ T with slots := takeSlot ⟨freshAddress T, h⟩ k T.slots } : Transformer).entry k = some e := he
  rw [he']

/-- Asking for a key keeps the settings the worker holds for the configuration, whatever the
files hold afterwards: the key changes at most the compiler of the entry. -/
theorem settingsAt_cacheKeyFor {T : Transformer} {w : Workspace} {h : HostConfig} {S : Settings}
    (hS : T.settingsAt w h = .ok S) (source : String) (path : Path) (options : TransformOptions)
    (w' : Workspace) :
    ((cacheKeyFor source path h options).run.run (w, T)).2.2.settingsAt w' h = .ok S := by
  obtain ⟨k, T₁, hE, e, he, rfl⟩ := settingsAt_entry hS
  have hk : T₁.known.lookup h.canonical = some k := (entryFor_names hE).1
  unfold cacheKeyFor
  rw [exceptState_run_bind, hE]
  dsimp only
  cases hiso : e.settings.isolated with
  | true =>
    rw [computeKey_isolated he hiso]
    exact settingsAt_known hk he w'
  | false =>
    obtain ⟨ms, w₂, inst', hres⟩ := Compiler.Instance.resolvedModules_ok e.settings source
      (Path.resolve e.settings.rootDir path) w e.compiler
    rw [computeKey_checked he hiso hres]
    refine settingsAt_known (T := { T₁ with entries := T₁.entries.set! k { e with compiler := inst' } })
      (e := { e with compiler := inst' }) hk ?_ w'
    rw [entry_set he, if_pos rfl]

/-- After a lookup of a serialized text, the text names the entry found. -/
theorem entryForText_names {text : String} {w : Workspace} {T : Transformer} {k : Nat}
    {σ : Workspace × Transformer} (he : (entryForText text).run.run (w, T) = (.ok k, σ)) :
    σ.2.known.lookup text = some k := by
  unfold entryForText at he
  rw [exceptState_bind_ok (show (get : Transforming _).run.run (w, T) = (.ok (w, T), (w, T)) from rfl)] at he
  dsimp only at he
  split at he
  · rename_i k' hk
    cases he
    exact hk
  · rename_i hk
    split at he
    · cases he
    · rename_i h _
      rcases hf : (entryFor h).run.run (w, T) with ⟨_ | k', w', T'⟩
      · rw [exceptState_bind_error hf] at he
        cases he
      · rw [exceptState_bind_ok hf] at he
        cases he
        -- the text is added after whatever the configuration's lookup added
        rw [lookup_append_single]
        rcases (entryFor_names hf).2 text with hold | hnew
        · rw [hold, hk, Option.none_or, if_pos rfl]
        · rw [hnew, Option.some_or]

/-- On a coherent transformer, a known text that reads back names the entry with the canonical
text of what it reads to. -/
theorem Coherent.lookup_text {T : Transformer} (hT : T.Coherent) {text : String} (hback : ReadsBack text)
    {h : HostConfig} (hread : HostConfig.ofJson text = .ok h) {k : Nat} (hk : T.known.lookup text = some k) :
    ∃ e, T.entry k = some e ∧ e.text = h.canonical := by
  obtain ⟨e, he, hn⟩ := hT.known text k hk
  refine ⟨e, he, ?_⟩
  rcases hn with hn | ⟨-, h', hread', hcan'⟩
  · -- the entry's own text, which reads back to `h`
    obtain ⟨h'', hread'', hcan''⟩ := hback e.settings.host hn.symm
    rw [hread] at hread''
    cases hread''
    rw [hcan'', hn]
  · rw [hread] at hread'
    cases hread'
    exact hcan'.symm

/-- How a call hands over its host configuration: serialized, or live. -/
inductive KeyCall where
  | serialized (text : String)
  | live (h : HostConfig)

namespace KeyCall

/-- The lookup of the call's entry. -/
def lookup : KeyCall → Transforming Nat
  | .serialized text => entryForText text
  | .live h => entryFor h

/-- The key the call asks for. -/
def run (source : String) (path : Path) (options : TransformOptions) : KeyCall → Transforming String
  | .serialized text => cacheKey source path text options
  | .live h => cacheKeyFor source path h options

/-- The canonical text of the call's configuration, read from the text when it is serialized. -/
def canonical? : KeyCall → Option String
  | .serialized text => (HostConfig.ofJson text).toOption.map HostConfig.canonical
  | .live h => some h.canonical

/-- What a call must be: a serialized text that reads back. -/
def Fits : KeyCall → Prop
  | .serialized text => ReadsBack text
  | .live _ => True

section Run

variable {source : String} {path : Path} {options : TransformOptions}

theorem run_eq (c : KeyCall) :
    c.run source path options = c.lookup >>= fun k => computeKey k source path options := by
  cases c <;> rfl

/-- A call that gives a key found an entry and computed the key there, which kept the table. -/
theorem run_inv {c : KeyCall} {w w₁ : Workspace} {T T₁ : Transformer} {key : String}
    (h : (c.run source path options).run.run (w, T) = (.ok key, (w₁, T₁))) :
    ∃ k wa Ta, c.lookup.run.run (w, T) = (.ok k, (wa, Ta)) ∧
      (computeKey k source path options).run.run (wa, Ta) = (.ok key, (w₁, T₁)) ∧ SameTable Ta T₁ := by
  rw [run_eq, exceptState_run_bind] at h
  rcases hl : c.lookup.run.run (w, T) with ⟨_ | k, wa, Ta⟩ <;> rw [hl] at h
  · cases h
  · dsimp only at h
    have htable := keepsTable_computeKey k source path options wa Ta
    rw [h] at htable
    exact ⟨k, wa, Ta, rfl, h, htable⟩

/-- A call whose lookup finds, as it was, the entry a key was just computed at gives that key. -/
theorem run_of_lookup {c : KeyCall} {k : Nat} {wa w₁ : Workspace} {Ta T₁ T' : Transformer}
    {key : String} (h₁ : (computeKey k source path options).run.run (wa, Ta) = (.ok key, (w₁, T₁)))
    (hl : c.lookup.run.run (w₁, T₁) = (.ok k, (w₁, T'))) (hentries : T'.entries = T₁.entries) :
    ∃ σ₂, (c.run source path options).run.run (w₁, T₁) = (.ok key, σ₂) := by
  obtain ⟨σ₂, hkey⟩ := computeKey_again h₁ (show T'.entry k = T₁.entry k by rw [entry, entry, hentries])
  exact ⟨σ₂, by rw [run_eq, exceptState_bind_ok hl, hkey]⟩

end Run

/-- A lookup that found entry `k` finds it again on a transformer that knows the same texts, and
keeps the entries as they are. -/
theorem lookup_again {c : KeyCall} {w wa : Workspace} {T Ta : Transformer} {k : Nat}
    (he : c.lookup.run.run (w, T) = (.ok k, (wa, Ta))) {T₁ : Transformer} (hknown : T₁.known = Ta.known)
    (w₁ : Workspace) : ∃ T', c.lookup.run.run (w₁, T₁) = (.ok k, (w₁, T')) ∧ T'.entries = T₁.entries := by
  cases c with
  | serialized text =>
    have hk : T₁.known.lookup text = some k := hknown ▸ entryForText_names he
    refine ⟨T₁, ?_, rfl⟩
    unfold lookup entryForText
    rw [exceptState_bind_ok (show (get : Transforming _).run.run (w₁, T₁) = (.ok (w₁, T₁), (w₁, T₁)) from rfl)]
    dsimp only
    rw [hk]
    rfl
  | live h =>
    have hk : T₁.known.lookup h.canonical = some k := hknown ▸ (entryFor_names he).1
    exact ⟨_, entryFor_known hk w₁, rfl⟩

/-- A lookup that succeeds keeps a transformer coherent and gives the entry whose text is the
canonical text of the call's configuration. -/
theorem lookup_coherent {T : Transformer} (hT : T.Coherent) {c : KeyCall} (hf : c.Fits)
    (w : Workspace) {k : Nat} {σ : Workspace × Transformer} (he : c.lookup.run.run (w, T) = (.ok k, σ)) :
    σ.2.Coherent ∧ ∃ e, σ.2.entry k = some e ∧ c.canonical? = some e.text := by
  cases c with
  | serialized text =>
    obtain ⟨-, hT', -, e, h, he', hread, htext⟩ := entryForText_coherent hT hf w he
    exact ⟨hT', e, he', by rw [canonical?, hread, htext]; rfl⟩
  | live h =>
    rw [lookup, entryFor_run] at he
    obtain ⟨-, hT', -, e, he', htext⟩ := entryForShared_coherent hT (fits_fresh T h) w he
    exact ⟨hT', e, he', by rw [canonical?, htext]⟩

/-- On a coherent transformer that knows the canonical text of the call's configuration, the
lookup gives that text's entry, leaves the workspace and keeps the entries as they are. -/
theorem lookup_known {T : Transformer} (hT : T.Coherent) {c : KeyCall} (hf : c.Fits) {t : String}
    (hc : c.canonical? = some t) {k : Nat} (hk : T.known.lookup t = some k) (w : Workspace) :
    ∃ T', c.lookup.run.run (w, T) = (.ok k, (w, T')) ∧ T'.entries = T.entries := by
  cases c with
  | live h =>
    obtain rfl : h.canonical = t := Option.some.inj hc
    exact ⟨_, entryFor_known hk w, rfl⟩
  | serialized text =>
    obtain ⟨h, hread, hcan⟩ : ∃ h, HostConfig.ofJson text = .ok h ∧ h.canonical = t := by
      simp only [canonical?] at hc
      cases hr : HostConfig.ofJson text with
      | error _ => rw [hr] at hc; cases hc
      | ok h => rw [hr] at hc; exact ⟨h, rfl, Option.some.inj hc⟩
    unfold lookup entryForText
    rw [exceptState_bind_ok (show (get : Transforming _).run.run (w, T) = (.ok (w, T), (w, T)) from rfl)]
    dsimp only
    cases hlook : T.known.lookup text with
    | some k' =>
      obtain ⟨e, he, htext⟩ := hT.lookup_text hf hread hlook
      have hk' : k' = k := by
        have := hT.canonical k' e he
        rw [htext, hcan, hk] at this
        exact (Option.some.inj this).symm
      subst hk'
      exact ⟨T, rfl, rfl⟩
    | none =>
      rw [hread]
      dsimp only
      rw [exceptState_bind_ok (entryFor_known (hcan ▸ hk) w)]
      exact ⟨_, rfl, rfl⟩

/-- Asked again right after, a call gives the key it gave, from any transformer. -/
theorem run_again (c : KeyCall) (source : String) (path : Path) (options : TransformOptions)
    {σ σ₁ : Workspace × Transformer} {key : String}
    (h₁ : (c.run source path options).run.run σ = (.ok key, σ₁)) :
    ∃ σ₂, (c.run source path options).run.run σ₁ = (.ok key, σ₂) := by
  obtain ⟨k, wa, Ta, hl, hkey, htable⟩ := run_inv h₁
  obtain ⟨T', hl₂, hentries⟩ := lookup_again hl htable.known σ₁.1
  exact run_of_lookup hkey hl₂ hentries

/-- On a transformer reached by the hooks, a call right after another whose configuration has
the same canonical text gives the same key. -/
theorem run_agree {T : Transformer} (hT : Relation.ReflTransGen Hook.Step empty T) (w : Workspace)
    (source : String) (path : Path) (options : TransformOptions) {c₁ c₂ : KeyCall} (f₁ : c₁.Fits)
    (f₂ : c₂.Fits) (hsame : c₁.canonical? = c₂.canonical?) {key : String} {σ₁ : Workspace × Transformer}
    (h₁ : (c₁.run source path options).run.run (w, T) = (.ok key, σ₁)) :
    ∃ σ₂, (c₂.run source path options).run.run σ₁ = (.ok key, σ₂) := by
  obtain ⟨k, wa, Ta, hl, hkey, htable⟩ := run_inv h₁
  obtain ⟨hTa, e, hea, hc₁⟩ := lookup_coherent (Hook.steps_coherent coherent_empty hT).1 f₁ w hl
  -- computing the key keeps the table, so entry `k` keeps its text and is still known by it
  have hT₁ := hTa.of_sameTable htable
  obtain ⟨e₁, he₁, hse₁⟩ := htable.keeps k e hea
  have hk : σ₁.2.known.lookup e.text = some k := by
    have := hT₁.canonical k e₁ he₁
    rwa [show e₁.text = e.text by simp only [Entry.text, hse₁]] at this
  obtain ⟨T', hl₂, hentries⟩ := lookup_known hT₁ f₂ (hsame.symm.trans hc₁) hk σ₁.1
  exact run_of_lookup hkey hl₂ hentries

end KeyCall

/-! ## Consecutive keys -/

/-- A key call asked again right after gives the key it gave, from any transformer, whatever the
first computation recorded, wrote or read into the host. On a transformer reached by the hooks,
a call right after another, for the same source, path and options, gives the same key when
their host configurations have one canonical text: serialized or live, in either order, as long
as a serialized text that is some configuration's canonical text reads back to it. -/
theorem consecutive_keys_agree (source : String) (path : Path) (options : TransformOptions) :
    (∀ (c : KeyCall) (σ σ₁ : Workspace × Transformer) (key : String),
      (c.run source path options).run.run σ = (.ok key, σ₁) →
      ∃ σ₂, (c.run source path options).run.run σ₁ = (.ok key, σ₂)) ∧
    (∀ (T : Transformer) (w : Workspace) (c₁ c₂ : KeyCall) (key : String) (σ₁ : Workspace × Transformer),
      Relation.ReflTransGen Hook.Step empty T → c₁.Fits → c₂.Fits → c₁.canonical? = c₂.canonical? →
      (c₁.run source path options).run.run (w, T) = (.ok key, σ₁) →
      ∃ σ₂, (c₂.run source path options).run.run σ₁ = (.ok key, σ₂)) :=
  ⟨fun c _ _ _ h₁ => KeyCall.run_again c source path options h₁,
    fun _ w _ _ _ _ hT f₁ f₂ hsame h₁ => KeyCall.run_agree hT w source path options f₁ f₂ hsame h₁⟩

/-- A fresh worker on a project at /p asked for the key of the test file /p/a.test.ts, which
imports /p/b.ts, first with the configuration's canonical text and right after with the live
configuration. -/
theorem consecutive_keys_agree_serialized_live :
    let h := HostConfig.ofRoot ⟨"/p"⟩
    let w : Workspace := ⟨.memory [(⟨"/p/a.test.ts"⟩, ⟨"import \"./b\";\n", 0⟩),
        (⟨"/p/b.ts"⟩, ⟨"export const b = 1;\n", 0⟩)] 0,
      [Standin.Module.ofVersion "typescript" "5.0.0"], [], none, none, []⟩
    ∃ key σ₁, ((KeyCall.serialized h.canonical).run "import \"./b\";\n" ⟨"/p/a.test.ts"⟩
        ⟨false, false⟩).run.run (w, empty) = (.ok key, σ₁) ∧
      ∃ σ₂, ((KeyCall.live h).run "import \"./b\";\n" ⟨"/p/a.test.ts"⟩ ⟨false, false⟩).run.run σ₁ =
        (.ok key, σ₂) := by
  intro h w
  -- the canonical text reads back to a configuration with that text
  have hcan : (KeyCall.serialized h.canonical).canonical? = some h.canonical := by decide +kernel
  have hfits : (KeyCall.serialized h.canonical).Fits := by
    intro _ _
    obtain ⟨h', hread⟩ := except_ok_of_isOk
      (show (HostConfig.ofJson h.canonical).isOk = true by decide +kernel)
    have hcan' := hcan
    simp only [KeyCall.canonical?, hread, Except.toOption, Option.map_some] at hcan'
    exact ⟨h', hread, Option.some.inj hcan'⟩
  obtain ⟨key, σ₁, h₁⟩ := run_ok_of_isOk (show (((KeyCall.serialized h.canonical).run
    "import \"./b\";\n" ⟨"/p/a.test.ts"⟩ ⟨false, false⟩).run.run (w, empty)).1.isOk = true by decide +kernel)
  exact ⟨key, σ₁, h₁, (consecutive_keys_agree "import \"./b\";\n" ⟨"/p/a.test.ts"⟩ ⟨false, false⟩).2
    empty w _ (.live h) key _ .refl hfits trivial hcan h₁⟩

end Transformer

end TestTransform
