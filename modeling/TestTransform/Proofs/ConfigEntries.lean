import TestTransform.Proofs.Modes

/-
Configuration entries are shared by canonical text.

A worker keeps one entry (settings and compiler) per host configuration, and a call finds its
entry in one of three ways: a shared copy the worker holds, by its address; a configuration, by
its canonical text; a serialized configuration, by its text as given. The text of an entry is the
canonical text of the configuration its settings were built from.

A transformer is `Coherent` when no two entries have one text, every entry is known by its
text, every known text names an entry whose text it is or to whose text it reads back, and its
slots hold, one per entry, copies of configurations with their entry's text. Each lookup keeps a
transformer coherent, keeps every entry it had, and gives the entry whose text is the canonical
text of the call's configuration; what a hook does after its lookup leaves the table alone. So
along every history of the hooks, two calls get one entry exactly when their configurations have
one canonical text (`hooks_share_entry_iff`), a lookup that fails leaves the transformer as it
was, and the slots never outnumber the entries.

Two things are asked of each call. A shared copy at an address where the worker holds a copy is
that copy: the runner's copies stay where they are while the worker holds them. A serialized
text that is some configuration's canonical text reads back to a configuration with that text.
-/

namespace TestTransform

open Config Compiler

/-- The canonical text of the configuration an entry's settings were built from. -/
def Entry.text (e : Entry) : String := e.settings.host.canonical

namespace Transformer

/-! ## Lists of texts and slots -/

/-- A pair added at the end is found only when nothing before it answers. -/
theorem lookup_append_single (known : List (String × Nat)) (text t : String) (k : Nat) :
    (known ++ [(text, k)]).lookup t = (known.lookup t).or (if t = text then some k else none) := by
  rw [List.lookup_append]
  by_cases ht : t = text
  · simp [List.lookup, ht]
  · simp [List.lookup, beq_false_of_ne ht, ht]

/-- An answer from a list with a pair added at the end came from the list, or from the pair
when the list had none. -/
theorem lookup_append_single_eq_some {known : List (String × Nat)} {text t : String} {k j : Nat}
    (h : (known ++ [(text, k)]).lookup t = some j) :
    known.lookup t = some j ∨ (known.lookup t = none ∧ t = text ∧ j = k) := by
  rw [lookup_append_single] at h
  cases hold : known.lookup t with
  | some j' =>
    rw [hold, Option.some_or] at h
    exact .inl h
  | none =>
    rw [hold, Option.none_or] at h
    split at h
    · exact .inr ⟨rfl, ‹_›, (Option.some.inj h).symm⟩
    · cases h

theorem mem_takeSlot {h s : SharedHost} {k j : Nat} {slots : List (SharedHost × Nat)}
    (hm : (s, j) ∈ takeSlot h k slots) : (s, j) = (h, k) ∨ (s, j) ∈ slots := by
  induction slots with
  | nil => simpa [takeSlot] using hm
  | cons sj rest ih =>
    obtain ⟨s', j'⟩ := sj
    unfold takeSlot at hm
    split at hm
    · rename_i hj
      rcases List.mem_cons.mp hm with he | he
      · subst hj
        exact Or.inl (by simpa using he)
      · exact Or.inr (List.mem_cons_of_mem _ he)
    · rcases List.mem_cons.mp hm with he | he
      · exact Or.inr (he ▸ List.mem_cons_self)
      · rcases ih he with h' | h'
        · exact Or.inl h'
        · exact Or.inr (List.mem_cons_of_mem _ h')

/-- Taking over a slot leaves the entries of the slots as they were, or adds `k` at the end. -/
theorem takeSlot_entries (h : SharedHost) (k : Nat) (slots : List (SharedHost × Nat)) :
    (takeSlot h k slots).map Prod.snd =
      if k ∈ slots.map Prod.snd then slots.map Prod.snd else slots.map Prod.snd ++ [k] := by
  induction slots with
  | nil => simp [takeSlot]
  | cons sj rest ih =>
    obtain ⟨s, j⟩ := sj
    by_cases hj : j = k
    · subst hj
      simp [takeSlot]
    · simp only [takeSlot, if_neg hj, List.map_cons, ih]
      by_cases hr : k ∈ rest.map Prod.snd
      · simp [hr]
      · simp [hr, Ne.symm hj]

theorem takeSlot_nodup (h : SharedHost) (k : Nat) {slots : List (SharedHost × Nat)}
    (hs : (slots.map Prod.snd).Nodup) : ((takeSlot h k slots).map Prod.snd).Nodup := by
  rw [takeSlot_entries]
  split
  · exact hs
  · rename_i hk
    exact List.nodup_append.mpr ⟨hs, List.nodup_singleton k, by simpa using fun a ha => (ne_of_mem_of_not_mem ha hk)⟩

/-- No copy the transformer holds is at the address of a copy built just now. -/
theorem address_lt_freshAddress {T : Transformer} {s : SharedHost} {k : Nat} (hs : (s, k) ∈ T.slots) :
    s.address < freshAddress T := by
  have : s.address ≤ (T.slots.map (·.1.address)).foldr max 0 :=
    List.le_max_of_le' 0 (List.mem_map.mpr ⟨(s, k), hs, rfl⟩) le_rfl
  unfold freshAddress
  omega

/-! ## Coherent transformers -/

/-- A text that is some configuration's canonical text reads back to a configuration with that
canonical text. -/
def ReadsBack (text : String) : Prop :=
  ∀ h₀ : HostConfig, h₀.canonical = text → ∃ h, HostConfig.ofJson text = .ok h ∧ h.canonical = text

/-- What a known text says of its entry `e`: it is its text, or a serialized configuration
with that canonical text. -/
def Names (text : String) (e : Entry) : Prop :=
  text = e.text ∨ (ReadsBack text ∧ ∃ h, HostConfig.ofJson text = .ok h ∧ h.canonical = e.text)

structure Coherent (T : Transformer) : Prop where
  /-- no two entries have one text -/
  text_injective : ∀ i j ei ej, T.entry i = some ei → T.entry j = some ej → ei.text = ej.text → i = j
  /-- a known text names its entry -/
  known : ∀ text k, T.known.lookup text = some k → ∃ e, T.entry k = some e ∧ Names text e
  /-- every entry is known by its text -/
  canonical : ∀ k e, T.entry k = some e → T.known.lookup e.text = some k
  /-- a slot holds a copy of a configuration with its entry's text -/
  slot : ∀ s k, (s, k) ∈ T.slots → ∃ e, T.entry k = some e ∧ s.config.canonical = e.text
  /-- one slot per entry -/
  slots_nodup : (T.slots.map Prod.snd).Nodup

theorem coherent_empty : empty.Coherent where
  text_injective _ _ _ _ h := by simp [entry, empty] at h
  known _ _ h := by simp [empty] at h
  canonical _ _ h := by simp [entry, empty] at h
  slot _ _ h := by simp [empty] at h
  slots_nodup := List.nodup_nil

/-- The slots never outnumber the entries. -/
theorem Coherent.slots_length_le {T : Transformer} (hT : T.Coherent) : T.slots.length ≤ T.entries.size := by
  have hsub : T.slots.map Prod.snd ⊆ List.range T.entries.size := by
    intro k hk
    obtain ⟨⟨s, k'⟩, hm, rfl⟩ := List.mem_map.mp hk
    obtain ⟨e, he, -⟩ := hT.slot s k' hm
    exact List.mem_range.mpr (Array.getElem?_eq_some_iff.mp he).1
  simpa using hT.slots_nodup.length_le_of_subset hsub

/-- A configuration found by its canonical text gets the entry with that text: a serialized
key equal to a canonical text reads back to it. -/
theorem Coherent.lookup_canonical {T : Transformer} (hT : T.Coherent) {h : HostConfig} {k : Nat}
    (hk : T.known.lookup h.canonical = some k) : ∃ e, T.entry k = some e ∧ e.text = h.canonical := by
  obtain ⟨e, he, hn⟩ := hT.known _ k hk
  refine ⟨e, he, ?_⟩
  rcases hn with hn | ⟨hback, h₁, hread, hcan⟩
  · exact hn.symm
  · obtain ⟨h₂, hread₂, hcan₂⟩ := hback h rfl
    rw [hread] at hread₂
    cases hread₂
    exact hcan.symm.trans hcan₂

/-- An entry added at the end leaves the entries before it where they were. -/
theorem entry_push_of_entry {T : Transformer} {j : Nat} {e : Entry} (hj : T.entry j = some e)
    (e' : Entry) (known : List (String × Nat)) :
    ({ T with entries := T.entries.push e', known := known } : Transformer).entry j = some e := by
  have hlt : j ≠ T.entries.size := Nat.ne_of_lt (Array.getElem?_eq_some_iff.mp hj).1
  rw [entry_push, if_neg hlt, hj]

/-- A new entry, known by its text, which no entry had, keeps a transformer coherent. -/
theorem Coherent.push {T : Transformer} (hT : T.Coherent) {e : Entry} {text : String}
    (htext : e.text = text) (hnew : T.known.lookup text = none) :
    ({ T with entries := T.entries.push e, known := T.known ++ [(text, T.entries.size)] } :
      Transformer).Coherent := by
  -- every entry is known by its text, so no entry has the new text
  have hfresh : ∀ j e₀, T.entry j = some e₀ → e₀.text ≠ text := by
    intro j e₀ hj heq
    have hknown := hT.canonical j e₀ hj
    rw [heq, hnew] at hknown
    cases hknown
  refine ⟨?_, ?_, ?_, ?_, hT.slots_nodup⟩
  · intro i j ei ej hi hj hij
    rw [entry_push] at hi hj
    split at hi <;> split at hj
    · omega
    · cases hi
      exact absurd (hij.symm.trans htext) (hfresh j ej hj)
    · cases hj
      exact absurd (hij.trans htext) (hfresh i ei hi)
    · exact hT.text_injective i j ei ej hi hj hij
  · intro t j hj
    rcases lookup_append_single_eq_some hj with hold | ⟨-, rfl, rfl⟩
    · obtain ⟨e₀, he₀, hn⟩ := hT.known t j hold
      exact ⟨e₀, entry_push_of_entry he₀ _ _, hn⟩
    · exact ⟨e, by rw [entry_push, if_pos rfl], .inl htext.symm⟩
  · intro j e₀ hj
    rw [lookup_append_single]
    rw [entry_push] at hj
    split at hj
    · cases hj
      rename_i hsize
      rw [htext, hnew, Option.none_or, if_pos rfl, hsize]
    · rw [hT.canonical j e₀ hj, Option.some_or]
  · intro s j hm
    obtain ⟨e₀, he₀, hc⟩ := hT.slot s j hm
    exact ⟨e₀, entry_push_of_entry he₀ _ _, hc⟩

/-- A text that names an entry, added after the known texts, keeps a transformer coherent. -/
theorem Coherent.addKnown {T : Transformer} (hT : T.Coherent) {text : String} {k : Nat} {e : Entry}
    (he : T.entry k = some e) (hn : Names text e) :
    ({ T with known := T.known ++ [(text, k)] } : Transformer).Coherent where
  text_injective := hT.text_injective
  known t j hj := by
    rcases lookup_append_single_eq_some hj with hold | ⟨-, rfl, rfl⟩
    · exact hT.known t j hold
    · exact ⟨e, he, hn⟩
  canonical j e₀ hj := by
    rw [lookup_append_single, hT.canonical j e₀ hj, Option.some_or]
  slot := hT.slot
  slots_nodup := hT.slots_nodup

/-! ## Transformers that keep their entries -/

/-- `T'` holds every entry of `T` with the same settings. -/
def Keeps (T T' : Transformer) : Prop :=
  ∀ k e, T.entry k = some e → ∃ e', T'.entry k = some e' ∧ e'.settings = e.settings

theorem Keeps.refl (T : Transformer) : Keeps T T := fun _ e he => ⟨e, he, rfl⟩

theorem Keeps.trans {T₁ T₂ T₃ : Transformer} (a : Keeps T₁ T₂) (b : Keeps T₂ T₃) : Keeps T₁ T₃ := by
  intro k e he
  obtain ⟨e₂, he₂, hs₂⟩ := a k e he
  obtain ⟨e₃, he₃, hs₃⟩ := b k e₂ he₂
  exact ⟨e₃, he₃, hs₃.trans hs₂⟩

/-- The same texts, slots and settings, whatever the compilers became. -/
structure SameTable (T T' : Transformer) : Prop where
  known : T'.known = T.known
  slots : T'.slots = T.slots
  settings : ∀ k, (T'.entry k).map Entry.settings = (T.entry k).map Entry.settings

theorem SameTable.refl (T : Transformer) : SameTable T T := ⟨rfl, rfl, fun _ => rfl⟩

theorem SameTable.trans {T₁ T₂ T₃ : Transformer} (a : SameTable T₁ T₂) (b : SameTable T₂ T₃) :
    SameTable T₁ T₃ :=
  ⟨b.known.trans a.known, b.slots.trans a.slots, fun k => (b.settings k).trans (a.settings k)⟩

theorem SameTable.entry {T T' : Transformer} (hs : SameTable T T') {k : Nat} {e : Entry}
    (he : T'.entry k = some e) : ∃ e₀, T.entry k = some e₀ ∧ e₀.settings = e.settings := by
  have := hs.settings k
  rw [he] at this
  cases h₀ : T.entry k with
  | none => rw [h₀] at this; cases this
  | some e₀ =>
    rw [h₀] at this
    exact ⟨e₀, rfl, (Option.some.inj this).symm⟩

theorem SameTable.keeps {T T' : Transformer} (hs : SameTable T T') : Keeps T T' := by
  intro k e he
  have := hs.settings k
  rw [he] at this
  cases h' : T'.entry k with
  | none => rw [h'] at this; cases this
  | some e' =>
    rw [h'] at this
    exact ⟨e', rfl, Option.some.inj this⟩

theorem Coherent.of_sameTable {T T' : Transformer} (hT : T.Coherent) (hs : SameTable T T') :
    T'.Coherent where
  text_injective i j ei ej hi hj htext := by
    obtain ⟨ei₀, hi₀, hsi⟩ := hs.entry hi
    obtain ⟨ej₀, hj₀, hsj⟩ := hs.entry hj
    exact hT.text_injective i j ei₀ ej₀ hi₀ hj₀ (by simp only [Entry.text, hsi, hsj]; exact htext)
  known text k hk := by
    rw [hs.known] at hk
    obtain ⟨e, he, hn⟩ := hT.known text k hk
    obtain ⟨e', he', hse⟩ := hs.keeps k e he
    exact ⟨e', he', by simpa only [Names, Entry.text, hse] using hn⟩
  canonical k e he := by
    obtain ⟨e₀, he₀, hse⟩ := hs.entry he
    rw [hs.known, show e.text = e₀.text by simp only [Entry.text, hse]]
    exact hT.canonical k e₀ he₀
  slot s k hm := by
    rw [hs.slots] at hm
    obtain ⟨e, he, htext⟩ := hT.slot s k hm
    obtain ⟨e', he', hse⟩ := hs.keeps k e he
    exact ⟨e', he', by simp only [Entry.text, hse]; exact htext⟩
  slots_nodup := by rw [hs.slots]; exact hT.slots_nodup

/-! ## The three lookups -/

/-- Finding a configuration by its canonical text keeps the transformer coherent and its
entries, leaves the slots alone, and gives the entry with that text. -/
theorem entryByText_coherent {T : Transformer} (hT : T.Coherent) (h : HostConfig) (w : Workspace)
    {k : Nat} {σ : Workspace × Transformer} (he : (entryByText h).run.run (w, T) = (.ok k, σ)) :
    σ.1 = w ∧ σ.2.Coherent ∧ Keeps T σ.2 ∧ σ.2.slots = T.slots ∧
      ∃ e, σ.2.entry k = some e ∧ e.text = h.canonical := by
  rw [entryByText_run] at he
  split at he
  · rename_i k' hk
    cases he
    exact ⟨rfl, hT, Keeps.refl T, rfl, hT.lookup_canonical hk⟩
  · rename_i hk
    split at he
    · cases he
    · rename_i s hb
      cases he
      -- a new entry, known by its text, which no entry had
      have htext : (⟨s, Compiler.Instance.start s w.store⟩ : Entry).text = h.canonical := by
        simp only [Entry.text, Settings.build_host hb]
      exact ⟨rfl, hT.push htext hk, fun j e hj => ⟨e, entry_push_of_entry hj _ _, rfl⟩, rfl, _,
        by rw [entry_push, if_pos rfl], htext⟩

/-- A coherent transformer with `h` in the slot of an entry of its text is coherent. -/
theorem Coherent.takeSlot {T : Transformer} (hT : T.Coherent) (h : SharedHost) {k : Nat} {e : Entry}
    (he : T.entry k = some e) (htext : e.text = h.config.canonical) :
    ({ T with slots := Transformer.takeSlot h k T.slots } : Transformer).Coherent where
  text_injective := hT.text_injective
  known := hT.known
  canonical := hT.canonical
  slot s j hm := by
    rcases mem_takeSlot hm with hsj | hsj
    · cases hsj
      exact ⟨e, he, htext.symm⟩
    · exact hT.slot s j hsj
  slots_nodup := takeSlot_nodup h k hT.slots_nodup

/-- A shared copy is the held copy at its address, when one is held there. -/
def Fits (T : Transformer) (h : SharedHost) : Prop :=
  ∀ s k, (s, k) ∈ T.slots → s.address = h.address → s.config = h.config

/-- A copy built just now fits every transformer. -/
theorem fits_fresh (T : Transformer) (h : HostConfig) : Fits T ⟨freshAddress T, h⟩ := by
  intro s k hm hs
  have := address_lt_freshAddress hm
  simp only at hs
  omega

/-- Finding a shared copy keeps the transformer coherent and its entries, and gives the entry
whose text is the canonical text of the copy's configuration. -/
theorem entryForShared_coherent {T : Transformer} (hT : T.Coherent) {h : SharedHost} (hf : Fits T h)
    (w : Workspace) {k : Nat} {σ : Workspace × Transformer}
    (he : (entryForShared h).run.run (w, T) = (.ok k, σ)) :
    σ.1 = w ∧ σ.2.Coherent ∧ Keeps T σ.2 ∧ ∃ e, σ.2.entry k = some e ∧ e.text = h.config.canonical := by
  rw [entryForShared_run] at he
  split at he
  · -- a held copy: its slot names the entry
    rename_i s k' hfind
    cases he
    have hm := List.mem_of_find?_eq_some hfind
    have haddr : s.address = h.address := by simpa using List.find?_some hfind
    obtain ⟨e, he', htext⟩ := hT.slot s k hm
    exact ⟨rfl, hT, Keeps.refl T, e, he', by rw [← htext, hf s k hm haddr]⟩
  · rcases hb : (entryByText h.config).run.run (w, T) with ⟨_ | k', w', T'⟩ <;> rw [hb] at he
    · cases he
    · cases he
      obtain ⟨hw, hT', hkeep, -, e, he', htext⟩ := entryByText_coherent hT h.config w hb
      exact ⟨hw, hT'.takeSlot h he' htext, fun j e₀ hj => hkeep j e₀ hj, e, he', htext⟩

/-- Finding a serialized configuration keeps the transformer coherent and its entries, and
gives the entry whose text is the canonical text of the configuration read from it. -/
theorem entryForText_coherent {T : Transformer} (hT : T.Coherent) {text : String}
    (hback : ReadsBack text) (w : Workspace) {k : Nat} {σ : Workspace × Transformer}
    (he : (entryForText text).run.run (w, T) = (.ok k, σ)) :
    σ.1 = w ∧ σ.2.Coherent ∧ Keeps T σ.2 ∧
      ∃ e h, σ.2.entry k = some e ∧ HostConfig.ofJson text = .ok h ∧ e.text = h.canonical := by
  unfold entryForText at he
  rw [exceptState_bind_ok (show (get : Transforming _).run.run (w, T) = (.ok (w, T), (w, T)) from rfl)] at he
  dsimp only at he
  split at he
  · -- a known text: the entry it names
    rename_i k' hk
    cases he
    obtain ⟨e, he', hn⟩ := hT.known text k hk
    refine ⟨rfl, hT, Keeps.refl T, e, ?_⟩
    rcases hn with hn | ⟨-, h, hread, hcan⟩
    · obtain ⟨h, hread, hcan⟩ := hback e.settings.host hn.symm
      exact ⟨h, he', hread, by rw [hcan, hn]⟩
    · exact ⟨h, he', hread, hcan.symm⟩
  · rename_i hk
    split at he
    · cases he
    · rename_i h hread
      rcases hf : (entryFor h).run.run (w, T) with ⟨_ | k', w', T'⟩
      · rw [exceptState_bind_error hf] at he
        cases he
      · rw [exceptState_bind_ok hf] at he
        cases he
        rw [entryFor_run] at hf
        obtain ⟨hw, hT', hkeep, e, he', htext⟩ :=
          entryForShared_coherent hT (fits_fresh T h) w hf
        -- the text given is added, naming the entry its configuration got
        exact ⟨hw, hT'.addKnown he' (.inr ⟨hback, h, hread, htext.symm⟩), hkeep, e, h, he', hread, htext⟩

/-! ## The hooks -/

/-- How a call hands over its host configuration. -/
inductive HostRef where
  | shared (h : SharedHost)
  | serialized (text : String)

namespace HostRef

/-- The lookup of a call's entry. -/
def entry : HostRef → Transforming Nat
  | .shared h => entryForShared h
  | .serialized text => entryForText text

/-- The canonical text of the call's configuration, read from the text when it is serialized. -/
def canonical? : HostRef → Option String
  | .shared h => some h.config.canonical
  | .serialized text => (HostConfig.ofJson text).toOption.map HostConfig.canonical

/-- What a call must be for the transformer: a held copy where it holds one, or a text that
reads back. -/
def Fits (T : Transformer) : HostRef → Prop
  | .shared h => Transformer.Fits T h
  | .serialized text => ReadsBack text

/-- A lookup that succeeds keeps the transformer coherent and its entries, and gives the entry
whose text is the canonical text of the call's configuration. -/
theorem entry_coherent {T : Transformer} (hT : T.Coherent) {r : HostRef} (hf : r.Fits T)
    (w : Workspace) {k : Nat} {σ : Workspace × Transformer} (he : r.entry.run.run (w, T) = (.ok k, σ)) :
    σ.2.Coherent ∧ Keeps T σ.2 ∧ ∃ e, σ.2.entry k = some e ∧ r.canonical? = some e.text := by
  cases r with
  | shared h =>
    obtain ⟨-, hT', hkeep, e, he', htext⟩ := entryForShared_coherent hT hf w he
    exact ⟨hT', hkeep, e, he', by rw [canonical?, htext]⟩
  | serialized text =>
    obtain ⟨-, hT', hkeep, e, h, he', hread, htext⟩ := entryForText_coherent hT hf w he
    exact ⟨hT', hkeep, e, he', by rw [canonical?, hread, htext]; rfl⟩

/-- A lookup that fails leaves the transformer and the workspace as they were: a setup fault is
not remembered. -/
theorem entry_error {r : HostRef} {w : Workspace} {T : Transformer} {err : TransformError}
    {σ : Workspace × Transformer} (he : r.entry.run.run (w, T) = (.error err, σ)) : σ = (w, T) := by
  -- a lookup changes the transformer only after the entry is found
  have hshared : ∀ (h : SharedHost) (w : Workspace) (T : Transformer) err σ,
      (entryForShared h).run.run (w, T) = (.error err, σ) → σ = (w, T) := by
    intro h w T err σ he
    rw [entryForShared_run] at he
    split at he
    · cases he
    · rcases hb : (entryByText h.config).run.run (w, T) with ⟨_ | k', w', T'⟩ <;> rw [hb] at he
      · cases he
        rw [entryByText_run] at hb
        split at hb
        · cases hb
        · split at hb <;> cases hb
          rfl
      · cases he
  cases r with
  | shared h => exact hshared h w T err σ he
  | serialized text =>
    unfold entry entryForText at he
    rw [exceptState_bind_ok (show (get : Transforming _).run.run (w, T) = (.ok (w, T), (w, T)) from rfl)] at he
    dsimp only at he
    split at he
    · cases he
    · split at he
      · cases he; rfl
      · rcases hf : (entryFor _).run.run (w, T) with ⟨_ | k', w', T'⟩
        · rw [exceptState_bind_error hf] at he
          cases he
          rw [entryFor_run] at hf
          exact hshared _ w T _ _ hf
        · rw [exceptState_bind_ok hf] at he
          cases he

end HostRef

/-! ## What a hook does after its lookup -/

/-- Run from any workspace, the step leaves the table as it found it. -/
def KeepsTable {α : Type} (m : Transforming α) : Prop :=
  ∀ w T, SameTable T (m.run.run (w, T)).2.2

theorem keepsTable_of_transformer {α : Type} {m : Transforming α}
    (hm : ∀ w T, (m.run.run (w, T)).2.2 = T) : KeepsTable m := by
  intro w T
  rw [hm]
  exact SameTable.refl T

theorem keepsTable_pure {α : Type} (a : α) : KeepsTable (pure a : Transforming α) :=
  keepsTable_of_transformer (fun _ _ => rfl)

theorem keepsTable_bind {α β : Type} {m : Transforming α} {f : α → Transforming β}
    (hm : KeepsTable m) (hf : ∀ a, KeepsTable (f a)) : KeepsTable (m >>= f) := by
  intro w T
  rw [exceptState_run_bind]
  have hm' := hm w T
  rcases hrun : m.run.run (w, T) with ⟨_ | a, w', T'⟩ <;> rw [hrun] at hm'
  · exact hm'
  · exact hm'.trans (hf a w' T')

theorem keepsTable_settingsOf (k : Nat) : KeepsTable (settingsOf k) :=
  keepsTable_of_transformer (fun w T => by rw [settingsOf_run])

/-- A step on an entry's compiler changes only that compiler. -/
theorem keepsTable_onCompiler {α : Type} (k : Nat)
    (f : Settings → ExceptT CompileError (StateM (Workspace × Compiler.Instance)) α) :
    KeepsTable (onCompiler k f) := by
  intro w T
  cases he : T.entry k with
  | none =>
    rw [onCompiler_run_none f w he]
    exact SameTable.refl T
  | some e =>
    rw [onCompiler_run f w he]
    refine ⟨rfl, rfl, fun j => ?_⟩
    rw [entry_set he]
    split
    · rename_i hj
      subst hj
      rw [he]
      rfl
    · rfl

theorem keepsTable_warn (code : Nat) (message : String) : KeepsTable (warn code message) :=
  keepsTable_of_transformer (fun _ _ => rfl)

theorem keepsTable_handOver (fallback : Option Fallback) (path : Path) (r : Transformed) :
    KeepsTable (handOver fallback path r) := by
  unfold handOver
  split
  · exact keepsTable_bind (keepsTable_of_transformer (fun _ _ => rfl)) (fun _ => keepsTable_pure _)
  · exact keepsTable_of_transformer (fun _ _ => rfl)
  · exact keepsTable_pure _

theorem keepsTable_processAt (k : Nat) (source : String) (path : Path) (options : TransformOptions) :
    KeepsTable (processAt k source path options) := by
  unfold processAt
  refine keepsTable_bind (keepsTable_settingsOf k) (fun s => ?_)
  dsimp only
  split
  · exact keepsTable_pure _
  split
  · exact keepsTable_pure _
  refine keepsTable_bind (keepsTable_of_transformer (fun _ _ => rfl)) (fun σ => ?_)
  -- every kind of file gives a result by a warning or a compile, then the next transformer runs
  split
  · split
    · exact keepsTable_bind (keepsTable_warn _ _)
        (fun _ => keepsTable_bind (keepsTable_pure _) (keepsTable_handOver _ _))
    · exact keepsTable_bind (keepsTable_onCompiler _ _)
        (fun _ => keepsTable_bind (keepsTable_pure _) (keepsTable_handOver _ _))
  · exact keepsTable_bind (keepsTable_onCompiler _ _)
      (fun _ => keepsTable_bind (keepsTable_pure _) (keepsTable_handOver _ _))
  · exact keepsTable_bind (keepsTable_warn _ _)
      (fun _ => keepsTable_bind (keepsTable_pure _) (keepsTable_handOver _ _))

theorem keepsTable_computeKey (k : Nat) (source : String) (path : Path) (options : TransformOptions) :
    KeepsTable (computeKey k source path options) := by
  unfold computeKey
  refine keepsTable_bind (keepsTable_settingsOf k) (fun s => ?_)
  refine keepsTable_bind (keepsTable_of_transformer (fun _ _ => rfl)) (fun σ => ?_)
  dsimp only
  split
  · exact keepsTable_pure _
  · refine keepsTable_bind (keepsTable_onCompiler k _) (fun modules => ?_)
    exact keepsTable_bind (keepsTable_of_transformer (fun _ _ => rfl)) (fun _ => keepsTable_pure _)

/-- After its lookup, a step that keeps the table leaves the transformer the lookup left. -/
theorem sameTable_after_lookup {α : Type} {m : Transforming Nat} {f : Nat → Transforming α}
    (hf : ∀ k, KeepsTable (f k)) (w : Workspace) (T : Transformer) :
    SameTable (m.run.run (w, T)).2.2 ((m >>= f).run.run (w, T)).2.2 := by
  rw [exceptState_run_bind]
  rcases m.run.run (w, T) with ⟨_ | k, w', T'⟩
  · exact SameTable.refl T'
  · exact hf k w' T'

/-- The hooks a runner calls, each with its host configuration. -/
inductive Hook where
  | settings (h : SharedHost)
  | process (source : String) (path : Path) (h : SharedHost) (options : TransformOptions)
  | cacheKey (source : String) (path : Path) (serialized : String) (options : TransformOptions)
  | cacheKeyFor (source : String) (path : Path) (h : SharedHost) (options : TransformOptions)

namespace Hook

def host : Hook → HostRef
  | .settings h => .shared h
  | .process _ _ h _ => .shared h
  | .cacheKey _ _ text _ => .serialized text
  | .cacheKeyFor _ _ h _ => .shared h

/-- What a hook leaves, whatever it gives back. -/
def after (c : Hook) (w : Workspace) (T : Transformer) : Workspace × Transformer :=
  match c with
  | .settings h => ((settingsForShared h).run.run (w, T)).2
  | .process source path h options => ((processShared source path h options).run.run (w, T)).2
  | .cacheKey source path text options =>
    ((Transformer.cacheKey source path text options).run.run (w, T)).2
  | .cacheKeyFor source path h options => ((cacheKeyForShared source path h options).run.run (w, T)).2

/-- A hook leaves the table its lookup left. -/
theorem sameTable_after (c : Hook) (w : Workspace) (T : Transformer) :
    SameTable (c.host.entry.run.run (w, T)).2.2 (c.after w T).2 := by
  cases c with
  | settings h => exact sameTable_after_lookup keepsTable_settingsOf w T
  | process source path h options =>
    exact sameTable_after_lookup (fun k => keepsTable_processAt k source path options) w T
  | cacheKey source path text options =>
    exact sameTable_after_lookup (fun k => keepsTable_computeKey k source path options) w T
  | cacheKeyFor source path h options =>
    exact sameTable_after_lookup (fun k => keepsTable_computeKey k source path options) w T

/-- One hook, run in any workspace, with a configuration that fits the transformer. -/
def Step (T T' : Transformer) : Prop := ∃ w c, c.host.Fits T ∧ (Hook.after c w T).2 = T'

/-- A hook keeps a transformer coherent and its entries. -/
theorem step_coherent {T T' : Transformer} (hT : T.Coherent) (hs : Step T T') :
    T'.Coherent ∧ Keeps T T' := by
  obtain ⟨w, c, hf, rfl⟩ := hs
  have hafter := c.sameTable_after w T
  rcases he : c.host.entry.run.run (w, T) with ⟨_ | k, σ⟩ <;> rw [he] at hafter
  · obtain rfl := HostRef.entry_error he
    exact ⟨hT.of_sameTable hafter, hafter.keeps⟩
  · obtain ⟨hT', hkeep, -⟩ := HostRef.entry_coherent hT hf w he
    exact ⟨hT'.of_sameTable hafter, hkeep.trans hafter.keeps⟩

/-- Along any history of hooks, a coherent transformer stays coherent and keeps its entries. -/
theorem steps_coherent {T T' : Transformer} (hT : T.Coherent) (hs : Relation.ReflTransGen Step T T') :
    T'.Coherent ∧ Keeps T T' := by
  induction hs with
  | refl => exact ⟨hT, Keeps.refl T⟩
  | tail _ hstep ih =>
    obtain ⟨hT', hkeep'⟩ := step_coherent ih.1 hstep
    exact ⟨hT', ih.2.trans hkeep'⟩

end Hook

/-! ## Entries are shared by canonical text -/

/-- Along any history of the hooks from an empty transformer, a call and any later call get the
same entry exactly when their host configurations have one canonical text. -/
theorem hooks_share_entry_iff {T₁ T₂ : Transformer} {w₁ w₂ : Workspace} {c₁ c₂ : Hook}
    (h₁ : Relation.ReflTransGen Hook.Step empty T₁) (f₁ : c₁.host.Fits T₁) {k₁ : Nat}
    {σ₁ : Workspace × Transformer} (e₁ : c₁.host.entry.run.run (w₁, T₁) = (.ok k₁, σ₁))
    (h₂ : Relation.ReflTransGen Hook.Step (c₁.after w₁ T₁).2 T₂) (f₂ : c₂.host.Fits T₂) {k₂ : Nat}
    {σ₂ : Workspace × Transformer} (e₂ : c₂.host.entry.run.run (w₂, T₂) = (.ok k₂, σ₂)) :
    k₁ = k₂ ↔ c₁.host.canonical? = c₂.host.canonical? := by
  have hT₁ := (Hook.steps_coherent coherent_empty h₁).1
  obtain ⟨hσ₁, -, e, he, hc₁⟩ := HostRef.entry_coherent hT₁ f₁ w₁ e₁
  -- the first call's entry stays, with its text, through the rest of the history
  have hafter := c₁.sameTable_after w₁ T₁
  rw [e₁] at hafter
  obtain ⟨hT₂, hkeep₂⟩ := Hook.steps_coherent (hσ₁.of_sameTable hafter) h₂
  obtain ⟨hσ₂, hkeepσ₂, e', he', hc₂⟩ := HostRef.entry_coherent hT₂ f₂ w₂ e₂
  obtain ⟨e₀, he₀, hse₀⟩ := (hafter.keeps.trans (hkeep₂.trans hkeepσ₂)) k₁ e he
  have htext₀ : e₀.text = e.text := by simp only [Entry.text, hse₀]
  rw [hc₁, hc₂]
  constructor
  · rintro rfl
    rw [he₀] at he'
    cases he'
    rw [htext₀]
  · intro htext
    exact hσ₂.text_injective k₁ k₂ e₀ e' he₀ he' (htext₀.trans (Option.some.inj htext))

/-- Along any history of the hooks from an empty transformer, a call and any later call get one
entry exactly when their host configurations have one canonical text. After the later call the
transformer holds at most one entry per canonical text and at most one slot per entry, so no
more slots than configurations it has seen, however many copies of them it was handed; and a
lookup that fails leaves every transformer as it was. -/
theorem entries_shared_by_canonical_text {T₁ T₂ : Transformer} {w₁ w₂ : Workspace} {c₁ c₂ : Hook}
    (h₁ : Relation.ReflTransGen Hook.Step empty T₁) (f₁ : c₁.host.Fits T₁) {k₁ : Nat}
    {σ₁ : Workspace × Transformer} (e₁ : c₁.host.entry.run.run (w₁, T₁) = (.ok k₁, σ₁))
    (h₂ : Relation.ReflTransGen Hook.Step (c₁.after w₁ T₁).2 T₂) (f₂ : c₂.host.Fits T₂) {k₂ : Nat}
    {σ₂ : Workspace × Transformer} (e₂ : c₂.host.entry.run.run (w₂, T₂) = (.ok k₂, σ₂)) :
    (k₁ = k₂ ↔ c₁.host.canonical? = c₂.host.canonical?) ∧
      (∀ i j ei ej, (c₂.after w₂ T₂).2.entry i = some ei → (c₂.after w₂ T₂).2.entry j = some ej →
        ei.text = ej.text → i = j) ∧
      ((c₂.after w₂ T₂).2.slots.map Prod.snd).Nodup ∧
      (c₂.after w₂ T₂).2.slots.length ≤ (c₂.after w₂ T₂).2.entries.size ∧
      ∀ (r : HostRef) (w : Workspace) (T : Transformer) err σ,
        r.entry.run.run (w, T) = (.error err, σ) → σ = (w, T) := by
  have hrun : Relation.ReflTransGen Hook.Step empty (c₂.after w₂ T₂).2 :=
    ((h₁.tail ⟨w₁, c₁, f₁, rfl⟩).trans h₂).tail ⟨w₂, c₂, f₂, rfl⟩
  have hT := (Hook.steps_coherent coherent_empty hrun).1
  exact ⟨hooks_share_entry_iff h₁ f₁ e₁ h₂ f₂ e₂, hT.text_injective, hT.slots_nodup,
    hT.slots_length_le, fun _ _ _ _ _ he => HostRef.entry_error he⟩

/-- A configuration handed over at one address and then rebuilt at another gets one entry,
and the transformer keeps one slot for it. -/
theorem rebuilt_copy_shares_entry :
    let w : Workspace := ⟨FileStore.emptyMemory, [Standin.Module.ofVersion "typescript" "5.0.0"], [], none, none, []⟩
    let c₁ := Hook.settings ⟨0, HostConfig.ofRoot ⟨"/p"⟩⟩
    let c₂ := Hook.settings ⟨1, HostConfig.ofRoot ⟨"/p"⟩⟩
    let T₂ := (c₁.after w empty).2
    (0 = 0 ↔ c₁.host.canonical? = c₂.host.canonical?) ∧
      (∀ i j ei ej, (c₂.after w T₂).2.entry i = some ei → (c₂.after w T₂).2.entry j = some ej →
        ei.text = ej.text → i = j) ∧
      ((c₂.after w T₂).2.slots.map Prod.snd).Nodup ∧
      (c₂.after w T₂).2.slots.length ≤ (c₂.after w T₂).2.entries.size ∧
      ∀ (r : HostRef) (w : Workspace) (T : Transformer) err σ,
        r.entry.run.run (w, T) = (.error err, σ) → σ = (w, T) := by
  intro w c₁ c₂ T₂
  obtain ⟨S, hS⟩ := Settings.build_ofRoot
  -- the first call builds entry 0 and holds its copy at address 0
  have e₁ : c₁.host.entry.run.run (w, empty) = (.ok 0, (w, ⟨#[⟨S, Compiler.Instance.start S w.store⟩],
      [((HostConfig.ofRoot ⟨"/p"⟩).canonical, 0)], [(⟨0, HostConfig.ofRoot ⟨"/p"⟩⟩, 0)]⟩)) := by
    simp only [c₁, Hook.host, HostRef.entry, entryForShared_run, entryByText_run, empty]
    rw [show Settings.build (HostConfig.ofRoot ⟨"/p"⟩) w.store w.registry w.envIgnore = .ok S from hS]
    rfl
  have hT₂ : T₂ = ⟨#[⟨S, Compiler.Instance.start S w.store⟩],
      [((HostConfig.ofRoot ⟨"/p"⟩).canonical, 0)], [(⟨0, HostConfig.ofRoot ⟨"/p"⟩⟩, 0)]⟩ := by
    show ((entryForShared _ >>= settingsOf).run.run (w, empty)).2.2 = _
    rw [exceptState_run_bind, show (entryForShared _).run.run (w, empty) = _ from e₁]
    dsimp only
    rw [settingsOf_run]
  -- the rebuilt copy is found by its canonical text and takes over the slot
  have e₂ : c₂.host.entry.run.run (w, T₂) = (.ok 0, (w, ⟨#[⟨S, Compiler.Instance.start S w.store⟩],
      [((HostConfig.ofRoot ⟨"/p"⟩).canonical, 0)], [(⟨1, HostConfig.ofRoot ⟨"/p"⟩⟩, 0)]⟩)) := by
    rw [hT₂]
    simp only [c₂, Hook.host, HostRef.entry, entryForShared_run, entryByText_run]
    simp [List.lookup, takeSlot]
  have f₂ : c₂.host.Fits T₂ := by
    rw [hT₂]
    intro s k hm haddr
    simp only [List.mem_singleton, Prod.mk.injEq] at hm
    obtain ⟨rfl, -⟩ := hm
    cases haddr
  exact entries_shared_by_canonical_text .refl (fun _ _ hm => by simp [empty] at hm) e₁ .refl f₂ e₂

end Transformer

end TestTransform
