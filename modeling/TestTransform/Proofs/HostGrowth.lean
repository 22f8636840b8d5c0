import TestTransform.Compiler.Checked
import TestTransform.Proofs.PathNormal

/-
How the host of a type-checking compiler grows, and why its stored outputs stay right.

A file table is read through `get?`, which finds the first entry whose path equals the one
asked for; every lemma here is stated through it. A host `Adds` to another when it keeps the
options and every record it had, and any record it has beyond them holds no output; its
project version may only rise. Reading scripts, adding files and checking them all add to the
host in this sense.

The host's outputs are sound when every stored output was compiled at a project version no
later than the current one, and one stored at the current version is what emitting the
record's text at its path with the current options gives. Adding to a sound host, changing its
options and setting a text all keep it sound.
-/

namespace TestTransform
namespace Compiler

open Config Standin

namespace FileTable

/-- Paths equal as paths find the same record. -/
theorem get?_congr (t : FileTable) {p q : Path} (h : (p == q) = true) : t.get? p = t.get? q := by
  unfold get?
  congr 2
  funext e
  exact Path.beq_congr_right h e.1

theorem get?_modify (t : FileTable) (p q : Path) (f : FileRecord → FileRecord) :
    (t.modify p f).get? q = if (q == p) = true then (t.get? q).map f else t.get? q := by
  unfold get? modify
  rw [List.find?_map]
  -- the modified entries keep their paths, so the search stops at the same entry
  have hkeys : ((fun e : Path × FileRecord => e.1 == q) ∘
      (fun e => if (e.1 == p) = true then (e.1, f e.2) else e)) = (fun e => e.1 == q) := by
    funext e
    simp only [Function.comp]
    split <;> rfl
  rw [hkeys]
  cases hfind : t.entries.find? (fun e => e.1 == q) with
  | none => simp
  | some e =>
    have heq : (e.1 == q) = true := by simpa using List.find?_some hfind
    have hpq : (e.1 == p) = (q == p) := by
      rw [Path.beq_comm q p, Path.beq_comm e.1 p]
      exact Path.beq_congr_right heq p
    by_cases hq : (q == p) = true
    · simp [hpq, hq]
    · simp [hpq, hq]

theorem get?_append (t : FileTable) (p q : Path) (r : FileRecord) :
    (⟨t.entries ++ [(p, r)]⟩ : FileTable).get? q =
      match t.get? q with
      | some r' => some r'
      | none => if (p == q) = true then some r else none := by
  unfold get?
  rw [List.find?_append]
  cases t.entries.find? (fun e => e.1 == q) with
  | some e => rfl
  | none =>
    by_cases h : (p == q) = true
    · simp [h]
    · simp [h]

/-- Setting a text leaves the records of other paths alone. -/
theorem get?_update_of_ne (t : FileTable) {p q : Path} (text : String) (h : (q == p) = false) :
    (t.update p text).2.get? q = t.get? q := by
  unfold update
  cases hp : t.get? p with
  | some r =>
    simp only
    split
    · rfl
    · simp [get?_modify, h]
  | none =>
    simp only [get?_append]
    cases t.get? q with
    | some r' => rfl
    | none => simp [Path.beq_comm p q, h]

/-- After setting a text, the path's record holds that text. -/
theorem get?_update_self (t : FileTable) (p : Path) (text : String) :
    ∃ r, (t.update p text).2.get? p = some r ∧ r.text = text := by
  unfold update
  cases hp : t.get? p with
  | some r =>
    simp only
    split
    · exact ⟨r, hp, by simpa using ‹(r.text == text) = true›⟩
    · exact ⟨⟨text, r.version + 1, none⟩, by simp [get?_modify, hp], rfl⟩
  | none => exact ⟨⟨text, 1, none⟩, by simp [get?_append, hp], rfl⟩

/-- Setting a text changes nothing, or moves the table on with every record either an old one
or one without output. -/
theorem update_unchanged_or_dirty (t : FileTable) (p : Path) (text : String) :
    t.update p text = (.unchanged, t) ∨
      ((t.update p text).1.isDirty = true ∧
        ∀ q r, (t.update p text).2.get? q = some r → t.get? q = some r ∨ r.output = none) := by
  unfold update
  cases hp : t.get? p with
  | some r =>
    simp only
    split
    · exact Or.inl rfl
    · refine Or.inr ⟨rfl, fun q r' hq => ?_⟩
      rw [get?_modify] at hq
      split at hq
      · obtain ⟨r₀, -, hr₀⟩ := Option.map_eq_some_iff.mp hq
        exact Or.inr (by rw [← hr₀])
      · exact Or.inl hq
  | none =>
    refine Or.inr ⟨rfl, fun q r' hq => ?_⟩
    simp only [get?_append] at hq
    cases hq' : t.get? q with
    | some r'' =>
      rw [hq'] at hq
      exact Or.inl hq
    | none =>
      simp only [hq'] at hq
      split at hq
      · cases hq
        exact Or.inr rfl
      · cases hq

theorem get?_storeOutput (t : FileTable) (p q : Path) (v : Nat) (o : Output) :
    (t.storeOutput p v o).get? q =
      if (q == p) = true then (t.get? q).map (fun r => { r with output := some (v, o) })
      else t.get? q :=
  get?_modify t p q _

theorem output?_eq_some {t : FileTable} {p : Path} {v : Nat} {o : Output} :
    t.output? p v = some o ↔ ∃ r, t.get? p = some r ∧ r.output = some (v, o) := by
  unfold output?
  cases t.get? p with
  | none => simp
  | some r =>
    cases hr : r.output with
    | none => simp [hr]
    | some vo =>
      obtain ⟨v', o'⟩ := vo
      by_cases hv : v' = v
      · subst hv
        simp [hr]
      · simp [hr, hv]

end FileTable

namespace ServiceHost

/-- `h'` adds to `h`: same options, every record kept, new records without output, and a
project version no lower. -/
structure Adds (h h' : ServiceHost) : Prop where
  options : h'.options = h.options
  version : h.projectVersion ≤ h'.projectVersion
  kept : ∀ p r, h.files.get? p = some r → h'.files.get? p = some r
  fresh : ∀ p r, h'.files.get? p = some r → h.files.get? p = none → r.output = none

theorem Adds.refl (h : ServiceHost) : Adds h h :=
  ⟨rfl, Nat.le_refl _, fun _ _ hr => hr, fun _ _ hr hn => by simp [hn] at hr⟩

theorem Adds.trans {h₁ h₂ h₃ : ServiceHost} (a : Adds h₁ h₂) (b : Adds h₂ h₃) : Adds h₁ h₃ where
  options := b.options.trans a.options
  version := Nat.le_trans a.version b.version
  kept p r hr := b.kept p r (a.kept p r hr)
  fresh p r hr hn := by
    cases h₂p : h₂.files.get? p with
    | none => exact b.fresh p r hr h₂p
    | some r' =>
      rw [b.kept p r' h₂p, Option.some.injEq] at hr
      subst hr
      exact a.fresh p r' h₂p hn

/-- Adding a path the table does not hold adds to the host. -/
theorem adds_update_new (h : ServiceHost) {p : Path} (text : String) (hp : h.files.get? p = none) :
    Adds h { h with files := (h.files.update p text).2 } := by
  have hupd : (h.files.update p text).2 = ⟨h.files.entries ++ [(p, ⟨text, 1, none⟩)]⟩ := by
    simp [FileTable.update, hp]
  refine ⟨rfl, Nat.le_refl _, ?_, ?_⟩
  · intro q r hq
    simp only [hupd, FileTable.get?_append, hq]
  · intro q r hq hn
    simp only [hupd, FileTable.get?_append, hn] at hq
    split at hq
    · cases hq
      rfl
    · cases hq

theorem updateFile_snd (h : ServiceHost) (p : Path) (text : String) :
    (h.updateFile p text).2 =
      { h with files := (h.files.update p text).2,
               projectVersion := if (h.files.update p text).1.isDirty then h.projectVersion + 1
                 else h.projectVersion } := rfl

theorem adds_updateFile_new (h : ServiceHost) {p : Path} (text : String)
    (hp : h.files.get? p = none) : Adds h (h.updateFile p text).2 := by
  have hadd := adds_update_new h text hp
  rw [updateFile_snd]
  exact ⟨hadd.options, Nat.le_trans hadd.version (by dsimp only; split <;> omega), hadd.kept,
    hadd.fresh⟩

/-- Reading a script only ever adds it to the host. -/
theorem adds_snapshot (store : FileStore) (h : ServiceHost) (file : Path) :
    Adds h (h.snapshot store file).2 := by
  unfold snapshot
  simp only
  cases ht : h.files.text? file.normalize with
  | some t => exact Adds.refl h
  | none =>
    have hn : h.files.get? file.normalize = none := by
      simpa [FileTable.text?] using ht
    simp only
    split
    · exact Adds.refl h
    · split
      · exact adds_update_new h _ hn
      · exact adds_updateFile_new h _ hn

/-- A script the table holds is read from the table. -/
theorem snapshot_of_text (store : FileStore) (h : ServiceHost) {file : Path} {t : String}
    (ht : h.files.text? file.normalize = some t) : h.snapshot store file = (some t, h) := by
  unfold snapshot
  simp [ht]

/-! ## Sound outputs -/

/-- What the emit of a text at a path gives when it is neither skipped nor a declaration. -/
def emitFor (text : String) (file : Path) (options : CompilerOptions) : EmitOutput :=
  let (code, map) := emitJavaScript text file options
  let jsName := outputName file
  let mapFile := match map with
    | some m => [(Path.mk (jsName.text ++ ".map"), m)]
    | none => []
  ⟨mapFile ++ [(jsName, code)], false⟩

/-- Every stored output was compiled at a version no later than the current one, and one
stored at the current version is the emit of the record's text with the current options, of a
text that `accepted` holds of. -/
def OutputsSound (accepted : String → Path → Prop) (h : ServiceHost) : Prop :=
  ∀ p r v o, h.files.get? p = some r → r.output = some (v, o) →
    v ≤ h.projectVersion ∧
      (v = h.projectVersion →
        CheckedCompiler.selectOutput p.normalize (emitFor r.text p.normalize h.options) = .ok o ∧
          accepted r.text p.normalize)

section Sound

variable {accepted : String → Path → Prop}

theorem OutputsSound.of_adds {h h' : ServiceHost} (hs : h.OutputsSound accepted) (a : Adds h h') :
    h'.OutputsSound accepted := by
  intro p r v o hr ho
  cases hp : h.files.get? p with
  | none => simp [a.fresh p r hr hp] at ho
  | some r₀ =>
    rw [a.kept p r₀ hp, Option.some.injEq] at hr
    subst hr
    obtain ⟨hv, hcur⟩ := hs p r₀ v o hp ho
    refine ⟨Nat.le_trans hv a.version, fun hv' => ?_⟩
    rw [a.options]
    exact hcur (Nat.le_antisymm hv (hv' ▸ a.version))

/-- Outputs older than the current version say nothing. -/
theorem OutputsSound.of_version_lt {h : ServiceHost} (hs : h.OutputsSound accepted)
    (h' : ServiceHost) (hfiles : h'.files = h.files) (hv : h.projectVersion < h'.projectVersion) :
    h'.OutputsSound accepted := by
  intro p r v o hr ho
  rw [hfiles] at hr
  have hle := (hs p r v o hr ho).1
  exact ⟨by omega, fun hv' => by omega⟩

theorem OutputsSound.setOptions {h : ServiceHost} (hs : h.OutputsSound accepted)
    (o : CompilerOptions) : (h.setOptions o).OutputsSound accepted := by
  unfold ServiceHost.setOptions
  split
  · exact hs
  · exact hs.of_version_lt _ rfl (by simp)

theorem OutputsSound.updateFile {h : ServiceHost} (hs : h.OutputsSound accepted) (p : Path)
    (text : String) : (h.updateFile p text).2.OutputsSound accepted := by
  rw [updateFile_snd]
  rcases FileTable.update_unchanged_or_dirty h.files p text with hu | ⟨hd, hrec⟩
  · rw [hu]
    exact hs
  · -- the version moves on, and every record is an old one or holds no output
    simp only [hd, if_true]
    intro q r v o hr ho
    rcases hrec q r hr with hold | hnone
    · have hle := (hs q r v o hold ho).1
      exact ⟨by dsimp only; omega, fun hv => by dsimp only at hv; omega⟩
    · simp [hnone] at ho

end Sound

end ServiceHost

end Compiler
end TestTransform
