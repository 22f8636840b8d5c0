import Mathlib
import TestTransform.Proofs.SettingsStages

/-
Passed-on compiler options never stand for a typed one.

Compiler options are read from a JSON object by a flattened record shape: a key that names a
typed option fills that option, and only the other keys are kept, in `other`. Settings built
from a host configuration therefore pass on no key of a typed option. Options compare by their
JSON value, in which a passed-on key would win over a typed one; since none does, the options
of a CommonJS call and of an ES module call compare different whenever they differ.
-/

namespace TestTransform

namespace Table

variable {κ α : Type} [Ord κ]

theorem mem_insertInto {k : κ} {v : α} {e : κ × α} :
    ∀ {es : List (κ × α)}, e ∈ insertInto k v es → e = (k, v) ∨ e ∈ es := by
  intro es
  induction es with
  | nil => simp [insertInto]
  | cons e' es ih =>
    intro h
    unfold insertInto at h
    split at h
    · simpa using h
    · rcases List.mem_cons.mp h with h | h
      · exact Or.inl h
      · exact Or.inr (List.mem_cons_of_mem _ h)
    · rcases List.mem_cons.mp h with h | h
      · exact Or.inr (h ▸ List.mem_cons_self)
      · rcases ih h with h | h
        · exact Or.inl h
        · exact Or.inr (List.mem_cons_of_mem _ h)

/-- Inserting keeps every key, whatever it does to the value. -/
theorem key_mem_insertInto [Std.LawfulEqOrd κ] {k k' : κ} {v v' : α} :
    ∀ {es : List (κ × α)}, (k', v') ∈ es → ∃ v'', (k', v'') ∈ insertInto k v es := by
  intro es
  induction es with
  | nil => simp
  | cons e es ih =>
    intro h
    unfold insertInto
    split
    · exact ⟨v', List.mem_cons_of_mem _ h⟩
    · rename_i heq
      rcases List.mem_cons.mp h with rfl | h
      · exact ⟨v, by rw [Std.LawfulEqOrd.eq_of_compare heq]; exact List.mem_cons_self⟩
      · exact ⟨v', List.mem_cons_of_mem _ h⟩
    · rcases List.mem_cons.mp h with rfl | h
      · exact ⟨v', List.mem_cons_self⟩
      · obtain ⟨v'', hv⟩ := ih h
        exact ⟨v'', List.mem_cons_of_mem _ hv⟩

theorem mem_insertInto_self {k : κ} {v : α} :
    ∀ {es : List (κ × α)}, (k, v) ∈ insertInto k v es := by
  intro es
  induction es with
  | nil => simp [insertInto]
  | cons e es ih =>
    unfold insertInto
    split
    · exact List.mem_cons_self
    · exact List.mem_cons_self
    · exact List.mem_cons_of_mem _ ih

theorem mem_foldl_insert {e : κ × α} :
    ∀ (l : List (κ × α)) (t : Table κ α),
      e ∈ (l.foldl (fun t e => t.insert e.1 e.2) t).entries → e ∈ t.entries ∨ e ∈ l := by
  intro l
  induction l with
  | nil => exact fun _ h => Or.inl h
  | cons e' l ih =>
    intro t h
    rcases ih _ h with h | h
    · rcases mem_insertInto h with rfl | h
      · exact Or.inr List.mem_cons_self
      · exact Or.inl h
    · exact Or.inr (List.mem_cons_of_mem _ h)

theorem key_mem_foldl_insert [Std.LawfulEqOrd κ] {k : κ} :
    ∀ (l : List (κ × α)) (t : Table κ α) (v : α), ((k, v) ∈ t.entries ∨ (k, v) ∈ l) →
      ∃ v', (k, v') ∈ (l.foldl (fun t e => t.insert e.1 e.2) t).entries := by
  intro l
  induction l with
  | nil =>
    intro t v h
    exact ⟨v, h.resolve_right (List.not_mem_nil)⟩
  | cons e l ih =>
    intro t v h
    rcases h with h | h
    · obtain ⟨v'', hv⟩ := key_mem_insertInto (k := e.1) (v := e.2) h
      exact ih _ v'' (Or.inl hv)
    · rcases List.mem_cons.mp h with rfl | h
      · exact ih _ v (Or.inl mem_insertInto_self)
      · exact ih _ v (Or.inr h)

/-- The entries of a table built from a list are entries of the list. -/
theorem mem_ofList_entries {l : List (κ × α)} {e : κ × α} (h : e ∈ (ofList l).entries) : e ∈ l :=
  (mem_foldl_insert l empty h).resolve_left List.not_mem_nil

/-- Every key of the list has an entry in the table built from it. -/
theorem key_mem_ofList_entries [Std.LawfulEqOrd κ] {l : List (κ × α)} {k : κ} {v : α}
    (h : (k, v) ∈ l) : ∃ v', (k, v') ∈ (ofList l).entries :=
  key_mem_foldl_insert l empty v (Or.inr h)

end Table

namespace Json
namespace Value

theorem sameMembers_mem {k : String} {v : Value} :
    ∀ {xs ys : List (String × Value)}, sameMembers xs ys = true → (k, v) ∈ xs →
      ∃ v', (k, v') ∈ ys ∧ same v v' = true := by
  intro xs
  induction xs with
  | nil => simp
  | cons x xs ih =>
    intro ys hsame hmem
    obtain ⟨kx, vx⟩ := x
    cases ys with
    | nil => simp [sameMembers] at hsame
    | cons y ys =>
      obtain ⟨ky, vy⟩ := y
      simp only [sameMembers, Bool.and_eq_true, beq_iff_eq] at hsame
      obtain ⟨⟨rfl, hv⟩, hrest⟩ := hsame
      rcases List.mem_cons.mp hmem with h | h
      · cases h
        exact ⟨vy, List.mem_cons_self, hv⟩
      · obtain ⟨v', hv', hs⟩ := ih hrest h
        exact ⟨v', List.mem_cons_of_mem _ hv', hs⟩

theorem mem_sortMembers {ms : List (String × Value)} {m : String × Value}
    (h : m ∈ sortMembers ms) : m ∈ ms :=
  Table.mem_ofList_entries h

theorem key_mem_sortMembers {ms : List (String × Value)} {k : String} {v : Value}
    (h : (k, v) ∈ ms) : ∃ v', (k, v') ∈ sortMembers ms :=
  Table.key_mem_ofList_entries h

end Value

/-- Decoding a flattened record keeps only members whose key names no field. -/
theorem members_rest_untyped {decode : Shape → Value → Except DataFault Decoded}
    {fields : List Field} {ms : List (String × Value)} {d : Decoded}
    (h : decodeMembers decode fields true ms = .ok d) :
    ∀ kv ∈ d.rest, fieldIndex fields kv.1 = none := by
  unfold decodeMembers at h
  obtain ⟨⟨slots, rest⟩, hfold, h⟩ := except_bind_eq_ok.mp h
  obtain ⟨filled, -, h⟩ := except_bind_eq_ok.mp h
  cases h
  -- every member set aside by the fold names no field
  have hrest : ∀ kv ∈ rest, fieldIndex fields kv.1 = none := by
    refine except_foldlM_invariant
      (fun acc : List (Option Decoded) × List (String × Value) =>
        ∀ kv ∈ acc.2, fieldIndex fields kv.1 = none) ?_ _ (by simp) hfold
    intro acc kx acc' hacc hstep
    obtain ⟨k, x⟩ := kx
    cases hidx : fieldIndex fields k with
    | none =>
      simp only [hidx, if_true, Except.ok.injEq] at hstep
      subst hstep
      intro kv hkv
      rcases List.mem_cons.mp hkv with rfl | hkv
      · exact hidx
      · exact hacc kv hkv
    | some idx =>
      simp only [hidx] at hstep
      cases hslot : acc.1.getD idx none with
      | some _ =>
        rw [hslot] at hstep
        cases hstep
      | none =>
        rw [hslot] at hstep
        cases hd : decode (fields.getD idx (.optional "" .any)).shape x with
        | error e =>
          rw [hd] at hstep
          cases hstep
        | ok d =>
          rw [hd] at hstep
          cases hstep
          exact hacc
  intro kv hkv
  simp only [Decoded.rest] at hkv
  obtain ⟨kx, hkx, rfl⟩ := List.mem_map.mp (Value.mem_sortMembers hkv)
  exact hrest kx (List.mem_reverse.mp hkx)

/-- A flattened record decodes through its members. -/
theorem decode_flattened {name : String} {fields : List Field} {v : Value} {d : Decoded}
    (h : (Shape.flattened name fields).decode v = .ok d) :
    ∃ fuel ms, decodeMembers (decodeTree fuel) fields true ms = .ok d := by
  unfold Shape.decode at h
  cases v with
  | obj ms => exact ⟨_, ms, h⟩
  | _ => simp [decodeTree] at h

end Json

namespace Config
namespace CompilerOptions

/-- The typed options, as the shape of compiler options reads them. -/
def typedFields : List Json.Field :=
  match shape with
  | .flattened _ fields => fields
  | _ => []

/-- Options whose passed-on keys name no typed option. -/
def PassesOnUntyped (o : CompilerOptions) : Prop :=
  ∀ kv ∈ o.other, Json.fieldIndex typedFields kv.1 = none

theorem ofValue_passesOnUntyped {v : Json.Value} {o : CompilerOptions} (h : ofValue v = .ok o) :
    o.PassesOnUntyped := by
  unfold ofValue at h
  cases hd : shape.decode v with
  | error e => simp [hd, Except.map] at h
  | ok d =>
    simp only [hd, Except.map, Except.ok.injEq] at h
    subst h
    obtain ⟨fuel, ms, hms⟩ := Json.decode_flattened hd
    exact Json.members_rest_untyped hms

theorem passesOnUntyped_of_other_eq {o o' : CompilerOptions} (ho : o.PassesOnUntyped)
    (h : o'.other = o.other) : o'.PassesOnUntyped := by
  intro kv hkv
  exact ho kv (h ▸ hkv)

theorem fieldIndex_module : Json.fieldIndex typedFields "module" = some 1 := by
  simp [Json.fieldIndex, typedFields, shape, Json.Field.names, Json.Field.optional, List.findIdx?,
    List.findIdx?.go]

theorem key_of_mem_typedMembers {o : CompilerOptions} {v : Json.Value}
    (h : ("module", v) ∈ o.typedMembers) : ∃ m, o.module = some m ∧ v = .str m.name := by
  unfold typedMembers at h
  simp only [List.mem_append, or_assoc] at h
  -- one piece per typed option; only the module's can hold the key
  rcases h with h | h | h | h | h | h | h | h | h | h | h | h | h | h | h | h | h | h | h | h | h
  all_goals split at h <;> simp_all

/-- With no passed-on `module`, the options' JSON holds the typed module only. -/
theorem module_member {o : CompilerOptions} (ho : o.PassesOnUntyped) {v : Json.Value}
    (h : ("module", v) ∈ Json.Value.sortMembers (o.typedMembers ++ o.other)) :
    ∃ m, o.module = some m ∧ v = .str m.name := by
  rcases List.mem_append.mp (Json.Value.mem_sortMembers h) with h | h
  · exact key_of_mem_typedMembers h
  · have := ho _ h
    simp [fieldIndex_module] at this

theorem module_present {o : CompilerOptions} {m : ModuleKind} (hm : o.module = some m) :
    ∃ v, ("module", v) ∈ Json.Value.sortMembers (o.typedMembers ++ o.other) := by
  have htyped : ("module", Json.Value.str m.name) ∈ o.typedMembers := by
    unfold typedMembers
    simp only [List.mem_append, or_assoc]
    refine Or.inr (Or.inl ?_)
    simp only [hm]
    exact List.mem_singleton_self _
  exact Json.Value.key_mem_sortMembers (List.mem_append_left _ htyped)

theorem ModuleKind.name_injective {a b : ModuleKind} (h : a.name = b.name) : a = b := by
  cases a <;> cases b <;> simp_all [ModuleKind.name]

/-- Options that compare equal and pass on no `module` name the same module kind. -/
theorem module_eq_of_beq {o₁ o₂ : CompilerOptions} (h₁ : o₁.PassesOnUntyped)
    (h₂ : o₂.PassesOnUntyped) {m₁ m₂ : ModuleKind} (hm₁ : o₁.module = some m₁)
    (hm₂ : o₂.module = some m₂) (h : (o₁ == o₂) = true) : m₁ = m₂ := by
  have hsame : Json.Value.same o₁.toValue o₂.toValue = true := h
  simp only [toValue, Json.Value.same] at hsame
  obtain ⟨v₁, hv₁⟩ := module_present hm₁
  obtain ⟨v₂, hv₂, hs⟩ := Json.Value.sameMembers_mem hsame hv₁
  obtain ⟨m₁', hm₁', rfl⟩ := module_member h₁ hv₁
  obtain ⟨m₂', hm₂', rfl⟩ := module_member h₂ hv₂
  rw [hm₁, Option.some.injEq] at hm₁'
  rw [hm₂, Option.some.injEq] at hm₂'
  subst hm₁' hm₂'
  exact ModuleKind.name_injective (by simpa [Json.Value.same] using hs)

theorem forModuleSystem_commonjs (o : CompilerOptions) (u : Bool) :
    (o.forModuleSystem u false).module = some .commonjs := by
  simp [forModuleSystem]

theorem forModuleSystem_esModule (o : CompilerOptions) :
    ∃ m, (o.forModuleSystem true true).module = some m ∧ m.isEsModule = true := by
  unfold forModuleSystem
  simp only [Bool.and_self, if_true]
  cases hmod : o.module with
  | none => exact ⟨.esnext, rfl, rfl⟩
  | some m =>
    cases hm : m.isEsModule
    · exact ⟨.esnext, by simp [hm], rfl⟩
    · exact ⟨m, by simp [hm], hm⟩

/-- The options of two calls compare equal only when the calls chose the same module system. -/
theorem forModuleSystem_eq_of_beq {o : CompilerOptions} (ho : o.PassesOnUntyped) {u b₁ b₂ : Bool}
    (h : (o.forModuleSystem u b₁ == o.forModuleSystem u b₂) = true) :
    o.forModuleSystem u b₁ = o.forModuleSystem u b₂ := by
  have hpass : ∀ b, (o.forModuleSystem u b).PassesOnUntyped := by
    intro b
    refine passesOnUntyped_of_other_eq ho ?_
    unfold forModuleSystem
    split <;> rfl
  cases u
  · simp [forModuleSystem]
  obtain ⟨m, hm, hes⟩ := forModuleSystem_esModule o
  -- a CommonJS call against an ES module one would name two different module kinds
  cases b₁ <;> cases b₂
  · rfl
  · have := module_eq_of_beq (hpass false) (hpass true) (forModuleSystem_commonjs o true) hm h
    subst this
    simp [ModuleKind.isEsModule] at hes
  · have := module_eq_of_beq (hpass true) (hpass false) hm (forModuleSystem_commonjs o true) h
    subst this
    simp [ModuleKind.isEsModule] at hes
  · rfl

end CompilerOptions

theorem resolveProject_passesOnUntyped {store : FileStore} {h : HostConfig}
    {source : Option TsConfigSource} {withFileNames : Bool} {P : ResolvedProject}
    (hP : resolveProject store h source withFileNames = .ok P) : P.options.PassesOnUntyped := by
  obtain ⟨_, o, -, -, ho, hopts, -⟩ := resolveProject_eq_ok hP
  rw [hopts]
  exact CompilerOptions.passesOnUntyped_of_other_eq (CompilerOptions.ofValue_passesOnUntyped ho)
    (finishOptions_other _ _)

namespace Settings

theorem withEnvCodes_passesOnUntyped {h : HostConfig} {store : FileStore} {modules : Registry}
    {codes : List Nat} {S : Settings} (hS : withEnvCodes h store modules codes = .ok S) :
    S.options.PassesOnUntyped := by
  obtain ⟨_, _, _, _, _, _, -, hproject, -, -, -, -, rfl⟩ := withEnvCodes_eq_ok hS
  exact resolveProject_passesOnUntyped hproject

/-- Settings built for a host configuration pass on no key of a typed option. -/
theorem build_passesOnUntyped {h : HostConfig} {store : FileStore} {modules : Registry}
    {env : Option String} {S : Settings} (hS : build h store modules env = .ok S) :
    S.options.PassesOnUntyped := by
  unfold build at hS
  obtain ⟨codes, -, hS⟩ := except_bind_eq_ok.mp hS
  exact withEnvCodes_passesOnUntyped hS

end Settings

end Config

end TestTransform
