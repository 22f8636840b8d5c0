import TestTransform.Proofs.ImportClosure

/-
How far the stand-in's type inference follows names.

The semantic check finds the type of a declaration's initializer by following names: a literal
has its type, a name declared in the same file leads to its declared type or on to its own
initializer, and a name imported by name leads into the module the import resolves to. The depth
is checked only where an initializer is followed. A chain of declarations in one file therefore
stops after at most nine names, whatever the fuel (`chase_ends_without_imports`), while an import
is followed at any depth (`identifierType_hop`): when the imports come back on themselves the
recursion has no end, and the chase is still going whatever fuel it is given
(`chase_unbounded_on_import_cycle`). The semantic check gives the chase `chaseFuel` steps, more
than any chase that ends can take, and a chase still going after them stops the compile
without a reply.

Main statement: `chase_depth_bounds_declarations_not_imports`.
-/

namespace TestTransform
namespace Compiler
namespace Standin

open ServiceHost

/-! ## Chains of declarations -/

/-- In a text with no named import, following a name at depth `d` reads nothing and ends within
`2 * (9 - d) + 1` steps, at a type or at none: any more fuel gives the same answer. -/
theorem chase_ends_without_imports (store : FileStore) (file : Path) (text : String)
    (hno : ∀ n, importOf text n = none) :
    ∀ F : Nat,
      (∀ e d s, 2 * (9 - d) < F → ∃ r, r ≠ .unbounded ∧
        ∀ k, (expressionType store (F + k) file text e d).run s = (r, s)) ∧
      (∀ n d s, 2 * (9 - d) + 1 < F → ∃ r, r ≠ .unbounded ∧
        ∀ k, (identifierType store (F + k) file text n d).run s = (r, s)) := by
  intro F
  induction F with
  | zero => exact ⟨fun _ _ _ h => absurd h (Nat.not_lt_zero _), fun _ _ _ h => absurd h (Nat.not_lt_zero _)⟩
  | succ F ih =>
    constructor
    · intro e d s hF
      -- the branch taken does not depend on the fuel
      cases hlit : literalType e with
      | some t =>
        refine ⟨.type t, nofun, fun k => ?_⟩
        rw [Nat.add_right_comm]
        simp only [expressionType, hlit]
        rfl
      | none =>
        by_cases hstop : (decide (d > 8) || !identifier.isMatch e) = true
        · refine ⟨.unknown, nofun, fun k => ?_⟩
          rw [Nat.add_right_comm]
          simp only [expressionType, hlit, hstop, if_true]
          rfl
        · -- a name below the bound: the chase goes one step deeper
          have hd : d ≤ 8 := by
            simp only [Bool.or_eq_true, decide_eq_true_eq, not_or] at hstop
            omega
          obtain ⟨r, hr, hrun⟩ := ih.2 e (d + 1) s (by omega)
          refine ⟨r, hr, fun k => ?_⟩
          rw [Nat.add_right_comm]
          simp only [expressionType, hlit, hstop, Bool.false_eq_true, if_false]
          exact hrun k
    · intro n d s hF
      cases hdecl : declarationOf text n with
      | some decl =>
        obtain ⟨declared, initializer⟩ := decl
        cases declared with
        | some declared =>
          refine ⟨.type declared, nofun, fun k => ?_⟩
          rw [Nat.add_right_comm]
          simp only [identifierType, hdecl]
          rfl
        | none =>
          obtain ⟨r, hr, hrun⟩ := ih.1 initializer d s (by omega)
          refine ⟨r, hr, fun k => ?_⟩
          rw [Nat.add_right_comm]
          simp only [identifierType, hdecl]
          exact hrun k
      | none =>
        refine ⟨.unknown, nofun, fun k => ?_⟩
        rw [Nat.add_right_comm]
        simp only [identifierType, hdecl, hno n]
        rfl

/-! ## Chains of imports -/

/-- An import the chase follows from `name` in `text` at `file`, over what the host `h` shows:
the text declares no `name`, a named import binds it to `exported` from a specifier that
resolves to `module`, and the host reads `module` as `moduleText`. -/
structure ImportHop (store : FileStore) (h : ServiceHost) (file : Path) (text name : String)
    (module : Path) (moduleText exported : String) : Prop where
  undeclared : declarationOf text name = none
  imported : ∃ spec, importOf text name = some (exported, spec) ∧
    resolveModule store h file spec = some module
  reads : (h.snapshot store module).1 = some moduleText

/-- Following an imported name takes one step into its module with the depth raised, whatever
the depth: nothing checks it. -/
theorem identifierType_hop {store : FileStore} {h : ServiceHost} {file module : Path}
    {text name moduleText exported : String}
    (hop : ImportHop store h file text name module moduleText exported)
    (F d : Nat) (s : Service) (hs : SameView store h s.host) :
    (identifierType store (F + 1) file text name d).run s =
      (identifierType store F module moduleText exported (d + 1)).run
        { s with host := (s.host.snapshot store module).2 } := by
  obtain ⟨spec, himport, hresolve⟩ := hop.imported
  have hresolve' : resolveModule store s.host file spec = some module := by
    rw [resolveModule_congr hs.present, hresolve]
  have hread : (s.host.snapshot store module).1 = some moduleText :=
    (hs.reads module).trans hop.reads
  -- the name is undeclared and imported; the import resolves and reads as over `h`
  conv_lhs => unfold identifierType
  simp only [hop.undeclared, himport, snapshot, StateT.run_bind, StateT.run_get, pure_bind,
    hresolve', StateT.run_modifyGet, hread]

/-- A name below the depth bound that is no literal is followed as a name, one step deeper. -/
theorem expressionType_name (store : FileStore) (F : Nat) (file : Path) (text e : String) (d : Nat)
    (hlit : literalType e = none) (hid : identifier.isMatch e = true) (hd : d ≤ 8) :
    expressionType store (F + 1) file text e d = identifierType store F file text e (d + 1) := by
  unfold expressionType
  simp [hlit, hid, Nat.not_lt.mpr hd]

/-- Positions each of which imports its name from another of them: imports that come back on
themselves. -/
def ImportCycle (store : FileStore) (h : ServiceHost) (P : Path → String → String → Prop) : Prop :=
  ∀ file text name, P file text name →
    ∃ module moduleText exported, ImportHop store h file text name module moduleText exported ∧
      P module moduleText exported

/-- On an import cycle the chase never reaches a declaration: whatever its fuel, it is still
going when the fuel runs out. -/
theorem chase_unbounded_on_import_cycle {store : FileStore} {h : ServiceHost}
    {P : Path → String → String → Prop} (hP : ImportCycle store h P) :
    ∀ F file text name d (s : Service), SameView store h s.host → P file text name →
      ((identifierType store F file text name d).run s).1 = .unbounded := by
  intro F
  induction F with
  | zero => intros; rfl
  | succ F ih =>
    intro file text name d s hs hp
    obtain ⟨module, moduleText, exported, hop, hnext⟩ := hP file text name hp
    rw [identifierType_hop hop F d s hs]
    exact ih module moduleText exported (d + 1) _ (hs.trans (sameView_snapshot store s.host module))
      hnext

/-! ## Main statement -/

/-- The depth check bounds the names followed through declarations, not those followed through
imports. In a text without named imports the chase of any initializer ends within
`2 * (9 - d) + 1` steps and reads nothing. An initializer that names a position of an import
cycle (two modules that import a name from each other, say) is chased without end: whatever the
fuel, the chase is still going when it runs out. -/
theorem chase_depth_bounds_declarations_not_imports (store : FileStore) (file : Path)
    (text e : String) (d : Nat) (s : Service) :
    ((∀ n, importOf text n = none) →
      ∀ F, 2 * (9 - d) < F → ∃ r, r ≠ .unbounded ∧
        ∀ k, (expressionType store (F + k) file text e d).run s = (r, s)) ∧
    (∀ (h : ServiceHost) (P : Path → String → String → Prop), ImportCycle store h P →
      SameView store h s.host → P file text e →
      literalType e = none → identifier.isMatch e = true → d ≤ 8 →
      ∀ F, ((expressionType store F file text e d).run s).1 = .unbounded) := by
  refine ⟨fun hno F hF => (chase_ends_without_imports store file text hno F).1 e d s hF, ?_⟩
  intro h P hP hs hp hlit hid hd F
  cases F with
  | zero => rfl
  | succ F =>
    rw [expressionType_name store F file text e d hlit hid hd]
    exact chase_unbounded_on_import_cycle hP F file text e (d + 1) s hs hp

theorem eq_some_of_map_text {x : Option Path} {t : String} (h : x.map Path.text = some t) :
    x = some ⟨t⟩ := by
  cases x with
  | none => cases h
  | some p => cases h; rfl

/-- Two modules that import `x` from each other, the first declaring `y: number = x`: the
chase of that initializer is still going whatever the fuel, while a text with no imports is
chased to its end. -/
theorem chase_round_two_modules :
    (∃ r, r ≠ .unbounded ∧ ∀ k,
      (expressionType (.memory [(⟨"/p/a.ts"⟩, ⟨"import { x } from './b';\nconst y: number = x;\n", 0⟩),
          (⟨"/p/b.ts"⟩, ⟨"import { x } from './a';\n", 0⟩)] 0) (20 + k) ⟨"/p/a.ts"⟩ "" "x" 0).run
        ⟨ServiceHost.start default [], none, Stats.zero⟩ =
      (r, ⟨ServiceHost.start default [], none, Stats.zero⟩)) ∧
    ∀ F, ((expressionType (.memory [(⟨"/p/a.ts"⟩, ⟨"import { x } from './b';\nconst y: number = x;\n", 0⟩),
          (⟨"/p/b.ts"⟩, ⟨"import { x } from './a';\n", 0⟩)] 0) F ⟨"/p/a.ts"⟩
        "import { x } from './b';\nconst y: number = x;\n" "x" 0).run
      ⟨ServiceHost.start default [], none, Stats.zero⟩).1 = .unbounded := by
  -- each module declares no `x` and imports it from the other, which the host reads
  have hfacts :
      declarationOf "import { x } from './b';\nconst y: number = x;\n" "x" = none ∧
      importOf "import { x } from './b';\nconst y: number = x;\n" "x" = some ("x", "./b") ∧
      declarationOf "import { x } from './a';\n" "x" = none ∧
      importOf "import { x } from './a';\n" "x" = some ("x", "./a") ∧
      literalType "x" = none ∧ identifier.isMatch "x" = true := by
    decide +kernel
  obtain ⟨hdeclA, himpA, hdeclB, himpB, hlit, hid⟩ := hfacts
  have hresAB := eq_some_of_map_text (show (resolveModule (.memory [(⟨"/p/a.ts"⟩,
      ⟨"import { x } from './b';\nconst y: number = x;\n", 0⟩), (⟨"/p/b.ts"⟩,
      ⟨"import { x } from './a';\n", 0⟩)] 0) (ServiceHost.start default []) ⟨"/p/a.ts"⟩ "./b").map
      Path.text = some "/p/b.ts" by decide +kernel)
  have hresBA := eq_some_of_map_text (show (resolveModule (.memory [(⟨"/p/a.ts"⟩,
      ⟨"import { x } from './b';\nconst y: number = x;\n", 0⟩), (⟨"/p/b.ts"⟩,
      ⟨"import { x } from './a';\n", 0⟩)] 0) (ServiceHost.start default []) ⟨"/p/b.ts"⟩ "./a").map
      Path.text = some "/p/a.ts" by decide +kernel)
  have hreads : ((ServiceHost.start default []).snapshot (.memory [(⟨"/p/a.ts"⟩,
      ⟨"import { x } from './b';\nconst y: number = x;\n", 0⟩), (⟨"/p/b.ts"⟩,
      ⟨"import { x } from './a';\n", 0⟩)] 0) ⟨"/p/b.ts"⟩).1 = some "import { x } from './a';\n" ∧
      ((ServiceHost.start default []).snapshot (.memory [(⟨"/p/a.ts"⟩,
      ⟨"import { x } from './b';\nconst y: number = x;\n", 0⟩), (⟨"/p/b.ts"⟩,
      ⟨"import { x } from './a';\n", 0⟩)] 0) ⟨"/p/a.ts"⟩).1 =
        some "import { x } from './b';\nconst y: number = x;\n" := by
    decide +kernel
  -- the two positions of the cycle, each leading to the other
  refine ⟨(chase_depth_bounds_declarations_not_imports _ _ "" "x" 0 _).1
      (fun n => by simp [importOf, show Text.lines "" = [] by decide +kernel]) 20 (by decide),
    (chase_depth_bounds_declarations_not_imports _ _ _ "x" 0 _).2 _
      (fun f t n => (f = ⟨"/p/a.ts"⟩ ∧ t = "import { x } from './b';\nconst y: number = x;\n" ∧ n = "x") ∨
        (f = ⟨"/p/b.ts"⟩ ∧ t = "import { x } from './a';\n" ∧ n = "x"))
      ?_ (SameView.refl _ _) (Or.inl ⟨rfl, rfl, rfl⟩) hlit hid (by decide)⟩
  rintro f t n (⟨rfl, rfl, rfl⟩ | ⟨rfl, rfl, rfl⟩)
  · exact ⟨_, _, _, ⟨hdeclA, ⟨_, himpA, hresAB⟩, hreads.1⟩, Or.inr ⟨rfl, rfl, rfl⟩⟩
  · exact ⟨_, _, _, ⟨hdeclB, ⟨_, himpB, hresBA⟩, hreads.2⟩, Or.inl ⟨rfl, rfl, rfl⟩⟩

end Standin
end Compiler
end TestTransform
