/-
Which diagnostics are reported, from the setting to the fault.

A policy keeps its ignored codes ascending and without repeats, whatever the setting: that is
what lets `searchSorted` find a code by halving. `searchSorted_iff_mem` says halving finds
exactly the members of an ascending list, with the window invariant "the window holds `x` when
the list does". The policy made from a setting ignores the three codes ignored always, the
codes of the environment and those the user lists (`ofSetting_ignoreCodes`). `raiseDiagnostics_cases`
then says what raising the diagnostics of a file does: nothing for a file not reported, a fault
that names, in order, the codes of the errors and warnings kept when the policy throws and any are
kept, and otherwise every kept diagnostic reported as a warning. `raiseDiagnostics_policy` puts
these together.
-/
import TestTransform.Config.Settings
import TestTransform.Proofs.HostVersions

namespace TestTransform
namespace Config

/-! ## Finding a code by halving -/

section Search

variable {xs : List Nat} {x : Nat}

/-- An ascending list read by index with a default: an element at a later index is no smaller. -/
theorem getD_le_getD (hs : xs.Pairwise (· ≤ ·)) {i j : Nat} (hij : i ≤ j) (hj : j < xs.length) :
    xs.getD i 0 ≤ xs.getD j 0 := by
  rcases Nat.lt_or_eq_of_le hij with hlt | rfl
  · rw [List.getD_eq_getElem _ _ (by omega), List.getD_eq_getElem _ _ hj]
    exact List.pairwise_iff_getElem.mp hs i j (by omega) hj hlt
  · exact Nat.le_refl _

/-- The window of `size` elements from `base` holds `x` exactly when halving it finds `x`. -/
theorem searchSorted_go_iff (hs : xs.Pairwise (· ≤ ·)) :
    ∀ size base, 0 < size → base + size ≤ xs.length →
      (searchSorted.go xs x size base = true ↔
        ∃ j, base ≤ j ∧ j < base + size ∧ xs.getD j 0 = x) := by
  intro size base
  fun_induction searchSorted.go xs x size base with
  | case1 size base hsize =>
    -- one element is left
    intro hpos _
    have hone : size = 1 := by omega
    subst hone
    constructor
    · intro h
      exact ⟨base, Nat.le_refl _, by omega, by simpa using h⟩
    · rintro ⟨j, hlo, hhi, hj⟩
      obtain rfl : j = base := by omega
      simpa using hj
  | case2 size base hsize mid ih =>
    intro _ hlen
    have hhalf : 0 < size / 2 := by omega
    simp only [dite_eq_ite] at ih
    rw [ih (by omega) (by split <;> omega)]
    split
    · -- the middle element is above `x`: so is everything from it on
      rename_i hmid
      constructor
      · rintro ⟨j, hlo, hhi, hj⟩
        exact ⟨j, hlo, by omega, hj⟩
      · rintro ⟨j, hlo, hhi, hj⟩
        refine ⟨j, hlo, ?_, hj⟩
        by_contra hge
        have := getD_le_getD hs (i := mid) (j := j) (by omega) (by omega)
        omega
    · -- the middle element is at most `x`: an `x` before it would make it `x`
      rename_i hmid
      constructor
      · rintro ⟨j, hlo, hhi, hj⟩
        exact ⟨j, by omega, by omega, hj⟩
      · rintro ⟨j, hlo, hhi, hj⟩
        by_cases hjm : mid ≤ j
        · exact ⟨j, hjm, by omega, hj⟩
        · have := getD_le_getD hs (i := j) (j := mid) (by omega) (by omega)
          exact ⟨mid, Nat.le_refl _, by omega, by omega⟩

/-- Halving finds exactly the members of an ascending list. -/
theorem searchSorted_iff_mem (hs : xs.Pairwise (· ≤ ·)) : searchSorted xs x = true ↔ x ∈ xs := by
  cases xs with
  | nil => simp [searchSorted]
  | cons a t =>
    have hgo := @searchSorted_go_iff (a :: t) x hs (a :: t).length 0 (by simp) (by simp)
    show ((a :: t).length != 0 && searchSorted.go (a :: t) x (a :: t).length 0) = true ↔ _
    rw [show ((a :: t).length != 0) = true by simp, Bool.true_and, hgo, List.mem_iff_getElem]
    constructor
    · rintro ⟨j, -, hj, hx⟩
      exact ⟨j, by omega, by rw [← hx, List.getD_eq_getElem _ _ (by omega)]⟩
    · rintro ⟨j, hj, hx⟩
      exact ⟨j, Nat.zero_le _, by omega, by rw [List.getD_eq_getElem _ _ hj, hx]⟩

end Search

/-! ## Ignored codes -/

theorem nodup_eraseDups {α : Type} [BEq α] [LawfulBEq α] : ∀ l : List α, l.eraseDups.Nodup
  | [] => List.nodup_nil
  | a :: as => by
    rw [List.eraseDups_cons]
    refine List.nodup_cons.mpr ⟨fun ha => ?_, nodup_eraseDups _⟩
    -- what follows `a` is filtered free of it
    have := (List.mem_filter.mp (List.mem_eraseDups.mp ha)).2
    simp at this
termination_by l => l.length
decreasing_by exact Nat.lt_succ_of_le (List.length_filter_le _ _)

theorem sortedCodes_ascending (cs : List Nat) : (sortedCodes cs).Pairwise (· < ·) := by
  have hsorted : (sortBy (· ≤ ·) cs).Pairwise (· ≤ ·) := by
    simpa using @pairwise_sortBy Nat (fun a b => decide (a ≤ b))
      (fun _ _ _ hab hbc => by simp only [decide_eq_true_eq] at *; omega)
      (fun a b => by simp only [Bool.or_eq_true, decide_eq_true_eq]; omega) cs
  refine ((hsorted.sublist (Compiler.eraseDups_sublist _)).and (nodup_eraseDups _)).imp ?_
  intro a b ⟨hle, hne⟩
  omega

theorem mem_sortedCodes {cs : List Nat} {n : Nat} : n ∈ sortedCodes cs ↔ n ∈ cs := by
  rw [sortedCodes, List.mem_eraseDups, mem_sortBy]

/-! ## The policy a setting makes -/

namespace Policy

theorem ofSetting_none (envCodes : List Nat) :
    ofSetting none envCodes = .ok ⟨true, true, true, sortedCodes (alwaysIgnored ++ envCodes), none⟩ :=
  rfl

theorem ofSetting_toggle (b : Bool) (envCodes : List Nat) :
    ofSetting (some (.toggle b)) envCodes =
      .ok ⟨b, true, b, sortedCodes (alwaysIgnored ++ envCodes), none⟩ := by
  cases b <;> rfl

/-- A record setting leaves diagnostics on, throws unless they only warn, and adds the codes the
user lists to those always ignored. -/
theorem ofSetting_options {o : DiagnosticsOptions} {envCodes : List Nat} {p : Policy}
    (h : ofSetting (some (.options o)) envCodes = .ok p) :
    ∃ extra, (∀ l, o.ignoreCodes = some l → l.codes = .ok extra) ∧
      (o.ignoreCodes = none → extra = []) ∧
      p.enabled = true ∧ p.throws = !o.warnOnly ∧
      p.ignoreCodes = sortedCodes (alwaysIgnored ++ envCodes ++ extra) := by
  unfold ofSetting at h
  dsimp only at h
  -- the codes the user lists, then the pattern, then the policy, which is built alike for both
  split at h
  all_goals
    obtain ⟨extra, hextra, hbuilt⟩ := except_bind_eq_ok.mp h
    have hpolicy : p.enabled = true ∧ p.throws = !o.warnOnly ∧
        p.ignoreCodes = sortedCodes (alwaysIgnored ++ envCodes ++ extra) := by
      split at hbuilt
      · split at hbuilt
        · cases hbuilt
          exact ⟨rfl, rfl, rfl⟩
        · cases hbuilt
      · cases hbuilt
        exact ⟨rfl, rfl, rfl⟩
  · rename_i l hcodes
    refine ⟨extra, fun l' hl' => ?_, fun hnone => ?_, hpolicy⟩
    · rw [hcodes] at hl'
      cases hl'
      exact hextra
    · rw [hcodes] at hnone
      cases hnone
  · rename_i hcodes
    cases hextra
    refine ⟨[], fun l' hl' => ?_, fun _ => rfl, hpolicy⟩
    rw [hcodes] at hl'
    cases hl'

/-- The codes a policy ignores are ascending without repeats, and are the codes always ignored,
those of the environment and those the user lists. -/
theorem ofSetting_ignoreCodes {setting : Option DiagnosticsSetting} {envCodes : List Nat}
    {p : Policy} (h : ofSetting setting envCodes = .ok p) :
    p.ignoreCodes.Pairwise (· < ·) ∧
    ∀ n, n ∈ p.ignoreCodes ↔ n ∈ alwaysIgnored ∨ n ∈ envCodes ∨
      ∃ o l extra, setting = some (.options o) ∧ o.ignoreCodes = some l ∧
        l.codes = .ok extra ∧ n ∈ extra := by
  rcases setting with _ | ⟨b⟩ | ⟨o⟩
  · rw [ofSetting_none] at h
    cases h
    exact ⟨sortedCodes_ascending _, fun n => by simp [mem_sortedCodes]⟩
  · rw [ofSetting_toggle] at h
    cases h
    exact ⟨sortedCodes_ascending _, fun n => by simp [mem_sortedCodes]⟩
  · obtain ⟨extra, hlisted, hnone, -, -, hcodes⟩ := ofSetting_options h
    rw [hcodes]
    refine ⟨sortedCodes_ascending _, fun n => ?_⟩
    rw [mem_sortedCodes, List.mem_append, List.mem_append, or_assoc]
    refine or_congr_right (or_congr_right ⟨fun hn => ?_, ?_⟩)
    · -- a code beyond those always ignored and the environment's is one the user lists
      cases hl : o.ignoreCodes with
      | none =>
        rw [hnone hl] at hn
        cases hn
      | some l => exact ⟨o, l, extra, rfl, hl, hlisted l hl, hn⟩
    · rintro ⟨o', l, extra', heq, hl, hl', hn⟩
      cases heq
      rw [hlisted l hl] at hl'
      cases hl'
      exact hn

/-- Diagnostics are off only when switched off, and a policy throws unless they are off or only
warn. -/
theorem ofSetting_switches {setting : Option DiagnosticsSetting} {envCodes : List Nat}
    {p : Policy} (h : ofSetting setting envCodes = .ok p) :
    (p.enabled = false ↔ setting = some (.toggle false)) ∧
    (p.throws = true ↔ setting ≠ some (.toggle false) ∧
      ∀ o, setting = some (.options o) → o.warnOnly = false) := by
  rcases setting with _ | ⟨b⟩ | ⟨o⟩
  · rw [ofSetting_none] at h
    cases h
    simp
  · rw [ofSetting_toggle] at h
    cases h
    cases b <;> simp
  · obtain ⟨-, -, -, henabled, hthrows, -⟩ := ofSetting_options h
    simp [henabled, hthrows]

/-- The diagnostics a policy keeps: those whose code it does not ignore and whose file, if any,
it reports. -/
def kept (p : Policy) (ds : List Diagnostic) : List Diagnostic :=
  ds.filter (fun d => decide (d.code ∉ p.ignoreCodes ∧ ∀ f ∈ d.file, p.shouldReport f = true))

/-- With its codes ascending, a policy's filter keeps what it should: the code looked up by
halving is the code in the list. -/
theorem filter_eq_kept {p : Policy} (hs : p.ignoreCodes.Pairwise (· ≤ ·)) (ds : List Diagnostic) :
    p.filter ds = p.kept ds := by
  unfold filter kept
  refine List.filter_congr fun d _ => ?_
  have hsearch := searchSorted_iff_mem (x := d.code) hs
  cases hf : d.file <;> cases hm : searchSorted p.ignoreCodes d.code <;> simp_all

end Policy

namespace Settings

/-- Raising the diagnostics of a file: nothing for a file not reported; a fault naming the codes
of the errors and warnings kept, in order, when the policy throws and one is kept; and otherwise
every diagnostic kept, reported as a warning. -/
theorem raiseDiagnostics_cases (S : Settings) (store : FileStore) (ds : List Diagnostic)
    (file : Path) (hs : S.policy.ignoreCodes.Pairwise (· ≤ ·)) :
    (S.policy.shouldReport file = false → S.raiseDiagnostics store ds file = .ok []) ∧
    (S.policy.shouldReport file = true → S.policy.throws = true →
      (∃ d ∈ S.policy.kept ds, d.isImportant = true) →
      ∃ text, S.raiseDiagnostics store ds file =
        .error (text, ((S.policy.kept ds).filter Diagnostic.isImportant).map Diagnostic.code)) ∧
    (S.policy.shouldReport file = true →
      (S.policy.throws = false ∨ ∀ d ∈ S.policy.kept ds, d.isImportant = false) →
      S.raiseDiagnostics store ds file =
        .ok ((S.policy.kept ds).map fun d => { d with category := .warning })) := by
  unfold raiseDiagnostics shouldReport
  rw [Policy.filter_eq_kept hs]
  refine ⟨fun hr => by simp [hr], fun hr ht himp =>
    ⟨S.diagnosticsText store ((S.policy.kept ds).filter Diagnostic.isImportant), ?_⟩,
    fun hr hquiet => ?_⟩
  · -- an important diagnostic is kept, so the list of them is not empty
    have hne : ((S.policy.kept ds).filter Diagnostic.isImportant).isEmpty = false := by
      obtain ⟨d, hd, himp⟩ := himp
      exact List.isEmpty_eq_false_iff.mpr (List.ne_nil_of_mem (List.mem_filter.mpr ⟨hd, himp⟩))
    simp [hr, ht, hne]
  · have hquiet' : (S.policy.throws && !((S.policy.kept ds).filter
        Diagnostic.isImportant).isEmpty) = false := by
      rcases hquiet with ht | hall
      · simp [ht]
      · have : (S.policy.kept ds).filter Diagnostic.isImportant = [] :=
          List.filter_eq_nil_iff.mpr fun d hd => by simp [hall d hd]
        simp [this]
    simp [hr, hquiet']

end Settings

/-- The diagnostics policy from the setting to the fault. The codes a policy ignores are
ascending without repeats: the three ignored always, the environment's and the user's. Halving
finds exactly those codes. Diagnostics are off only when switched off, and the policy throws
unless they are off or only warn. Raising the diagnostics of a file then reports nothing for a
file not reported; fails, naming in order the codes of the errors and warnings kept, when the
policy throws and one is kept; and otherwise reports every diagnostic kept as a warning. -/
theorem raiseDiagnostics_policy (setting : Option DiagnosticsSetting) (envCodes : List Nat)
    (p : Policy) (hp : Policy.ofSetting setting envCodes = .ok p) :
    p.ignoreCodes.Pairwise (· < ·) ∧
    (∀ n, n ∈ p.ignoreCodes ↔ n ∈ alwaysIgnored ∨ n ∈ envCodes ∨
      ∃ o l extra, setting = some (.options o) ∧ o.ignoreCodes = some l ∧
        l.codes = .ok extra ∧ n ∈ extra) ∧
    (∀ n, searchSorted p.ignoreCodes n = true ↔ n ∈ p.ignoreCodes) ∧
    (p.enabled = false ↔ setting = some (.toggle false)) ∧
    (p.throws = true ↔ setting ≠ some (.toggle false) ∧
      ∀ o, setting = some (.options o) → o.warnOnly = false) ∧
    ∀ (S : Settings) (store : FileStore) (ds : List Diagnostic) (file : Path), S.policy = p →
      (p.shouldReport file = false → S.raiseDiagnostics store ds file = .ok []) ∧
      (p.shouldReport file = true → p.throws = true → (∃ d ∈ p.kept ds, d.isImportant = true) →
        ∃ text, S.raiseDiagnostics store ds file =
          .error (text, ((p.kept ds).filter Diagnostic.isImportant).map Diagnostic.code)) ∧
      (p.shouldReport file = true →
        (p.throws = false ∨ ∀ d ∈ p.kept ds, d.isImportant = false) →
        S.raiseDiagnostics store ds file =
          .ok ((p.kept ds).map fun d => { d with category := .warning })) := by
  obtain ⟨hascending, hmem⟩ := Policy.ofSetting_ignoreCodes hp
  have hsorted : p.ignoreCodes.Pairwise (· ≤ ·) := hascending.imp Nat.le_of_lt
  obtain ⟨henabled, hthrows⟩ := Policy.ofSetting_switches hp
  refine ⟨hascending, hmem, fun n => searchSorted_iff_mem hsorted, henabled, hthrows, ?_⟩
  rintro S store ds file rfl
  exact S.raiseDiagnostics_cases store ds file hsorted

/-- A record setting that ignores two codes, with one more from the environment. -/
theorem raiseDiagnostics_policy_listed :
    ∃ p, Policy.ofSetting
        (some (.options ⟨none, some (.many [.number 2322, .number 7006]), none, false⟩)) [2304] =
          .ok p ∧
      p.ignoreCodes.Pairwise (· < ·) ∧
      (∀ n, n ∈ p.ignoreCodes ↔ n ∈ alwaysIgnored ∨ n ∈ [2304] ∨
        ∃ o l extra,
          some (DiagnosticsSetting.options
            ⟨none, some (.many [.number 2322, .number 7006]), none, false⟩) = some (.options o) ∧
          o.ignoreCodes = some l ∧ l.codes = .ok extra ∧ n ∈ extra) ∧
      (∀ n, searchSorted p.ignoreCodes n = true ↔ n ∈ p.ignoreCodes) ∧
      (p.enabled = false ↔
        some (DiagnosticsSetting.options
          ⟨none, some (.many [.number 2322, .number 7006]), none, false⟩) = some (.toggle false)) ∧
      (p.throws = true ↔
        some (DiagnosticsSetting.options
          ⟨none, some (.many [.number 2322, .number 7006]), none, false⟩) ≠ some (.toggle false) ∧
        ∀ o, some (DiagnosticsSetting.options
          ⟨none, some (.many [.number 2322, .number 7006]), none, false⟩) = some (.options o) →
            o.warnOnly = false) ∧
      ∀ (S : Settings) (store : FileStore) (ds : List Diagnostic) (file : Path), S.policy = p →
        (p.shouldReport file = false → S.raiseDiagnostics store ds file = .ok []) ∧
        (p.shouldReport file = true → p.throws = true → (∃ d ∈ p.kept ds, d.isImportant = true) →
          ∃ text, S.raiseDiagnostics store ds file =
            .error (text, ((p.kept ds).filter Diagnostic.isImportant).map Diagnostic.code)) ∧
        (p.shouldReport file = true →
          (p.throws = false ∨ ∀ d ∈ p.kept ds, d.isImportant = false) →
          S.raiseDiagnostics store ds file =
            .ok ((p.kept ds).map fun d => { d with category := .warning })) :=
  ⟨_, rfl, raiseDiagnostics_policy _ _ _ rfl⟩

end Config
end TestTransform
