import TestTransform.Proofs.HostGrowth

/-
Texts and versions of a file table along any sequence of calls.

Two calls change a file table: setting the text of a path, and storing an output for it. The
record of a path after a sequence of them is read off the texts the sequence gives that path
(`textsOf`, where a path stands for every path equal to it). The path is tracked once it has
been given a text; its text is the last text given (`text?_run`), and its version is one more
than the number of times a text given differed from the one before it (`version?_run_empty`).
A call that gives the path no text, or the text it already holds, leaves its version and text
as they were; any other call raises the version by one (`version?_apply`). So the version never
falls, and two moments of one run at which a path has the same version see the same text.

Setting a text answers `added` exactly when the path was never given a text, and `changed`
exactly when it holds another text. An output is given back for a project version exactly when
the last store for the path was made at that version with that output while the path was
tracked, and every text given to the path since has been the one it held then
(`output?_run_empty_eq_some`).

The main statement, `versions_follow_texts`, gathers these facts for runs from the empty table.
-/

namespace TestTransform
namespace Compiler
namespace FileTable

/-! ## Calls and runs -/

/-- A call that changes a file table. -/
inductive Call where
  | update (p : Path) (text : String)
  | storeOutput (p : Path) (projectVersion : Nat) (o : Output)
deriving Repr

/-- The table after a call. -/
def Call.apply (t : FileTable) : Call → FileTable
  | .update p text => (t.update p text).2
  | .storeOutput p v o => t.storeOutput p v o

/-- The path a call is made on. -/
def Call.path : Call → Path
  | .update p _ => p
  | .storeOutput p _ _ => p

/-- The table after calls made one after another. -/
def run (t : FileTable) (cs : List Call) : FileTable := cs.foldl Call.apply t

/-- The text a call gives `p`, when it sets the text of a path equal to `p`. -/
def Call.textFor (p : Path) : Call → Option String
  | .update q text => if q == p then some text else none
  | .storeOutput _ _ _ => none

/-- The texts calls give `p`, in order. -/
def textsOf (p : Path) (cs : List Call) : List String := cs.filterMap (Call.textFor p)

/-- A call leaves alone the record of `p` while it holds `y`: it stores no output for `p`, and
gives `p` no text or `y` again. -/
def Call.Keeps (p : Path) (y : String) : Call → Prop
  | .update q x => (q == p) = true → x = y
  | .storeOutput q _ _ => (q == p) = false

/-- How many times a list of texts moves on to a different text. -/
def changes : List String → Nat
  | a :: b :: l => (if a = b then 0 else 1) + changes (b :: l)
  | _ => 0

@[simp] theorem run_nil (t : FileTable) : t.run [] = t := rfl

@[simp] theorem run_append_singleton (t : FileTable) (cs : List Call) (c : Call) :
    t.run (cs ++ [c]) = c.apply (t.run cs) := by
  simp [run]

theorem run_cons (t : FileTable) (c : Call) (cs : List Call) :
    t.run (c :: cs) = (c.apply t).run cs := rfl

theorem run_append (t : FileTable) (cs₁ cs₂ : List Call) :
    t.run (cs₁ ++ cs₂) = (t.run cs₁).run cs₂ :=
  List.foldl_append

@[simp] theorem path_update (p : Path) (x : String) : (Call.update p x).path = p := rfl

@[simp] theorem path_storeOutput (p : Path) (v : Nat) (o : Output) :
    (Call.storeOutput p v o).path = p := rfl

@[simp] theorem textsOf_nil (p : Path) : textsOf p [] = [] := rfl

@[simp] theorem textsOf_append_singleton (p : Path) (cs : List Call) (c : Call) :
    textsOf p (cs ++ [c]) = textsOf p cs ++ (c.textFor p).toList := by
  unfold textsOf
  rw [List.filterMap_append]
  cases h : c.textFor p <;> simp [h]

@[simp] theorem textFor_storeOutput (p q : Path) (v : Nat) (o : Output) :
    (Call.storeOutput q v o).textFor p = none := rfl

theorem textFor_update (p q : Path) (x : String) :
    (Call.update q x).textFor p = if q == p then some x else none := rfl

@[simp] theorem changes_singleton (a : String) : changes [a] = 0 := rfl

theorem changes_cons_cons (a b : String) (l : List String) :
    changes (a :: b :: l) = (if a = b then 0 else 1) + changes (b :: l) := rfl

/-- A text given after texts ending in `y` adds a change exactly when it differs from `y`. -/
theorem changes_append_singleton :
    ∀ (l : List String) {y : String} (x : String), l.getLast? = some y →
      changes (l ++ [x]) = changes l + if y = x then 0 else 1
  | [], _, _, h => by cases h
  | [a], y, x, h => by
    have hay : a = y := by simpa using h
    subst hay
    rw [List.singleton_append, changes_cons_cons, changes_singleton, changes_singleton]
    omega
  | a :: b :: l, y, x, h => by
    have hlast : (b :: l).getLast? = some y := by
      rw [← h, List.getLast?_cons_cons]
    have ih := changes_append_singleton (b :: l) x hlast
    rw [List.cons_append] at ih
    rw [List.cons_append, List.cons_append, changes_cons_cons, ih, changes_cons_cons]
    omega

/-! ## One call -/

/-- What setting a text does to the record of an equal path: it starts the record at version 1,
leaves the whole table as it was, or moves the record to the new text at the next version,
without output. -/
theorem update_cases (t : FileTable) {q p : Path} (hq : (q == p) = true) (x : String) :
    (t.get? p = none ∧ (t.update q x).1 = .added ∧
      (t.update q x).2.get? p = some ⟨x, 1, none⟩) ∨
    (∃ r, t.get? p = some r ∧ r.text = x ∧ t.update q x = (.unchanged, t)) ∨
    (∃ r, t.get? p = some r ∧ r.text ≠ x ∧ (t.update q x).1 = .changed ∧
      (t.update q x).2.get? p = some ⟨x, r.version + 1, none⟩) := by
  have hget : t.get? q = t.get? p := get?_congr t hq
  unfold update
  rw [hget]
  cases hp : t.get? p with
  | none =>
    -- the new record goes last, and no entry before it answers `p`
    refine Or.inl ⟨rfl, rfl, ?_⟩
    simp [get?_append, hp, hq]
  | some r =>
    by_cases hx : r.text = x
    · exact Or.inr (Or.inl ⟨r, rfl, hx, by simp [hx]⟩)
    · refine Or.inr (Or.inr ⟨r, rfl, hx, by simp [hx], ?_⟩)
      have hpq : (p == q) = true := by rw [Path.beq_comm]; exact hq
      simp [hx, get?_modify, hpq, hp]

/-- Storing an output leaves the text and the version of every path alone. -/
theorem text?_storeOutput (t : FileTable) (p q : Path) (v : Nat) (o : Output) :
    (t.storeOutput q v o).text? p = t.text? p := by
  unfold text?
  rw [get?_storeOutput]
  split
  · rw [Option.map_map]
    rfl
  · rfl

theorem version?_storeOutput (t : FileTable) (p q : Path) (v : Nat) (o : Output) :
    (t.storeOutput q v o).version? p = t.version? p := by
  unfold version?
  rw [get?_storeOutput]
  split
  · rw [Option.map_map]
    rfl
  · rfl

/-- A call on a path other than `p` leaves the record of `p` alone. -/
theorem get?_apply_of_ne {c : Call} {p : Path} (h : (c.path == p) = false) (t : FileTable) :
    (c.apply t).get? p = t.get? p := by
  have hpc : (p == c.path) = false := (Path.beq_comm p c.path).trans h
  cases c with
  | update q x => exact get?_update_of_ne t x hpc
  | storeOutput q v o => simp [Call.apply, get?_storeOutput, show (p == q) = false from hpc]

/-- Only an update of a path equal to `p` gives `p` a text. -/
theorem eq_update_of_textFor {c : Call} {p : Path} {x : String} (h : c.textFor p = some x) :
    ∃ q, (q == p) = true ∧ c = .update q x := by
  cases c with
  | update q x' =>
    by_cases hqp : (q == p) = true
    · simp only [textFor_update, hqp, if_true, Option.some.injEq] at h
      exact ⟨q, hqp, by rw [h]⟩
    · simp [textFor_update, hqp] at h
  | storeOutput => simp at h

/-- A call that gives `p` no text leaves its record alone, up to the stored output. -/
theorem text?_version?_apply_of_textFor_none {c : Call} {p : Path} (hc : c.textFor p = none)
    (t : FileTable) :
    (c.apply t).text? p = t.text? p ∧ (c.apply t).version? p = t.version? p := by
  cases c with
  | update q x =>
    have hqp : (q == p) = false := by
      by_contra hne
      simp [textFor_update, hne] at hc
    have hget := get?_apply_of_ne (c := .update q x) hqp t
    exact ⟨by simp [text?, hget], by simp [version?, hget]⟩
  | storeOutput q v o =>
    exact ⟨text?_storeOutput t p q v o, version?_storeOutput t p q v o⟩

/-- After a call, a path holds the text the call gave it, or else the text it held. -/
theorem text?_apply (t : FileTable) (c : Call) (p : Path) :
    (c.apply t).text? p = (c.textFor p).or (t.text? p) := by
  cases hc : c.textFor p with
  | none => simpa using (text?_version?_apply_of_textFor_none hc t).1
  | some x =>
    obtain ⟨q, hq, rfl⟩ := eq_update_of_textFor hc
    rcases update_cases t hq x with ⟨-, -, h⟩ | ⟨r, hr, hx, h⟩ | ⟨r, -, -, -, h⟩
    · simp [Call.apply, text?, h]
    · simp [Call.apply, text?, h, hr, hx]
    · simp [Call.apply, text?, h]

/-- A call moves the version of `p` on by one exactly when it gives `p` a text other than the
one it holds; a path not yet tracked counts as version 0. -/
theorem version?_apply (t : FileTable) (c : Call) (p : Path) :
    (c.apply t).version? p =
      if c.textFor p = none ∨ c.textFor p = t.text? p then t.version? p
      else some ((t.version? p).getD 0 + 1) := by
  cases hc : c.textFor p with
  | none => simpa using (text?_version?_apply_of_textFor_none hc t).2
  | some x =>
    obtain ⟨q, hq, rfl⟩ := eq_update_of_textFor hc
    rcases update_cases t hq x with ⟨hn, -, h⟩ | ⟨r, hr, hx, h⟩ | ⟨r, hr, hx, -, h⟩
    · simp [Call.apply, text?, version?, h, hn]
    · simp [Call.apply, text?, version?, h, hr, hx]
    · have hne : ¬some x = some r.text := fun e => hx (Option.some.inj e).symm
      simp [Call.apply, text?, version?, h, hr, hne]

/-- A call that keeps the record of `p` leaves it as it is, output included. -/
theorem get?_apply_of_keeps {t : FileTable} {p : Path} {r : FileRecord} (hr : t.get? p = some r)
    {c : Call} (hc : c.Keeps p r.text) : (c.apply t).get? p = some r := by
  cases c with
  | update q x =>
    by_cases hq : (q == p) = true
    · have hx : x = r.text := hc hq
      rcases update_cases t hq x with ⟨hn, -, -⟩ | ⟨-, -, -, h⟩ | ⟨r', hr', hne, -, -⟩
      · rw [hr] at hn
        cases hn
      · simp [Call.apply, h, hr]
      · rw [hr] at hr'
        cases hr'
        exact absurd hx.symm hne
    · exact (get?_apply_of_ne (c := .update q x) (by simpa using hq) t).trans hr
  | storeOutput q v o => exact (get?_apply_of_ne (c := .storeOutput q v o) hc t).trans hr

/-- A call that stores no output for `p` and still gives an output for it kept the record of `p`
as it was. -/
theorem keeps_of_output?_apply {t : FileTable} {c : Call} {p : Path}
    (hc : ∀ q v o, c = .storeOutput q v o → (q == p) = false) {v : Nat} {o : Output}
    (h : (c.apply t).output? p v = some o) :
    ∃ r, t.get? p = some r ∧ (c.apply t).get? p = some r ∧ c.Keeps p r.text := by
  obtain ⟨r', hr', hout⟩ := output?_eq_some.mp h
  cases c with
  | update q x =>
    by_cases hq : (q == p) = true
    · -- a new record or a new text comes without output
      rcases update_cases t hq x with ⟨-, -, hnew⟩ | ⟨r, hr, hx, hsame⟩ | ⟨r, -, -, -, hnew⟩
      · rw [Call.apply, hnew] at hr'
        cases hr'
        cases hout
      · refine ⟨r, hr, by simp [Call.apply, hsame, hr], fun _ => hx.symm⟩
      · rw [Call.apply, hnew] at hr'
        cases hr'
        cases hout
    · have hget := get?_apply_of_ne (c := .update q x) (by simpa using hq) t
      rw [hget] at hr'
      exact ⟨r', hr', hget.trans hr', fun h => absurd h hq⟩
  | storeOutput q v' o' =>
    have hqp : (q == p) = false := hc q v' o' rfl
    have hget := get?_apply_of_ne (c := .storeOutput q v' o') hqp t
    rw [hget] at hr'
    exact ⟨r', hr', hget.trans hr', hqp⟩

/-! ## Along a run -/

@[simp] theorem get?_empty (p : Path) : empty.get? p = none := rfl

@[simp] theorem text?_empty (p : Path) : empty.text? p = none := rfl

/-- After a run, a path holds the last text the run gave it, or else the text it held. -/
theorem text?_run (t : FileTable) (p : Path) (cs : List Call) :
    (t.run cs).text? p = (textsOf p cs).getLast?.or (t.text? p) := by
  induction cs using List.reverseRecOn with
  | nil => simp
  | append_singleton cs c ih =>
    rw [run_append_singleton, text?_apply, ih, textsOf_append_singleton]
    cases c.textFor p <;> simp

theorem text?_run_empty (p : Path) (cs : List Call) :
    (empty.run cs).text? p = (textsOf p cs).getLast? := by
  simpa using text?_run empty p cs

/-- From the empty table, a path that was given texts has version one more than the number of
times a text given differed from the one before; a path given none is not tracked. -/
theorem version?_run_empty (p : Path) (cs : List Call) :
    (empty.run cs).version? p =
      if textsOf p cs = [] then none else some (1 + changes (textsOf p cs)) := by
  induction cs using List.reverseRecOn with
  | nil => rfl
  | append_singleton cs c ih =>
    rw [run_append_singleton, version?_apply, ih, text?_run_empty, textsOf_append_singleton]
    cases c.textFor p with
    | none => simp
    | some x =>
      rw [Option.toList_some]
      -- split on the last text given before this one
      cases hl : (textsOf p cs).getLast? with
      | none =>
        have hnil : textsOf p cs = [] := List.getLast?_eq_none_iff.mp hl
        simp [hnil]
      | some y =>
        have hne : textsOf p cs ≠ [] := fun h => by simp [h] at hl
        rw [changes_append_singleton _ x hl]
        by_cases hyx : y = x
        · simp [hne, hyx]
        · have hxy : x ≠ y := Ne.symm hyx
          simp [hne, hyx, hxy]
          omega

/-- Along a run from any table, the version of a path either stays where it was, and the text
with it, or ends above where it started (a path not tracked counting as version 0). -/
theorem version?_run (t : FileTable) (p : Path) (cs : List Call) :
    ((t.run cs).version? p = t.version? p ∧ (t.run cs).text? p = t.text? p) ∨
      ∃ n, (t.run cs).version? p = some n ∧ (t.version? p).getD 0 < n := by
  induction cs using List.reverseRecOn with
  | nil => exact Or.inl ⟨rfl, rfl⟩
  | append_singleton cs c ih =>
    rw [run_append_singleton, version?_apply, text?_apply]
    by_cases hkeep : c.textFor p = none ∨ c.textFor p = (t.run cs).text? p
    · -- the call keeps the text, so the run before it decides
      have htext : (c.textFor p).or ((t.run cs).text? p) = (t.run cs).text? p := by
        rcases hkeep with h | h <;> simp [h]
      rw [if_pos hkeep, htext]
      exact ih
    · rw [if_neg hkeep]
      right
      rcases ih with ⟨hv, -⟩ | ⟨n, hn, hlt⟩
      · exact ⟨_, rfl, by rw [hv]; omega⟩
      · exact ⟨n + 1, by rw [hn]; rfl, by omega⟩

/-- A run that leaves a path at the version it started from leaves its text too. -/
theorem text?_run_of_version?_eq {t : FileTable} {p : Path} {cs : List Call} {v : Nat}
    (h₁ : t.version? p = some v) (h₂ : (t.run cs).version? p = some v) :
    (t.run cs).text? p = t.text? p := by
  rcases version?_run t p cs with ⟨-, htext⟩ | ⟨n, hn, hlt⟩
  · exact htext
  · rw [h₂] at hn
    cases hn
    rw [h₁] at hlt
    exact absurd hlt (Nat.lt_irrefl _)

/-- Two moments of one run at which a path has the same version see the same text. -/
theorem text?_take_of_version?_eq (t : FileTable) (p : Path) (cs : List Call) {i j v : Nat}
    (hi : (t.run (cs.take i)).version? p = some v) (hj : (t.run (cs.take j)).version? p = some v) :
    (t.run (cs.take i)).text? p = (t.run (cs.take j)).text? p := by
  -- the later moment runs on from the earlier one
  have hlater : ∀ {i j : Nat}, i ≤ j →
      t.run (cs.take j) = (t.run (cs.take i)).run ((cs.take j).drop i) := by
    intro i j hij
    rw [← run_append]
    congr 1
    nth_rewrite 1 [← List.take_append_drop i (cs.take j)]
    rw [List.take_take, Nat.min_eq_left hij]
  rcases le_total i j with hij | hji
  · rw [hlater hij] at hj ⊢
    exact (text?_run_of_version?_eq hi hj).symm
  · rw [hlater hji] at hi ⊢
    exact text?_run_of_version?_eq hj hi

/-- Setting a text answers `added` exactly when the path holds none, and `changed` exactly when
it holds another text. -/
theorem update_answer (t : FileTable) (p : Path) (x : String) :
    ((t.update p x).1 = .added ↔ t.text? p = none) ∧
      ((t.update p x).1 = .changed ↔ ∃ y, t.text? p = some y ∧ y ≠ x) := by
  rcases update_cases t (Path.beq_self p) x with ⟨hn, h, -⟩ | ⟨r, hr, hx, h⟩ | ⟨r, hr, hx, h, -⟩
  · simp [text?, hn, h]
  · simp [text?, hr, hx, h]
  · simp [text?, hr, hx, h]

/-! ## Stored outputs -/

/-- Calls that keep the record of `p` leave it as it is. -/
theorem get?_run_of_keeps {t : FileTable} {p : Path} {r : FileRecord} (hr : t.get? p = some r) :
    ∀ {cs : List Call}, (∀ c ∈ cs, c.Keeps p r.text) → (t.run cs).get? p = some r := by
  intro cs
  induction cs using List.reverseRecOn with
  | nil => exact fun _ => hr
  | append_singleton cs c ih =>
    intro hkeeps
    rw [run_append_singleton]
    exact get?_apply_of_keeps (ih fun c' hc' => hkeeps c' (List.mem_append_left _ hc'))
      (hkeeps c (List.mem_append_right _ (List.mem_singleton_self c)))

/-- An output stored for a tracked path stays on its record through calls that keep it. -/
theorem get?_run_storeOutput {t : FileTable} {p q : Path} (hq : (q == p) = true) {r : FileRecord}
    (hr : t.get? p = some r) (v : Nat) (o : Output) {cs : List Call}
    (hkeeps : ∀ c ∈ cs, c.Keeps p r.text) :
    (t.run (Call.storeOutput q v o :: cs)).get? p = some { r with output := some (v, o) } := by
  have hpq : (p == q) = true := by rw [Path.beq_comm]; exact hq
  have hstored : (t.storeOutput q v o).get? p = some { r with output := some (v, o) } := by
    simp [get?_storeOutput, hpq, hr]
  exact get?_run_of_keeps hstored hkeeps

/-- From the empty table, an output given back comes from a store for the path, made while the
path was tracked, that every later call kept. -/
theorem exists_store_of_output?_run_empty (p : Path) (v : Nat) (o : Output) (cs : List Call)
    (h : (empty.run cs).output? p v = some o) :
    ∃ cs₁ q cs₂ y, cs = cs₁ ++ Call.storeOutput q v o :: cs₂ ∧ (q == p) = true ∧
      (empty.run cs₁).text? p = some y ∧ ∀ c ∈ cs₂, c.Keeps p y := by
  induction cs using List.reverseRecOn with
  | nil => simp [output?] at h
  | append_singleton cs c ih =>
    rw [run_append_singleton] at h
    by_cases hstore : ∃ q v' o', c = .storeOutput q v' o' ∧ (q == p) = true
    · -- the last call is a store for `p`, and the one given back
      obtain ⟨q, v', o', rfl, hq⟩ := hstore
      have hpq : (p == q) = true := by rw [Path.beq_comm]; exact hq
      obtain ⟨r', hr', hout⟩ := output?_eq_some.mp h
      simp only [Call.apply, get?_storeOutput, hpq, if_true, Option.map_eq_some_iff] at hr'
      obtain ⟨r, hr, rfl⟩ := hr'
      simp only [Option.some.injEq, Prod.mk.injEq] at hout
      obtain ⟨rfl, rfl⟩ := hout
      exact ⟨cs, q, [], r.text, rfl, hq, by simp [text?, hr], by simp⟩
    · -- the last call kept the record, so the store sought came before it
      have hc : ∀ q v' o', c = .storeOutput q v' o' → (q == p) = false := by
        intro q v' o' hc
        cases hqp : (q == p)
        · rfl
        · exact absurd ⟨q, v', o', hc, hqp⟩ hstore
      obtain ⟨r, hr, hr', hkeep⟩ := keeps_of_output?_apply hc h
      have hprev : (empty.run cs).output? p v = some o := by
        simpa [output?, hr, hr'] using h
      obtain ⟨cs₁, q, cs₂, y, rfl, hq, hy, hkeeps⟩ := ih hprev
      -- the record after the store still holds `y`
      obtain ⟨r₁, hr₁, rfl⟩ : ∃ r₁, (empty.run cs₁).get? p = some r₁ ∧ r₁.text = y := by
        simpa [text?] using hy
      have hnow := get?_run_storeOutput hq hr₁ v o hkeeps
      rw [← run_append, hr] at hnow
      cases hnow
      refine ⟨cs₁, q, cs₂ ++ [c], r₁.text, by simp, hq, hy, ?_⟩
      intro c' hc'
      rcases List.mem_append.mp hc' with hc' | hc'
      · exact hkeeps c' hc'
      · rw [List.mem_singleton.mp hc']
        exact hkeep

/-- From the empty table, an output is given back exactly when the last store for the path was
made with that project version and that output while the path was tracked, and every call since
kept the path's record: none stored for it, and each text given to it was the one it held. -/
theorem output?_run_empty_eq_some (p : Path) (v : Nat) (o : Output) (cs : List Call) :
    (empty.run cs).output? p v = some o ↔
      ∃ cs₁ q cs₂ y, cs = cs₁ ++ Call.storeOutput q v o :: cs₂ ∧ (q == p) = true ∧
        (empty.run cs₁).text? p = some y ∧ ∀ c ∈ cs₂, c.Keeps p y := by
  constructor
  · exact exists_store_of_output?_run_empty p v o cs
  · rintro ⟨cs₁, q, cs₂, y, rfl, hq, hy, hkeeps⟩
    obtain ⟨r, hr, rfl⟩ : ∃ r, (empty.run cs₁).get? p = some r ∧ r.text = y := by
      simpa [text?] using hy
    have hnow := get?_run_storeOutput hq hr v o hkeeps
    rw [← run_append] at hnow
    exact output?_eq_some.mpr ⟨_, hnow, rfl⟩

/-! ## The versions of a file table -/

/-- Along any sequence of calls from the empty table, for every path: the path holds the last
text given to it; its version is one more than the number of times a text given differed from
the one before, and there is none while no text was given; on any table, a call that gives the
path no text or the text it holds leaves its version; two moments of the run at which the path
has the same version see the same text; setting its text answers `added` exactly when it was
never given one, and `changed` exactly when it holds another; and an output is given back for it
exactly when the last store for it was made with that project version and output while it was
tracked, and every call since kept its record. -/
theorem versions_follow_texts (cs : List Call) (p : Path) :
    (empty.run cs).text? p = (textsOf p cs).getLast? ∧
    (empty.run cs).version? p =
      (if textsOf p cs = [] then none else some (1 + changes (textsOf p cs))) ∧
    (∀ (t : FileTable) (c : Call), c.textFor p = none ∨ c.textFor p = t.text? p →
      (c.apply t).version? p = t.version? p) ∧
    (∀ i j v, (empty.run (cs.take i)).version? p = some v →
      (empty.run (cs.take j)).version? p = some v →
      (empty.run (cs.take i)).text? p = (empty.run (cs.take j)).text? p) ∧
    (∀ x, ((empty.run cs).update p x).1 = .added ↔ textsOf p cs = []) ∧
    (∀ x, ((empty.run cs).update p x).1 = .changed ↔
      ∃ y, (empty.run cs).text? p = some y ∧ y ≠ x) ∧
    (∀ v o, (empty.run cs).output? p v = some o ↔
      ∃ cs₁ q cs₂ y, cs = cs₁ ++ Call.storeOutput q v o :: cs₂ ∧ (q == p) = true ∧
        (empty.run cs₁).text? p = some y ∧ ∀ c ∈ cs₂, c.Keeps p y) := by
  refine ⟨text?_run_empty p cs, version?_run_empty p cs, fun t c hc => ?_,
    fun i j v hi hj => text?_take_of_version?_eq empty p cs hi hj, fun x => ?_,
    fun x => (update_answer _ p x).2, fun v o => output?_run_empty_eq_some p v o cs⟩
  · rw [version?_apply, if_pos hc]
  · rw [(update_answer _ p x).1, text?_run_empty, List.getLast?_eq_none_iff]

/-- Setting a text twice, then another: the output stored in between lasts until the text
changes. -/
example :
    let p : Path := ⟨"/p/a.ts"⟩
    let cs := [.update p "a", .storeOutput p 3 ⟨"js", none⟩, .update p "a", .update p "b"]
    (empty.run cs).version? p = some 2 ∧ (empty.run (cs.take 3)).output? p 3 = some ⟨"js", none⟩ ∧
      (empty.run cs).output? p 3 = none := by
  decide

end FileTable

end Compiler
end TestTransform
