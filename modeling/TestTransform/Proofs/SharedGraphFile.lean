import TestTransform.Api.Graph
import TestTransform.Proofs.GraphFile
import TestTransform.Proofs.ImportClosure
import TestTransform.Proofs.PassedOptions

/-
Graph caches sharing one file.

Several instances, each opened on one store and one cache directory, keep their own graph in
memory and persist it to the same file: a record that changes an entry overwrites the whole file
with the instance's graph, and a clear removes the file. Nothing coordinates them, so the file is
the graph of the last instance that wrote it, and an instance's own graph is what it loaded when
it was opened, changed by its own records and clears only.

An operation's effect on the file is said once, by `GraphDesk.apply_file`, for a store where
writing and removing the file take effect (`FileStore.Writable`); `GraphDesk.run_file` carries it
along a run. The main statement, `graph_file_last_writer_wins`, puts the file, each instance's
graph and each record's write together for every run from a fresh desk.
-/

namespace TestTransform

/-! ## Stores where the file can be written -/

namespace FileStore

/-- Writing the file takes effect, and so does removing it while it is there. -/
structure Writable (s : FileStore) (f : Path) : Prop where
  write : ∀ t, ∃ s', s.write f t = .ok s' ∧ s'.read f = .ok t
  remove : s.hasFile f = true → ∃ s', s.remove f = .ok s' ∧ s'.hasFile f = false

theorem lookup_put_self {α : Type} (es : List (Path × α)) (p : Path) (a : α) :
    lookup (put es p a) p = some a := by
  unfold put
  split
  · next hsome =>
    obtain ⟨e, he⟩ := Option.isSome_iff_exists.mp hsome
    obtain ⟨x, hx, -⟩ := Option.map_eq_some_iff.mp he
    have hxp : (x.1 == p) = true := by simpa using List.find?_some hx
    -- the replacement keeps every path, so the first entry of `p` is the same one, replaced
    have hfind : (es.map (fun e => if e.1 == p then (e.1, a) else e)).find? (fun e => e.1 == p) =
        some (x.1, a) := by
      rw [List.find?_map]
      have hcomp : ((fun e : Path × α => e.1 == p) ∘ fun e => if e.1 == p then (e.1, a) else e) =
          fun e => e.1 == p := by
        funext e
        by_cases h : (e.1 == p) = true <;> simp [h]
      rw [hcomp, hx]
      simp [hxp]
    simp [lookup, hfind]
  · next hnone =>
    have hfind : es.find? (fun e => e.1 == p) = none := by
      simpa [lookup] using hnone
    simp [lookup, List.find?_append, hfind, Path.beq_self]

theorem lookup_without_self {α : Type} (es : List (Path × α)) (p : Path) :
    lookup (without es p) p = none := by
  simp [lookup, without, List.find?_filter]

theorem write_memory (files : List (Path × StoredFile)) (clock : Nat) (f : Path) (t : String) :
    (FileStore.memory files clock).write f t =
      .ok (.memory (put files f.normalize ⟨t, clock + 1⟩) (clock + 1)) := rfl

theorem hasFile_memory (files : List (Path × StoredFile)) (clock : Nat) (f : Path) :
    (FileStore.memory files clock).hasFile f = (lookup files f.normalize).isSome := rfl

theorem read_memory {files : List (Path × StoredFile)} {clock : Nat} {f : Path} {v : StoredFile}
    (h : lookup files f.normalize = some v) : (FileStore.memory files clock).read f = .ok v.content := by
  unfold read
  dsimp only
  rw [h]

theorem remove_memory {files : List (Path × StoredFile)} {clock : Nat} {f : Path}
    (h : (FileStore.memory files clock).hasFile f = true) :
    (FileStore.memory files clock).remove f = .ok (.memory (without files f.normalize) clock) := by
  rw [hasFile_memory] at h
  unfold remove
  dsimp only
  rw [if_pos h]

/-- A store in memory always takes a write of the file and its removal. -/
theorem writable_memory (files : List (Path × StoredFile)) (clock : Nat) (f : Path) :
    (FileStore.memory files clock).Writable f where
  write t := ⟨_, write_memory files clock f t, read_memory (lookup_put_self _ _ _)⟩
  remove h := ⟨_, remove_memory h, by rw [hasFile_memory, lookup_without_self]; rfl⟩

theorem writable_of_isDisk {s : FileStore} (h : s.isDisk = false) (f : Path) : s.Writable f := by
  cases s with
  | memory files clock => exact writable_memory files clock f
  | disk files dirs => cases h

theorem isDisk_write {s s' : FileStore} {f : Path} {t : String} (h : s.isDisk = false)
    (hw : s.write f t = .ok s') : s'.isDisk = false := by
  cases s with
  | memory files clock =>
    rw [write_memory] at hw
    cases hw
    rfl
  | disk files dirs => cases h

theorem isDisk_remove {s s' : FileStore} {f : Path} (h : s.isDisk = false)
    (hr : s.remove f = .ok s') : s'.isDisk = false := by
  cases s with
  | memory files clock =>
    unfold remove at hr
    dsimp only at hr
    split at hr
    · cases hr
      rfl
    · cases hr
  | disk files dirs => cases h

end FileStore

namespace Cache

theorem Graph.empty_sorted : Graph.empty.Sorted := List.Pairwise.nil

/-- Folding steps that each keep a graph in path order keeps it. -/
theorem Graph.foldl_sorted {α : Type} {step : Graph → α → Graph}
    (hstep : ∀ g a, g.Sorted → (step g a).Sorted) :
    ∀ (as : List α) (g : Graph), g.Sorted → (as.foldl step g).Sorted
  | [], _, hg => hg
  | a :: as, g, hg => Graph.foldl_sorted hstep as (step g a) (hstep g a hg)

/-- A graph read from a file has its entries in path order, as it is built by inserting them. -/
theorem Graph.ofJson_sorted {t : String} {g : Graph} (h : Graph.ofJson t = .ok g) : g.Sorted := by
  unfold Graph.ofJson at h
  split at h
  · cases h
  · cases h
    refine Graph.foldl_sorted (fun g a hg => ?_) _ _ Graph.empty_sorted
    obtain ⟨k, e⟩ := a
    exact Graph.insert_sorted hg _ _

namespace GraphCache

theorem ofDirectory_filePath (store : FileStore) (cacheDir : Option Path) :
    (ofDirectory store cacheDir).filePath = cacheDir.map (· / Hash.graphFileName) := by
  unfold ofDirectory openChecked loadChecked
  split
  · rfl
  · split
    · rfl
    · split <;> rfl

/-- A cache opens with a graph in path order: the one its file holds, or none. -/
theorem ofDirectory_sorted (store : FileStore) (cacheDir : Option Path) :
    (ofDirectory store cacheDir).graph.Sorted := by
  unfold ofDirectory openChecked loadChecked
  split
  · exact Graph.empty_sorted
  · split
    · exact Graph.empty_sorted
    · split
      · next g hg =>
        obtain ⟨t, -, ht⟩ := except_bind_eq_ok.mp hg
        exact Graph.ofJson_sorted ht
      · exact Graph.empty_sorted

/-- A cache opened where the file holds a graph takes that graph. -/
theorem ofDirectory_of_read {store : FileStore} {dir : Path} {t : String} {g : Graph}
    (hread : store.read (dir / Hash.graphFileName) = .ok t) (hg : Graph.ofJson t = .ok g) :
    (ofDirectory store (some dir)).graph = g := by
  have hfile := FileStore.hasFile_of_read hread
  unfold ofDirectory openChecked loadChecked
  simp only [Option.map_some, hfile, Bool.not_true, Bool.false_eq_true, if_false, hread,
    Except.mapError, bind, Except.bind, hg]

/-- A record that changes nothing writes nothing. -/
theorem record_store_of_unchanged {c : GraphCache} {store : FileStore} {p : Path}
    {content : String} {modules : List Path} (h : (c.graph.insert p ⟨content, modules⟩).1 = false) :
    (c.record store p content modules).2.2 = store := by
  unfold record
  rcases hins : c.graph.insert p ⟨content, modules⟩ with ⟨changed, g⟩
  rw [hins] at h
  subst h
  rfl

/-- A record that changes the entry, in a cache with a file the store can write, leaves the file
holding the new graph. -/
theorem record_read_of_changed {c : GraphCache} {store : FileStore} {f p : Path}
    {content : String} {modules : List Path} (hfile : c.filePath = some f) (hw : store.Writable f)
    (h : (c.graph.insert p ⟨content, modules⟩).1 = true) :
    (c.record store p content modules).2.2.read f =
      .ok (c.graph.insert p ⟨content, modules⟩).2.toJson := by
  unfold record
  rcases hins : c.graph.insert p ⟨content, modules⟩ with ⟨changed, g⟩
  rw [hins] at h
  subst h
  obtain ⟨s', hwrite, hread⟩ := hw.write g.toJson
  have hsave : ({ filePath := some f, graph := g } : GraphCache).save store = .ok s' := by
    simp [save, hwrite, Except.mapError, bind, Except.bind, pure, Except.pure]
  simp only [hfile, Option.isSome_some, Bool.and_self, if_true]
  rw [hsave]
  exact hread

/-- The store after a record is the one it was given or one the write of a file gave. -/
theorem record_store_cases (c : GraphCache) (store : FileStore) (p : Path) (content : String)
    (modules : List Path) :
    (c.record store p content modules).2.2 = store ∨
      ∃ f t, store.write f t = .ok (c.record store p content modules).2.2 := by
  unfold record
  rcases c.graph.insert p ⟨content, modules⟩ with ⟨changed, g⟩
  dsimp only
  split
  · split
    · next s' hsave =>
      right
      cases hf : c.filePath with
      | none => simp [save, hf, throw, throwThe, MonadExceptOf.throw, Except.bind, bind] at hsave
      | some f =>
        simp only [save, hf, pure, Except.pure, bind, Except.bind, Except.mapError] at hsave
        split at hsave
        · cases hsave
        · exact ⟨f, g.toJson, by simp_all⟩
    · exact .inl rfl
  · exact .inl rfl

theorem clear_fst (c : GraphCache) (store : FileStore) :
    (c.clear store).1 = { c with graph := Graph.empty } := by
  unfold clear
  dsimp only
  split
  · split <;> rfl
  · rfl

/-- A clear with a store that removes the file leaves no file. -/
theorem clear_removes {c : GraphCache} {store : FileStore} {f : Path} (hfile : c.filePath = some f)
    (hw : store.Writable f) : ∃ s', (c.clear store).2 = .ok s' ∧ s'.hasFile f = false := by
  unfold clear
  simp only [hfile]
  split
  · next hhas =>
    obtain ⟨s', hremove, hgone⟩ := hw.remove hhas
    exact ⟨s', by simp [hremove, Except.mapError], hgone⟩
  · next hhas => exact ⟨store, rfl, by simpa using hhas⟩

/-- The store a clear gives is the one it was given or one the removal of a file gave. -/
theorem clear_store_cases {c : GraphCache} {store s : FileStore} (h : (c.clear store).2 = .ok s) :
    s = store ∨ ∃ f, store.remove f = .ok s := by
  unfold clear at h
  dsimp only at h
  split at h
  · split at h
    · next f _ _ =>
      right
      refine ⟨f, ?_⟩
      cases hr : store.remove f <;> simp_all [Except.mapError]
    · exact .inl (Except.ok.inj h).symm
  · exact .inl (Except.ok.inj h).symm

end GraphCache

end Cache

namespace Api

open Cache

/-! ## Instances of a desk -/

namespace GraphDesk

theorem lookup_filter_ne {j k : Nat} (hjk : j ≠ k) :
    ∀ l : List (Nat × GraphCache), (l.filter (·.1 != k)).lookup j = l.lookup j
  | [] => rfl
  | (a, c) :: l => by
    by_cases hak : a = k
    · subst hak
      have hja : (j == a) = false := beq_eq_false_iff_ne.mpr hjk
      simp [List.lookup, lookup_filter_ne hjk l, hja]
    · have hak' : (a != k) = true := bne_iff_ne.mpr hak
      simp only [List.filter, hak', List.lookup, lookup_filter_ne hjk l]

theorem mem_of_lookup {k : Nat} {c : GraphCache} :
    ∀ {l : List (Nat × GraphCache)}, l.lookup k = some c → (k, c) ∈ l
  | [], h => by cases h
  | (a, c') :: l, h => by
    by_cases hka : k = a
    · subst hka
      simp only [List.lookup, beq_self_eq_true, Option.some.injEq] at h
      rw [h]
      exact List.mem_cons_self
    · simp only [List.lookup, beq_eq_false_iff_ne.mpr hka] at h
      exact List.mem_cons_of_mem _ (mem_of_lookup h)

theorem lookup_put (d : GraphDesk) (k : Nat) (c : GraphCache) (j : Nat) :
    (d.put k c).caches.lookup j = if j = k then some c else d.caches.lookup j := by
  unfold put
  by_cases hjk : j = k
  · subst hjk
    simp [List.lookup]
  · have hjk' : (j == k) = false := beq_eq_false_iff_ne.mpr hjk
    simp [List.lookup, hjk, hjk', lookup_filter_ne hjk]

theorem cache_put (d : GraphDesk) (k : Nat) (c : GraphCache) (j : Nat) :
    (d.put k c).cache j = if j = k then c else d.cache j := by
  unfold cache
  rw [lookup_put]
  by_cases hjk : j = k
  · simp [hjk]
  · simp only [hjk, if_false]
    rfl

theorem put_put (d : GraphDesk) (k : Nat) (a b : GraphCache) : (d.put k a).put k b = d.put k b := by
  simp [put, List.filter_filter]

/-- Registering the cache an instance already shows changes no instance. -/
theorem cache_use (d : GraphDesk) (k j : Nat) : (d.put k (d.cache k)).cache j = d.cache j := by
  rw [cache_put]
  split
  · next h => rw [h]
  · rfl

/-- An instance once opened keeps its cache whatever the store becomes. -/
theorem cache_setStore {d : GraphDesk} {j : Nat} (h : (d.caches.lookup j).isSome = true)
    (s : FileStore) : ({ d with store := s } : GraphDesk).cache j = d.cache j := by
  obtain ⟨c, hc⟩ := Option.isSome_iff_exists.mp h
  simp [cache, hc]

theorem cache_put_setStore (d : GraphDesk) (k : Nat) (c : GraphCache) (s : FileStore) :
    ({ d.put k c with store := s } : GraphDesk).cache k = c := by
  rw [cache_setStore (by simp [lookup_put]), cache_put, if_pos rfl]

end GraphDesk

/-- An operation of one instance on the shared file: opening it anew, recording the modules of a
file for a content, or clearing. -/
inductive GraphOp
  | reopen (k : Nat)
  | record (k : Nat) (p : Path) (content : String) (modules : List Path)
  | clear (k : Nat)

namespace GraphOp

/-- The instance that takes the operation. -/
def inst : GraphOp → Nat
  | .reopen k => k
  | .record k .. => k
  | .clear k => k

/-- What the operation does to its own instance's graph. Reopening starts a new instance, so it
is never asked for. -/
def onGraph : GraphOp → Graph → Graph
  | .reopen _, g => g
  | .record _ p content modules, g => (g.insert p ⟨content, modules⟩).2
  | .clear _, _ => Graph.empty

end GraphOp

/-- Who last changed the graph file. -/
inductive Writer
  | nobody
  | cleared
  | saved (k : Nat)

namespace GraphDesk

/-- A desk over `store` with caches for `dir` and no instance opened yet. -/
def fresh (store : FileStore) (dir : Path) : GraphDesk := ⟨store, some dir, []⟩

/-- One operation as the graph steps take it: the instance is opened when first used. -/
def apply (d : GraphDesk) : GraphOp → GraphDesk
  | .reopen k => (d.put k (d.cache k)).reopen k
  | .record k p content modules => ((d.put k (d.cache k)).record k p content modules).2
  | .clear k => ((d.put k (d.cache k)).clear k).2

def run (d : GraphDesk) : List GraphOp → GraphDesk
  | [] => d
  | op :: ops => (d.apply op).run ops

/-- The writer after an operation: a record writes when its entry changes, a clear removes. -/
def wrote (d : GraphDesk) : GraphOp → Writer → Writer
  | .reopen _, w => w
  | .record k p content modules, w =>
    if ((d.cache k).graph.insert p ⟨content, modules⟩).1 then .saved k else w
  | .clear _, _ => .cleared

def lastWriter (d : GraphDesk) (w : Writer) : List GraphOp → Writer
  | [] => w
  | op :: ops => (d.apply op).lastWriter (d.wrote op w) ops

/-- What the graph file holds for its writer: with no writer the store is the one at the start,
after a clear there is no file, and after a save the file reads as the graph that the saving
instance holds. -/
def FileOf (start : FileStore) (f : Path) (d : GraphDesk) : Writer → Prop
  | .nobody => d.store = start
  | .cleared => d.store.hasFile f = false
  | .saved k => ∃ t, d.store.read f = .ok t ∧ Graph.ofJson t = .ok (d.cache k).graph

/-- Every instance opened has the desk's file and a graph in path order. -/
structure Kept (d : GraphDesk) : Prop where
  filePath : ∀ kc ∈ d.caches, kc.2.filePath = d.cacheDir.map (· / Hash.graphFileName)
  sorted : ∀ kc ∈ d.caches, kc.2.graph.Sorted

/-! ## One operation -/

theorem apply_reopen (d : GraphDesk) (k : Nat) :
    d.apply (.reopen k) = d.put k (GraphCache.ofDirectory d.store d.cacheDir) := by
  simp only [apply, reopen, put_put]
  rfl

theorem apply_record (d : GraphDesk) (k : Nat) (p : Path) (content : String) (modules : List Path) :
    d.apply (.record k p content modules) =
      { d.put k ((d.cache k).record d.store p content modules).2.1 with
        store := ((d.cache k).record d.store p content modules).2.2 } := by
  simp only [apply, record, cache_put, if_true, put_put]
  rfl

theorem apply_clear (d : GraphDesk) (k : Nat) :
    d.apply (.clear k) =
      (doneOrFailure ((d.cache k).clear d.store).2 (d.put k ((d.cache k).clear d.store).1)).2 := by
  simp only [apply, clear, cache_put, if_true, put_put]
  rfl

/-- After a clear its instance holds an empty graph, and the store is the one the clear gave, or
the one before when the clear failed. -/
theorem apply_clear_eq (d : GraphDesk) (k : Nat) :
    ∃ s, (s = d.store ∨ ((d.cache k).clear d.store).2 = .ok s) ∧
      d.apply (.clear k) = { d.put k { d.cache k with graph := Graph.empty } with store := s } := by
  rw [apply_clear, ← GraphCache.clear_fst]
  cases ((d.cache k).clear d.store).2 with
  | error e => exact ⟨d.store, .inl rfl, rfl⟩
  | ok s => exact ⟨s, .inr rfl, rfl⟩

/-! ## What every desk keeps -/

theorem Kept.cache {d : GraphDesk} (h : d.Kept) (k : Nat) :
    (d.cache k).filePath = d.cacheDir.map (· / Hash.graphFileName) ∧ (d.cache k).graph.Sorted := by
  unfold GraphDesk.cache
  split
  · next c hc =>
    have hmem := mem_of_lookup hc
    exact ⟨h.filePath _ hmem, h.sorted _ hmem⟩
  · exact ⟨GraphCache.ofDirectory_filePath _ _, GraphCache.ofDirectory_sorted _ _⟩

/-- On a desk with a cache directory, every instance's file is the graph file there. -/
theorem Kept.filePath_of_dir {d : GraphDesk} {dir : Path} (h : d.Kept) (hdir : d.cacheDir = some dir)
    (k : Nat) : (d.cache k).filePath = some (dir / Hash.graphFileName) := by
  rw [(h.cache k).1, hdir]
  rfl

theorem Kept.put {d : GraphDesk} (h : d.Kept) {k : Nat} {c : GraphCache}
    (hfile : c.filePath = d.cacheDir.map (· / Hash.graphFileName)) (hsorted : c.graph.Sorted) :
    (d.put k c).Kept := by
  constructor
  · intro kc hkc
    rcases List.mem_cons.mp hkc with rfl | hkc
    · exact hfile
    · exact h.filePath _ (List.mem_filter.mp hkc).1
  · intro kc hkc
    rcases List.mem_cons.mp hkc with rfl | hkc
    · exact hsorted
    · exact h.sorted _ (List.mem_filter.mp hkc).1

theorem Kept.setStore {d : GraphDesk} (h : d.Kept) (s : FileStore) :
    ({ d with store := s } : GraphDesk).Kept :=
  ⟨h.filePath, h.sorted⟩

theorem apply_cacheDir (d : GraphDesk) (op : GraphOp) : (d.apply op).cacheDir = d.cacheDir := by
  cases op with
  | reopen k => rw [apply_reopen]; rfl
  | record k p content modules => rw [apply_record]; rfl
  | clear k =>
    obtain ⟨s, -, hd⟩ := apply_clear_eq d k
    rw [hd]
    rfl

theorem apply_kept {d : GraphDesk} (h : d.Kept) (op : GraphOp) : (d.apply op).Kept := by
  cases op with
  | reopen k =>
    rw [apply_reopen]
    exact h.put (GraphCache.ofDirectory_filePath _ _) (GraphCache.ofDirectory_sorted _ _)
  | record k p content modules =>
    rw [apply_record]
    obtain ⟨hfile, hsorted⟩ := h.cache k
    obtain ⟨-, hrec⟩ := (d.cache k).record_graph d.store p content modules
    refine (h.put ?_ ?_).setStore _
    · rw [hrec]
      exact hfile
    · rw [hrec]
      exact Graph.insert_sorted hsorted _ _
  | clear k =>
    obtain ⟨s, -, hd⟩ := apply_clear_eq d k
    rw [hd]
    refine (h.put ?_ Graph.empty_sorted).setStore s
    exact (h.cache k).1

/-- A desk with the same store and the same instances holds the file as the other does. -/
theorem FileOf.congr {start : FileStore} {f : Path} {d d' : GraphDesk} {w : Writer}
    (hstore : d'.store = d.store) (hcache : ∀ j, d'.cache j = d.cache j)
    (h : d.FileOf start f w) : d'.FileOf start f w := by
  cases w with
  | nobody => exact hstore.trans h
  | cleared =>
    show d'.store.hasFile f = false
    rw [hstore]
    exact h
  | saved k =>
    obtain ⟨t, hread, hg⟩ := h
    exact ⟨t, hstore ▸ hread, hcache k ▸ hg⟩

/-! ## The file after one operation -/

section File

variable {start : FileStore} {dir : Path} {d : GraphDesk}

/-- After a record, its instance holds the cache the record gave. -/
theorem apply_record_cache (d : GraphDesk) (k : Nat) (p : Path) (content : String)
    (modules : List Path) :
    (d.apply (.record k p content modules)).cache k =
      ((d.cache k).record d.store p content modules).2.1 := by
  rw [apply_record, cache_put_setStore]

/-- A record that changes no entry changes nothing but registering its instance. -/
theorem apply_record_unchanged {k : Nat} {p : Path} {content : String} {modules : List Path}
    (h : ((d.cache k).graph.insert p ⟨content, modules⟩).1 = false) :
    d.apply (.record k p content modules) = d.put k (d.cache k) := by
  obtain ⟨-, hrec⟩ := (d.cache k).record_graph d.store p content modules
  rw [apply_record, GraphCache.record_store_of_unchanged h, hrec, Graph.insert_snd_of_unchanged h]
  rfl

/-- A record rewrites the file exactly when its entry changes: one whose entry is recorded already
leaves the store as it was, and any other leaves the file holding the instance's new graph. -/
theorem apply_record_file (hdir : d.cacheDir = some dir) (hk : d.Kept)
    (hw : d.store.Writable (dir / Hash.graphFileName)) (k : Nat) (p : Path) (content : String)
    (modules : List Path) :
    (((d.cache k).graph.get? p).any (·.same ⟨content, modules⟩) = true →
      (d.apply (.record k p content modules)).store = d.store) ∧
    (((d.cache k).graph.get? p).any (·.same ⟨content, modules⟩) = false →
      (d.apply (.record k p content modules)).store.read (dir / Hash.graphFileName) =
        .ok ((d.apply (.record k p content modules)).cache k).graph.toJson) := by
  have hins := Graph.insert_fst (d.cache k).graph p ⟨content, modules⟩
  obtain ⟨-, hrec⟩ := (d.cache k).record_graph d.store p content modules
  constructor
  · intro hsame
    rw [hsame] at hins
    rw [apply_record_unchanged hins]
    rfl
  · intro hsame
    rw [hsame] at hins
    rw [apply_record_cache, hrec, apply_record]
    exact GraphCache.record_read_of_changed (hk.filePath_of_dir hdir k) hw hins

/-- The file after an operation: unchanged by a reopen or by a record that changes no entry, the
instance's new graph after a record that changes one, and gone after a clear. -/
theorem apply_file (hdir : d.cacheDir = some dir) (hk : d.Kept)
    (hw : d.store.Writable (dir / Hash.graphFileName)) {w : Writer}
    (hf : d.FileOf start (dir / Hash.graphFileName) w) (op : GraphOp) :
    (d.apply op).FileOf start (dir / Hash.graphFileName) (d.wrote op w) := by
  cases op with
  | reopen k =>
    rw [apply_reopen]
    cases w with
    | saved j =>
      -- a reopened instance reads the graph of the last save back
      obtain ⟨t, hread, hg⟩ := hf
      refine ⟨t, hread, ?_⟩
      rw [cache_put]
      split
      · next hjk =>
        rw [hdir, GraphCache.ofDirectory_of_read hread hg]
        exact hg
      · exact hg
    | _ => exact hf
  | record k p content modules =>
    cases hins : ((d.cache k).graph.insert p ⟨content, modules⟩).1 with
    | false =>
      have hwrote : d.wrote (.record k p content modules) w = w := by simp [wrote, hins]
      rw [hwrote, apply_record_unchanged hins]
      refine FileOf.congr ?_ (cache_use d k) hf
      rfl
    | true =>
      have hwrote : d.wrote (.record k p content modules) w = .saved k := by simp [wrote, hins]
      rw [hwrote]
      have hsame : (((d.cache k).graph.get? p).any (·.same ⟨content, modules⟩)) = false := by
        simpa [Graph.insert_fst] using hins
      refine ⟨_, (apply_record_file hdir hk hw k p content modules).2 hsame, ?_⟩
      exact Graph.ofJson_toJson ((apply_kept hk _).cache k).2
  | clear k =>
    rw [apply_clear]
    obtain ⟨s', hr, hgone⟩ := GraphCache.clear_removes (hk.filePath_of_dir hdir k) hw
    rw [hr]
    exact hgone

end File

/-! ## Each instance's own graph -/

/-- An operation registers its instance and leaves the others' entries. -/
theorem apply_caches (d : GraphDesk) (op : GraphOp) :
    ∃ c, (d.apply op).caches = (d.put op.inst c).caches := by
  cases op with
  | reopen k => exact ⟨_, by rw [apply_reopen]; rfl⟩
  | record k p content modules => exact ⟨_, by rw [apply_record]; rfl⟩
  | clear k =>
    obtain ⟨s, -, hd⟩ := apply_clear_eq d k
    exact ⟨_, by rw [hd]; rfl⟩

theorem apply_open {d : GraphDesk} {k : Nat} (hopen : (d.caches.lookup k).isSome = true)
    (op : GraphOp) : ((d.apply op).caches.lookup k).isSome = true := by
  obtain ⟨c, hc⟩ := apply_caches d op
  rw [hc, lookup_put]
  split
  · rfl
  · exact hopen

/-- An operation of another instance leaves an open instance as it was, whatever it does to the
file. -/
theorem apply_cache_other {d : GraphDesk} {k : Nat} {op : GraphOp} (hk : op.inst ≠ k)
    (hopen : (d.caches.lookup k).isSome = true) : (d.apply op).cache k = d.cache k := by
  obtain ⟨c, hc⟩ := apply_caches d op
  obtain ⟨c₀, h₀⟩ := Option.isSome_iff_exists.mp hopen
  have hlookup : (d.apply op).caches.lookup k = some c₀ := by
    rw [hc, lookup_put, if_neg (Ne.symm hk)]
    exact h₀
  simp [cache, hlookup, h₀]

/-- A record or a clear changes its own instance's graph as `GraphOp.onGraph` says. -/
theorem apply_cache_own (d : GraphDesk) {op : GraphOp} (hop : op ≠ .reopen op.inst) :
    ((d.apply op).cache op.inst).graph = op.onGraph (d.cache op.inst).graph := by
  cases op with
  | reopen k => exact absurd rfl hop
  | record k p content modules =>
    rw [GraphOp.inst, apply_record_cache, ((d.cache k).record_graph d.store p content modules).2]
    rfl
  | clear k =>
    obtain ⟨s, -, hd⟩ := apply_clear_eq d k
    rw [GraphOp.inst, hd, cache_put_setStore]
    rfl

/-! ## Runs -/

theorem run_append (d : GraphDesk) (ops₁ ops₂ : List GraphOp) :
    d.run (ops₁ ++ ops₂) = (d.run ops₁).run ops₂ := by
  induction ops₁ generalizing d with
  | nil => rfl
  | cons op ops ih => exact ih (d.apply op)

/-- Along a run, the file stays what its last writer made it. -/
theorem run_file {start : FileStore} {dir : Path} :
    ∀ (ops : List GraphOp) (d : GraphDesk) (w : Writer), d.cacheDir = some dir → d.Kept →
      (∀ i, (d.run (ops.take i)).store.Writable (dir / Hash.graphFileName)) →
      d.FileOf start (dir / Hash.graphFileName) w →
      (d.run ops).FileOf start (dir / Hash.graphFileName) (d.lastWriter w ops)
  | [], _, _, _, _, _, hf => hf
  | op :: ops, d, w, hdir, hk, hw, hf =>
    run_file ops (d.apply op) (d.wrote op w) ((apply_cacheDir d op).trans hdir) (apply_kept hk op)
      (fun i => hw (i + 1)) (apply_file hdir hk (hw 0) hf op)

theorem run_kept : ∀ (ops : List GraphOp) (d : GraphDesk), d.Kept → (d.run ops).Kept
  | [], _, hk => hk
  | op :: ops, d, hk => run_kept ops (d.apply op) (apply_kept hk op)

theorem run_cacheDir : ∀ (ops : List GraphOp) (d : GraphDesk), (d.run ops).cacheDir = d.cacheDir
  | [], _ => rfl
  | op :: ops, d => (run_cacheDir ops (d.apply op)).trans (apply_cacheDir d op)

/-- Along a run that does not reopen it, an open instance's graph is its graph before, changed by
its own records and clears in order and by nothing else. -/
theorem run_cache_own :
    ∀ (ops : List GraphOp) (d : GraphDesk) (k : Nat), (d.caches.lookup k).isSome = true →
      (∀ op ∈ ops, op ≠ .reopen k) →
      ((d.run ops).cache k).graph =
        (ops.filter (·.inst == k)).foldl (fun g op => op.onGraph g) (d.cache k).graph
  | [], _, _, _, _ => rfl
  | op :: ops, d, k, hopen, hops => by
    rw [run, run_cache_own ops (d.apply op) k (apply_open hopen op)
      (fun o ho => hops o (List.mem_cons_of_mem _ ho))]
    by_cases hk : op.inst = k
    · -- the instance's own operation, which is not a reopen
      have hop : op ≠ .reopen op.inst := hk ▸ hops op List.mem_cons_self
      rw [List.filter_cons_of_pos (by simp [hk]), List.foldl_cons, ← hk, apply_cache_own d hop]
    · rw [List.filter_cons_of_neg (by simp [hk]), apply_cache_other hk hopen]

/-! ## Desks in memory -/

theorem apply_isDisk {d : GraphDesk} (h : d.store.isDisk = false) (op : GraphOp) :
    (d.apply op).store.isDisk = false := by
  cases op with
  | reopen k =>
    rw [apply_reopen]
    exact h
  | record k p content modules =>
    rw [apply_record]
    rcases GraphCache.record_store_cases (d.cache k) d.store p content modules with hs | ⟨f, t, hs⟩
    · show ((d.cache k).record d.store p content modules).2.2.isDisk = false
      rw [hs]
      exact h
    · exact FileStore.isDisk_write h hs
  | clear k =>
    obtain ⟨s, hs, hd⟩ := apply_clear_eq d k
    rw [hd]
    show s.isDisk = false
    rcases hs with rfl | hr
    · exact h
    · rcases GraphCache.clear_store_cases hr with rfl | ⟨f, hs⟩
      · exact h
      · exact FileStore.isDisk_remove h hs

theorem run_isDisk : ∀ (ops : List GraphOp) (d : GraphDesk), d.store.isDisk = false →
    (d.run ops).store.isDisk = false
  | [], _, h => h
  | op :: ops, d, h => run_isDisk ops (d.apply op) (apply_isDisk h op)

/-- A desk over a store in memory stays in memory, so every write and removal of the file takes
effect along any run. -/
theorem run_writable_memory (ops : List GraphOp) (d : GraphDesk) (h : d.store.isDisk = false)
    (f : Path) : ∀ i, (d.run (ops.take i)).store.Writable f :=
  fun _ => FileStore.writable_of_isDisk (run_isDisk _ d h) f

end GraphDesk

/-! ## Last writer wins -/

/-- Instances opened on one store and one cache directory, operating in any interleaving over a
store that takes every write and removal of the file:

* while nobody has written the file the store is as it was; after a clear there is no file; after
  a save the file reads back as exactly the graph the saving instance holds now;
* an open instance's graph is its graph at any earlier point changed by its own records and
  clears, and by nothing another instance does;
* a record leaves the store as it was when its entry is recorded already, and otherwise leaves
  the file holding the instance's new graph. -/
theorem graph_file_last_writer_wins (store : FileStore) (dir : Path) (ops : List GraphOp)
    (hw : ∀ i, ((GraphDesk.fresh store dir).run (ops.take i)).store.Writable
      (dir / Hash.graphFileName)) :
    ((GraphDesk.fresh store dir).run ops).FileOf store (dir / Hash.graphFileName)
        ((GraphDesk.fresh store dir).lastWriter .nobody ops) ∧
      (∀ ops₁ ops₂ k, ops₁ ++ ops₂ = ops →
        (((GraphDesk.fresh store dir).run ops₁).caches.lookup k).isSome = true →
        (∀ op ∈ ops₂, op ≠ .reopen k) →
        (((GraphDesk.fresh store dir).run ops).cache k).graph =
          (ops₂.filter (·.inst == k)).foldl (fun g op => op.onGraph g)
            (((GraphDesk.fresh store dir).run ops₁).cache k).graph) ∧
      (∀ ops₁ ops₂ k p content modules, ops₁ ++ GraphOp.record k p content modules :: ops₂ = ops →
        (((((GraphDesk.fresh store dir).run ops₁).cache k).graph.get? p).any
            (·.same ⟨content, modules⟩) = true →
          (((GraphDesk.fresh store dir).run ops₁).apply (.record k p content modules)).store =
            ((GraphDesk.fresh store dir).run ops₁).store) ∧
        (((((GraphDesk.fresh store dir).run ops₁).cache k).graph.get? p).any
            (·.same ⟨content, modules⟩) = false →
          (((GraphDesk.fresh store dir).run ops₁).apply (.record k p content modules)).store.read
              (dir / Hash.graphFileName) =
            .ok ((((GraphDesk.fresh store dir).run ops₁).apply
              (.record k p content modules)).cache k).graph.toJson)) := by
  have hkept : (GraphDesk.fresh store dir).Kept :=
    ⟨fun _ h => absurd h List.not_mem_nil, fun _ h => absurd h List.not_mem_nil⟩
  have hdir : (GraphDesk.fresh store dir).cacheDir = some dir := rfl
  refine ⟨GraphDesk.run_file ops _ .nobody hdir hkept hw rfl, ?_, ?_⟩
  · rintro ops₁ ops₂ k rfl hopen hops
    rw [GraphDesk.run_append]
    exact GraphDesk.run_cache_own ops₂ _ k hopen hops
  · rintro ops₁ ops₂ k p content modules rfl
    -- the store is writable where the record is taken
    have hw₁ := hw ops₁.length
    rw [List.take_left' rfl] at hw₁
    exact GraphDesk.apply_record_file ((GraphDesk.run_cacheDir ops₁ _).trans hdir)
      (GraphDesk.run_kept ops₁ _ hkept) hw₁ k p content modules

/-- Two instances over a store in memory: the first records a test file, the second records
another, the first clears. -/
theorem graph_file_two_instances :
    ∃ ops : List GraphOp,
      ops = [.record 0 ⟨"/p/a.test.ts"⟩ "import './b';\n" [⟨"/p/b.ts"⟩],
        .record 1 ⟨"/p/c.test.ts"⟩ "export {};\n" [], .clear 0] ∧
      (∀ i, ((GraphDesk.fresh .emptyMemory ⟨"/cache"⟩).run (ops.take i)).store.Writable
        (Path.mk "/cache" / Hash.graphFileName)) ∧
      ((GraphDesk.fresh .emptyMemory ⟨"/cache"⟩).run ops).FileOf .emptyMemory
          (Path.mk "/cache" / Hash.graphFileName)
          ((GraphDesk.fresh .emptyMemory ⟨"/cache"⟩).lastWriter .nobody ops) ∧
        (∀ ops₁ ops₂ k, ops₁ ++ ops₂ = ops →
          (((GraphDesk.fresh .emptyMemory ⟨"/cache"⟩).run ops₁).caches.lookup k).isSome = true →
          (∀ op ∈ ops₂, op ≠ .reopen k) →
          (((GraphDesk.fresh .emptyMemory ⟨"/cache"⟩).run ops).cache k).graph =
            (ops₂.filter (·.inst == k)).foldl (fun g op => op.onGraph g)
              (((GraphDesk.fresh .emptyMemory ⟨"/cache"⟩).run ops₁).cache k).graph) ∧
        (∀ ops₁ ops₂ k p content modules,
          ops₁ ++ GraphOp.record k p content modules :: ops₂ = ops →
          (((((GraphDesk.fresh .emptyMemory ⟨"/cache"⟩).run ops₁).cache k).graph.get? p).any
              (·.same ⟨content, modules⟩) = true →
            (((GraphDesk.fresh .emptyMemory ⟨"/cache"⟩).run ops₁).apply
                (.record k p content modules)).store =
              ((GraphDesk.fresh .emptyMemory ⟨"/cache"⟩).run ops₁).store) ∧
          (((((GraphDesk.fresh .emptyMemory ⟨"/cache"⟩).run ops₁).cache k).graph.get? p).any
              (·.same ⟨content, modules⟩) = false →
            (((GraphDesk.fresh .emptyMemory ⟨"/cache"⟩).run ops₁).apply
                (.record k p content modules)).store.read (Path.mk "/cache" / Hash.graphFileName) =
              .ok ((((GraphDesk.fresh .emptyMemory ⟨"/cache"⟩).run ops₁).apply
                (.record k p content modules)).cache k).graph.toJson)) :=
  ⟨_, rfl, GraphDesk.run_writable_memory _ _ rfl _,
    graph_file_last_writer_wins _ _ _ (GraphDesk.run_writable_memory _ _ rfl _)⟩

end Api

end TestTransform
