import TestTransform.Proofs.ShapeReading
import TestTransform.Proofs.PathOrder
import TestTransform.Cache.Graph

/-
The graph file reads back as the graph that wrote it.

A graph keeps its entries in ascending path order (`Graph.Sorted`), and inserting an entry
keeps that order (`Graph.insert_sorted`). The file of a graph is an object with a member for
each entry, in that order, whose value is the entry's content and modules
(`Graph.bytes_toJson`); reading the file by the graph's shape gives one decoded tree per
entry (`Graph.readText_toJson`), and adding those entries to an empty graph one after another
rebuilds the graph, since each path comes after all the paths before it
(`Graph.foldl_insert_of_sorted`). So `Graph.ofJson_toJson`: a graph in path order is read back
from its file exactly, whatever characters its paths and contents hold.
-/

namespace TestTransform
namespace Cache

open Json

namespace Graph

/-- Entries strictly ascending by path: the order every graph of the program keeps. -/
def Sorted (g : Graph) : Prop := g.entries.Pairwise (fun a b => compare a.1 b.1 = .lt)

theorem insertSorted_of_lt {p : Path} {e : GraphEntry} :
    ∀ {es : List (Path × GraphEntry)}, (∀ q ∈ es, compare q.1 p = .lt) →
      insertSorted p e es = es ++ [(p, e)]
  | [], _ => rfl
  | (q, f) :: es, h => by
    have hq : compare p q = .gt := Std.OrientedCmp.gt_of_lt (h (q, f) (List.mem_cons_self ..))
    rw [insertSorted, hq]
    simp only [List.cons_append]
    rw [insertSorted_of_lt (fun r hr => h r (List.mem_cons_of_mem _ hr))]

theorem get?_none_of_lt {p : Path} {es : List (Path × GraphEntry)}
    (h : ∀ q ∈ es, compare q.1 p = .lt) : get? ⟨es⟩ p = none := by
  simp only [get?, Option.map_eq_none_iff, List.find?_eq_none]
  intro q hq heq
  have := Path.compare_eq_iff_beq.mpr heq
  rw [h q hq] at this
  cases this

/-- Inserting a path below none of the recorded ones appends its entry. -/
theorem insert_of_lt {p : Path} {e : GraphEntry} {es : List (Path × GraphEntry)}
    (h : ∀ q ∈ es, compare q.1 p = .lt) : (insert ⟨es⟩ p e).2 = ⟨es ++ [(p, e)]⟩ := by
  rw [insert, get?_none_of_lt h]
  simp only
  rw [insertSorted_of_lt h]

/-- Adding entries in ascending order after smaller ones rebuilds them in that order. -/
theorem foldl_insert_of_sorted :
    ∀ {es acc : List (Path × GraphEntry)}, (acc ++ es).Pairwise (fun a b => compare a.1 b.1 = .lt) →
      es.foldl (fun (g : Graph) pe => (g.insert pe.1 pe.2).2) ⟨acc⟩ = ⟨acc ++ es⟩
  | [], acc, _ => by simp
  | pe :: es, acc, h => by
    have hlt : ∀ q ∈ acc, compare q.1 pe.1 = .lt := fun q hq =>
      (List.pairwise_append.mp h).2.2 q hq pe (List.mem_cons_self ..)
    have hrest : (acc ++ [pe] ++ es).Pairwise (fun a b => compare a.1 b.1 = .lt) := by
      simpa using h
    rw [List.foldl_cons, insert_of_lt hlt, foldl_insert_of_sorted hrest]
    simp

theorem mem_insertSorted {p : Path} {e : GraphEntry} :
    ∀ {es : List (Path × GraphEntry)} {x : Path × GraphEntry}, x ∈ insertSorted p e es →
      x.1 = p ∨ ∃ y ∈ es, y.1 = x.1
  | [], x, hx => by
    simp only [insertSorted, List.mem_singleton] at hx
    exact .inl (by rw [hx])
  | (q, f) :: es, x, hx => by
    rw [insertSorted] at hx
    split at hx
    · simp only [List.mem_cons] at hx
      rcases hx with rfl | rfl | hx
      · exact .inl rfl
      · exact .inr ⟨(q, f), List.mem_cons_self .., rfl⟩
      · exact .inr ⟨x, List.mem_cons_of_mem _ hx, rfl⟩
    · simp only [List.mem_cons] at hx
      rcases hx with rfl | hx
      · exact .inr ⟨(q, f), List.mem_cons_self .., rfl⟩
      · exact .inr ⟨x, List.mem_cons_of_mem _ hx, rfl⟩
    · simp only [List.mem_cons] at hx
      rcases hx with rfl | hx
      · exact .inr ⟨(q, f), List.mem_cons_self .., rfl⟩
      · rcases mem_insertSorted hx with h | ⟨y, hy, hyx⟩
        · exact .inl h
        · exact .inr ⟨y, List.mem_cons_of_mem _ hy, hyx⟩

theorem insertSorted_sorted {p : Path} {e : GraphEntry} :
    ∀ {es : List (Path × GraphEntry)}, es.Pairwise (fun a b => compare a.1 b.1 = .lt) →
      (insertSorted p e es).Pairwise (fun a b => compare a.1 b.1 = .lt)
  | [], _ => by simp [insertSorted]
  | (q, f) :: es, h => by
    rw [List.pairwise_cons] at h
    obtain ⟨hq, hes⟩ := h
    rw [insertSorted]
    split
    · next hlt =>
      refine List.Pairwise.cons (fun x hx => ?_) (List.Pairwise.cons hq hes)
      rcases List.mem_cons.mp hx with rfl | hx
      · exact hlt
      · exact Std.TransCmp.lt_trans hlt (hq x hx)
    · exact List.Pairwise.cons hq hes
    · next hgt =>
      refine List.Pairwise.cons (fun x hx => ?_) (insertSorted_sorted hes)
      rcases mem_insertSorted hx with hxp | ⟨y, hy, hyx⟩
      · rw [hxp]
        exact Std.OrientedCmp.lt_of_gt hgt
      · rw [← hyx]
        exact hq y hy

theorem insert_sorted {g : Graph} (hg : g.Sorted) (p : Path) (e : GraphEntry) :
    (g.insert p e).2.Sorted := by
  unfold insert
  split
  · split
    · exact hg
    · exact insertSorted_sorted hg
  · exact insertSorted_sorted hg

/-- After inserting `p` its entry is the one inserted, whatever the order of the others: an entry
passed on the way has a path that `p` compares above, so none equal to `p`. -/
theorem get?_insertSorted_self (p : Path) (e : GraphEntry) :
    ∀ es : List (Path × GraphEntry), get? ⟨insertSorted p e es⟩ p = some e
  | [] => by simp [get?, insertSorted, Path.beq_self]
  | (q, f) :: es => by
    rw [insertSorted]
    split
    · simp [get?, Path.beq_self]
    · next heq =>
      have hqp : (q == p) = true := by
        rw [Path.beq_comm]
        exact Path.compare_eq_iff_beq.mp heq
      simp [get?, hqp]
    · next hgt =>
      have hqp : (q == p) = false := by
        rw [Path.beq_comm, ← Bool.not_eq_true, ← Path.compare_eq_iff_beq, hgt]
        simp
      have hrest := get?_insertSorted_self p e es
      simp only [get?] at hrest ⊢
      rw [List.find?_cons_of_neg (by simp [hqp])]
      exact hrest

/-- Inserting reports a change exactly when no entry the same as the new one is recorded for the
path. -/
theorem insert_fst (g : Graph) (p : Path) (e : GraphEntry) :
    (g.insert p e).1 = !((g.get? p).any (·.same e)) := by
  unfold insert
  split
  · split <;> simp_all
  · simp_all

/-- An insert that reports no change leaves the graph as it was. -/
theorem insert_snd_of_unchanged {g : Graph} {p : Path} {e : GraphEntry}
    (h : (g.insert p e).1 = false) : (g.insert p e).2 = g := by
  revert h
  unfold insert
  split
  · split <;> simp
  · simp

/-- An insert that reports a change records the new entry for its path. -/
theorem get?_insert_of_changed {g : Graph} {p : Path} {e : GraphEntry}
    (h : (g.insert p e).1 = true) : (g.insert p e).2.get? p = some e := by
  revert h
  unfold insert
  split
  · split
    · simp
    · exact fun _ => get?_insertSorted_self p e g.entries
  · exact fun _ => get?_insertSorted_self p e g.entries

end Graph

namespace GraphCache

/-- Recording inserts the entry into the graph and reports whether the insert changed it; the
cache keeps its file. -/
theorem record_graph (c : GraphCache) (store : FileStore) (p : Path) (content : String)
    (modules : List Path) :
    (c.record store p content modules).1 = (c.graph.insert p ⟨content, modules⟩).1 ∧
      (c.record store p content modules).2.1 =
        { c with graph := (c.graph.insert p ⟨content, modules⟩).2 } := by
  unfold record
  rcases c.graph.insert p ⟨content, modules⟩ with ⟨changed, g⟩
  dsimp only
  split
  · split <;> simp_all
  · exact ⟨rfl, rfl⟩

end GraphCache

/-! ## The graph file -/

namespace GraphEntry

/-- The written bytes of an entry. -/
def bytes (e : GraphEntry) : List UInt8 := Json.bytes e.toValue.compact

/-- The tree an entry decodes to: its content, then its modules. -/
def tree (e : GraphEntry) : Decoded :=
  .record [.value (.str e.content), .items (e.modules.map (fun m => .value (.str m.text)))] []

theorem bytes_eq (e : GraphEntry) :
    e.bytes = 0x7B :: (member (fun t => Json.bytes (quote t)) ("fileContent", e.content) ++
      0x2C :: member (fun ms => 0x5B :: joined (fun m => Json.bytes (quote (Path.text m))) ms ++ [0x5D])
        ("resolvedModuleNames", e.modules)) ++ [0x7D] := by
  have hopen : Json.bytes "\x7b" = [0x7B] := by decide
  have hclose : Json.bytes "\x7d" = [0x7D] := by decide
  have hleft : Json.bytes "[" = [0x5B] := by decide
  have hright : Json.bytes "]" = [0x5D] := by decide
  rw [bytes, toValue, Value.compact, bytes_append, bytes_append, bytes_compactMembers, joined_pair]
  simp only [member, Value.compact, bytes_append, bytes_compactItems, joined_map, hopen, hclose,
    hleft, hright, List.cons_append]
  rfl

end GraphEntry

section Reading

variable {s : ByteArray} {i : Nat} {rest : List UInt8}

theorem readsAll_paths {fuel depth : Nat} (ms : List Path) :
    ReadsAll s (fuel + 1) depth (.text "path string") (fun m => Json.bytes (quote (Path.text m)))
      (fun m => .value (.str m.text)) ms :=
  fun _ _ _ _ h => readShape_text h

theorem opens_paths (ms : List Path) : Opens (fun m => Json.bytes (quote (Path.text m))) ms :=
  fun m _ => opens_quote [m.text] m.text (List.mem_singleton_self _)

theorem readMember_text (fuel depth : Nat) {j : Nat} {key t e : String}
    (h : member (fun t => bytes (quote t)) (key, t) ++ rest <+: unread s j) :
    readString s (j + 1) false = .ok (key, j + (bytes (quote key)).length) ∧
      readColon s (j + (bytes (quote key)).length) = .ok (j + (bytes (quote key)).length + 1) ∧
      readShape s (fuel + 1) depth (.text e) (j + (bytes (quote key)).length + 1) =
        .ok (.value (.str t), j + (member (fun t => bytes (quote t)) (key, t)).length) := by
  have hx : ∀ i rest, bytes (quote t) ++ rest <+: unread s i →
      readShape s (fuel + 1) depth (.text e) i = .ok (.value (.str t), i + (bytes (quote t)).length) :=
    fun _ _ hv => readShape_text hv
  exact readMember h (fun i hv => hx i _ hv)

theorem readMember_paths (fuel depth : Nat) {j : Nat} {key : String} {ms : List Path} (hdepth : 1 < depth)
    (h : member (fun ms => 0x5B :: joined (fun m => bytes (quote (Path.text m))) ms ++ [0x5D]) (key, ms) ++
      rest <+: unread s j) :
    readString s (j + 1) false = .ok (key, j + (bytes (quote key)).length) ∧
      readColon s (j + (bytes (quote key)).length) = .ok (j + (bytes (quote key)).length + 1) ∧
      readShape s (fuel + 2) depth (.seq (.text "path string")) (j + (bytes (quote key)).length + 1) =
        .ok (.items (ms.map (fun m => .value (.str m.text))),
          j + (member (fun ms => 0x5B :: joined (fun m => bytes (quote (Path.text m))) ms ++ [0x5D])
            (key, ms)).length) := by
  have hx : ∀ i rest, 0x5B :: joined (fun m => bytes (quote (Path.text m))) ms ++ [0x5D] ++ rest <+:
      unread s i → readShape s (fuel + 2) depth (.seq (.text "path string")) i =
        .ok (.items (ms.map (fun m => .value (.str m.text))),
          i + (0x5B :: joined (fun m => bytes (quote (Path.text m))) ms ++ [0x5D]).length) := by
    intro i rest hv
    rw [readShape_seq (readsAll_paths ms) (opens_paths ms) hdepth (by simpa using hv)]
    simp only [List.length_cons, List.length_append]
    congr 2
  exact readMember h (fun i hv => hx i _ hv)

/-- An entry of the graph file is read as its content and its modules. -/
theorem readShape_entry {e : GraphEntry} {fuel depth : Nat} (hdepth : 2 < depth)
    (h : e.bytes ++ rest <+: unread s i) :
    readShape s (fuel + 3) depth Graph.entryShape i = .ok (e.tree, i + e.bytes.length) := by
  rw [GraphEntry.bytes_eq] at h ⊢
  simp only [List.cons_append, List.append_assoc] at h
  have hbody := unread_succ h
  have hsize := length_le_of_unread hbody
  simp only [List.length_append, List.length_cons, member] at hsize
  obtain ⟨count, hcount⟩ : ∃ c, s.size + 1 = c + 3 := ⟨s.size - 2, by omega⟩
  rw [Graph.entryShape, readShape, skipBlank_of_unread h rfl]
  simp only [byteAt_of_unread h, if_neg (show ¬ depth ≤ 1 by omega), List.map_cons, List.map_nil,
    hcount]
  -- the members stand in the order of the fields: content, then modules, then the brace
  have hsecond := unread_append hbody
  obtain ⟨hkey₁, hcolon₁, hvalue₁⟩ := readMember_text (fuel + 1) (depth - 1) (e := "a string") hbody
  obtain ⟨hkey₂, hcolon₂, hvalue₂⟩ := readMember_paths fuel (depth - 1) (by omega) (unread_succ hsecond)
  have hfirst : nextKey s (i + 1) true = .ok (some (i + 1), i + 1) := by
    obtain ⟨tail, htail⟩ := quote_head "fileContent"
    rw [member, htail] at hbody
    exact nextKey_first (by simpa using hbody)
  have hcomma := hsecond
  obtain ⟨tail, htail⟩ := quote_head "resolvedModuleNames"
  rw [member, htail] at hcomma
  have hlast := unread_append (unread_succ hsecond)
  have hidx₁ : fieldIndex [.needed "fileContent" (.text "a string"),
      .needed "resolvedModuleNames" (.seq (.text "path string"))] "fileContent" = some 0 := by decide
  have hidx₂ : fieldIndex [.needed "fileContent" (.text "a string"),
      .needed "resolvedModuleNames" (.seq (.text "path string"))] "resolvedModuleNames" = some 1 := by
    decide
  rw [readRecordMembers, hfirst]
  have hshape₁ : (Field.needed "fileContent" (.text "a string")).shape = .text "a string" := rfl
  simp only [hkey₁, hidx₁, List.getD_cons_zero, hcolon₁, hshape₁, hvalue₁]
  have hshape₂ : (Field.needed "resolvedModuleNames" (.seq (.text "path string"))).shape =
      .seq (.text "path string") := rfl
  rw [readRecordMembers, nextKey_comma (by simpa using hcomma)]
  simp only [hkey₂, hidx₂, setSlot, List.set_cons_zero, List.getD_cons_succ, List.getD_cons_zero,
    hcolon₂, hshape₂, hvalue₂]
  have hfill : fillFields [.needed "fileContent" (.text "a string"),
      .needed "resolvedModuleNames" (.seq (.text "path string"))]
      [some (.value (.str e.content)), some (.items (e.modules.map (fun m => .value (.str m.text))))] =
      .ok [.value (.str e.content), .items (e.modules.map (fun m => .value (.str m.text)))] := rfl
  rw [readRecordMembers, nextKey_close (by simpa using hlast)]
  simp only [List.set_cons_succ, List.set_cons_zero, hfill]
  rw [closeWith_endObject (by simpa using hlast)]
  have hrest : Value.sortMembers ([] : List (String × Value)) = [] := rfl
  simp only [List.reverse_nil, List.map_nil, hrest, GraphEntry.tree, List.length_cons,
    List.length_append, List.length_nil]
  simp only [Except.ok.injEq, Prod.mk.injEq, true_and]
  omega

theorem readsAll_entries {fuel depth : Nat} (hdepth : 2 < depth) (es : List GraphEntry) :
    ReadsAll s (fuel + 3) depth Graph.entryShape GraphEntry.bytes GraphEntry.tree es :=
  fun _ _ _ _ h => readShape_entry hdepth h

end Reading

namespace Graph

/-- The graph file is an object with a member for each entry, in the order of the entries. -/
theorem bytes_toJson (g : Graph) :
    bytes g.toJson = 0x7B :: joined (member GraphEntry.bytes) (g.entries.map (fun pe => (pe.1.text, pe.2))) ++
      [0x7D] := by
  have hopen : bytes "\x7b" = [0x7B] := by decide
  have hclose : bytes "\x7d" = [0x7D] := by decide
  have hentries : g.entries.map (fun pe => (pe.1.text, pe.2.toValue)) =
      (g.entries.map (fun pe => (pe.1.text, pe.2))).map (fun m => (m.1, m.2.toValue)) := by
    simp
  rw [toJson, toValue, Value.compact, bytes_append, bytes_append, bytes_compactMembers, hopen, hclose]
  simp only [hentries, joined_member_map]
  rfl

/-- The tree the graph file decodes to: a map from each path's text to its entry's tree. -/
theorem readText_toJson (g : Graph) :
    shape.readText g.toJson = .ok (.entries (g.entries.map (fun pe => (pe.1.text, pe.2.tree)))) := by
  apply readText_of_readShape
  have hall : unread g.toJson.toUTF8 0 = bytes g.toJson := by simp [unread, bytes]
  have h : bytes g.toJson ++ [] <+: unread g.toJson.toUTF8 0 := by
    rw [hall, List.append_nil]
  rw [bytes_toJson] at h
  have hsize : g.toJson.toUTF8.size = (bytes g.toJson).length := by simp [bytes]
  have hfuel : fuelFor g.toJson.toUTF8 + 64 = (fuelFor g.toJson.toUTF8 + 60) + 3 + 1 := rfl
  rw [shape, hfuel, readShape_dict (readsAll_entries (by decide) _) (by decide) (by simpa using h),
    hsize, bytes_toJson]
  simp [List.map_map]

theorem tree_fields (e : GraphEntry) :
    GraphEntry.mk (((e.tree.field 0).str?).getD "") ((e.tree.field 1).strs.map Path.mk) = e := by
  have hstrs : (e.modules.map (fun m => Decoded.value (.str m.text))).filterMap Decoded.str? =
      e.modules.map Path.text := by
    have hfn : (Decoded.str? ∘ fun m : Path => Decoded.value (.str m.text)) = some ∘ Path.text := rfl
    rw [List.filterMap_map, hfn, List.filterMap_eq_map]
  have hid : (Path.mk ∘ Path.text) = id := rfl
  simp only [GraphEntry.tree, Decoded.field, List.getD_cons_zero, List.getD_cons_succ, Decoded.strs,
    Decoded.itemList, hstrs, List.map_map, hid, List.map_id]
  rfl

/-- Reading the file of a graph whose entries are in path order gives back the graph, whatever
characters its paths and contents hold. -/
theorem ofJson_toJson {g : Graph} (hg : g.Sorted) : ofJson g.toJson = .ok g := by
  rw [ofJson, readText_toJson]
  simp only [Decoded.documentEntries, List.foldl_map]
  have hfold := @foldl_insert_of_sorted g.entries [] (by rw [List.nil_append]; exact hg)
  simp only [List.nil_append] at hfold
  simp only [tree_fields]
  rw [empty, hfold]

end Graph

end Cache
end TestTransform
