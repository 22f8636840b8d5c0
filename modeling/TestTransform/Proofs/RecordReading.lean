import TestTransform.Proofs.NumberReading
import TestTransform.Proofs.ExtendsUnfolding

/-
Reading records and maps by their shapes, where a written value ends.

Inside an object a value is followed by a comma or a closing brace, and a number written there
is read up to that byte only. `ReadsAs` says what reading by a shape gives where given bytes
stand and a value ends after them; the readers of a text, an optional, any value, one of
several shapes and a map (`readsAs_dict`) are stated in that form, so that they nest as the
shapes do. A record written as an object whose members stand in the order of its fields, some
fields left out, is read as the record its fields' trees fill, whatever follows its closing
brace (`readsClosed_record`).

The second half goes the other way: whatever text a record is read from, each field of the
result holds what reading that field's shape can give, or the field's default
(`readShape_record_forall`), and every entry of a map of values read at some depth holds a
value in read form nested below that depth (`readShape_dictAny_forall`).
-/

namespace TestTransform
namespace Json

/-! ## Reading where a value ends -/

section Ended

variable {s : ByteArray} {i : Nat} {rest : List UInt8}

/-- Reading by `shape` where the bytes `bs` stand, followed by the end of a value, gives `d` and
stands just past them. -/
def ReadsAs (s : ByteArray) (fuel depth : Nat) (shape : Shape) (bs : List UInt8) (d : Decoded) :
    Prop :=
  ∀ i rest, bs ++ rest <+: unread s i → EndsValue rest →
    readShape s fuel depth shape i = .ok (d, i + bs.length)

/-- Reading by `shape` where the bytes `bs` stand gives `d` and stands just past them, whatever
follows: the value closes itself, as a record does with its brace. -/
def ReadsClosed (s : ByteArray) (fuel depth : Nat) (shape : Shape) (bs : List UInt8) (d : Decoded) :
    Prop :=
  ∀ i rest, bs ++ rest <+: unread s i → readShape s fuel depth shape i = .ok (d, i + bs.length)

theorem ReadsClosed.readsAs {fuel depth : Nat} {shape : Shape} {bs : List UInt8} {d : Decoded}
    (h : ReadsClosed s fuel depth shape bs d) : ReadsAs s fuel depth shape bs d :=
  fun i rest hbs _ => h i rest hbs

theorem readsAs_text {fuel depth : Nat} (e t : String) :
    ReadsAs s (fuel + 1) depth (.text e) (bytes (quote t)) (.value (.str t)) :=
  fun _ _ h _ => readShape_text h

/-- An optional is read as its inner shape where the value does not start with the `n` of
`null`. -/
theorem readsAs_optional {fuel depth : Nat} {inner : Shape} {bs : List UInt8} {d : Decoded}
    (hopen : ∃ b tail, bs = b :: tail ∧ isBlank b = false ∧ b ≠ 0x6E)
    (h : ReadsAs s fuel depth inner bs d) :
    ReadsAs s (fuel + 1) depth (.optional inner) bs (.present d) := by
  intro i rest hbs hend
  obtain ⟨b, tail, rfl, hb, hnull⟩ := hopen
  rw [readShape, skipBlank_of_unread hbs hb, byteAt_of_unread hbs]
  split
  · rename_i heq
    exact absurd (Option.some.inj heq) hnull
  · rw [h i rest hbs hend]
    rfl

theorem readsAs_str {fuel depth : Nat} (e t : String) :
    ReadsAs s (fuel + 1) depth (.text e) (bytes (Value.str t).compact) (.value (.str t)) := by
  simp only [Value.compact]
  exact readsAs_text e t

theorem opens_str (t : String) :
    ∃ b tail, bytes (Value.str t).compact = b :: tail ∧ isBlank b = false ∧ b ≠ 0x6E := by
  obtain ⟨tail, htail⟩ := quote_head t
  exact ⟨0x22, tail, by simp only [Value.compact]; exact htail, rfl, by decide⟩

/-- A list of strings is read by a sequence of texts as their trees. -/
theorem readsAs_texts {fuel depth : Nat} (e : String) (ts : List String) (hdepth : 1 < depth) :
    ReadsAs s (fuel + 2) depth (.seq (.text e)) (bytes (Value.arr (ts.map .str)).compact)
      (.items (ts.map (fun t => .value (.str t)))) := by
  intro i rest h _
  have hw : (fun x : String => bytes (Value.str x).compact) = fun t => bytes (quote t) := by
    funext t
    simp only [Value.compact]
  rw [bytes_compact_arr, joined_map, hw] at h ⊢
  rw [readShape_seq (readsAll_text e ts) (opens_quote ts) hdepth (by simpa using h)]
  simp only [List.length_cons, List.length_append]
  congr 2

/-- A value in read form is read by `.any` as itself: the reader is given fuel for every byte of
the text. -/
theorem readsAs_any {fuel depth n : Nat} {v : Value} (hv : v.ReadForm n)
    (hnum : v.AllNumbers Number.ReadsBack) (hn : n < depth) :
    ReadsAs s (fuel + 1) depth .any (bytes v.compact) (.value v) := by
  intro i rest h hend
  obtain ⟨b, tail, hw, hb, _⟩ := opens_compact [v] v List.mem_cons_self
  simp only at hw
  have h' := h
  rw [hw] at h'
  have hsize := length_le_of_unread h
  have hfuel : fuelFor s = (2 * s.size + 15) + 1 := rfl
  rw [readShape, skipBlank_of_unread h' hb]
  simp only
  rw [hfuel, readRaw_compact hv hnum (by simp only [List.length_append] at hsize; omega) hn i rest h hend]
  simp only [Except.map, normalize_of_readForm hv]

/-- One of several shapes is read as the value read, decoded by the first shape it fits. -/
theorem readsAs_oneOf {fuel depth n : Nat} {name : String} {variants : List Shape} {v : Value}
    {d : Decoded} (hv : v.ReadForm n) (hnum : v.AllNumbers Number.ReadsBack) (hn : n < depth)
    (hdec : (Shape.oneOf name variants).decode v = .ok d) :
    ReadsAs s (fuel + 1) depth (.oneOf name variants) (bytes v.compact) d := by
  intro i rest h hend
  obtain ⟨b, tail, hw, hb, _⟩ := opens_compact [v] v List.mem_cons_self
  simp only at hw
  have h' := h
  rw [hw] at h'
  have hsize := length_le_of_unread h
  have hfuel : fuelFor s = (2 * s.size + 15) + 1 := rfl
  rw [readShape, skipBlank_of_unread h' hb]
  rw [hfuel, readRaw_compact hv hnum (by simp only [List.length_append] at hsize; omega) hn i rest h hend]
  simp only [hdec]

/-- A map is read member by member up to its closing brace, each value where a value ends. -/
theorem readsAs_dict {α : Type} {fuel depth : Nat} {item : Shape} {w : α → List UInt8}
    {dec : α → Decoded} {ms : List (String × α)}
    (hall : ∀ m ∈ ms, ReadsAs s fuel (depth - 1) item (w m.2) (dec m.2)) (hdepth : 1 < depth) :
    ReadsAs s (fuel + 1) depth (.dict item) (0x7B :: joined (member w) ms ++ [0x7D])
      (.entries (ms.map (fun m => (m.1, dec m.2)))) := by
  intro i rest h _
  simp only [List.cons_append, List.append_assoc] at h
  rw [readShape_dict_followed endsValue_members hall hdepth h]
  simp only [List.length_cons, List.length_append]
  congr 2

/-! ## Records written in the order of their fields -/

/-- The members of a record after its first, written in the order of the fields from slot
`pre.length` on, a field left out where `none` stands: each is read into its field's empty slot,
and at the closing brace the record is what the slots fill. -/
theorem recordMembers_in_order {α : Type} {fuel depth : Nat} {fields : List Field}
    {w : α → List UInt8} {dec : α → Decoded} :
    ∀ (opts : List (Option (String × α))) (pre : List (Option Decoded)) {count k : Nat}
      {ds : List Decoded},
      (∀ j m, opts[j]? = some (some m) → fieldIndex fields m.1 = some (pre.length + j) ∧
        ReadsAs s fuel depth (fields.getD (pre.length + j) (.optional "" .any)).shape (w m.2)
          (dec m.2)) →
      fillFields fields (pre ++ opts.map (Option.map (fun m => dec m.2))) = .ok ds →
      (opts.filterMap id).length < count →
      (opts.filterMap id).flatMap (fun m => 0x2C :: member w m) ++ 0x7D :: rest <+: unread s k →
      readRecordMembers s (readShape s fuel depth) depth fields false count k false
          (pre ++ opts.map (fun _ => none)) [] =
        .ok (.record ds [], k + ((opts.filterMap id).flatMap (fun m => 0x2C :: member w m)).length) := by
  intro opts
  induction opts with
  | nil =>
    intro pre count k ds _ hfill hcount h
    obtain ⟨count, rfl⟩ : ∃ c, count = c + 1 := ⟨count - 1, by omega⟩
    simp only [List.map_nil, List.append_nil] at hfill ⊢
    rw [readRecordMembers, nextKey_close h]
    simp only [hfill]
    rfl
  | cons o opts ih =>
    intro pre count k ds hfields hfill hcount h
    -- the later fields stand one slot further on
    have hshift : ∀ x : Option Decoded, ∀ j m, opts[j]? = some (some m) →
        fieldIndex fields m.1 = some ((pre ++ [x]).length + j) ∧
        ReadsAs s fuel depth (fields.getD ((pre ++ [x]).length + j) (.optional "" .any)).shape
          (w m.2) (dec m.2) := by
      intro x j m hm
      have hidx : (pre ++ [x]).length + j = pre.length + (j + 1) := by
        simp only [List.length_append, List.length_singleton]
        omega
      rw [hidx]
      exact hfields (j + 1) m (by simpa using hm)
    cases o with
    | none =>
      have hslots : pre ++ (none :: opts).map (fun _ => none) =
          (pre ++ [none]) ++ opts.map (fun _ => none) := by simp
      have hfill' : fillFields fields ((pre ++ [none]) ++ opts.map (Option.map (fun m => dec m.2))) =
          .ok ds := by simpa using hfill
      rw [hslots, ih (pre ++ [none]) (hshift none) hfill' (by simpa using hcount) (by simpa using h)]
      simp
    | some m =>
      obtain ⟨key, x⟩ := m
      obtain ⟨hidx, hx⟩ := hfields 0 (key, x) rfl
      simp only [Nat.add_zero] at hidx hx
      have hcons : (some (key, x) :: opts).filterMap id = (key, x) :: opts.filterMap id :=
        List.filterMap_cons_some rfl
      rw [hcons] at hcount h ⊢
      simp only [List.flatMap_cons, List.length_cons, List.append_assoc, List.cons_append] at hcount h ⊢
      have hm : member w (key, x) ++ ((opts.filterMap id).flatMap (fun m => 0x2C :: member w m) ++
          0x7D :: rest) <+: unread s (k + 1) := unread_succ (by simpa using h)
      have hnext : nextKey s k false = .ok (some (k + 1), k + 1) := by
        obtain ⟨tail, htail⟩ := quote_head key
        rw [member, htail] at h
        exact nextKey_comma (by simpa using h)
      obtain ⟨hkey, hcolon, hvalue⟩ :=
        readMember hm (fun i hv => hx i _ hv (after_members endsValue_members _ _ rest))
      obtain ⟨count, rfl⟩ : ∃ c, count = c + 1 := ⟨count - 1, by omega⟩
      have hslot : (pre ++ (none :: opts.map (fun _ => none))).getD pre.length none = none := by
        simp
      have hset : setSlot (pre ++ none :: opts.map (fun _ => none)) pre.length (dec x) =
          (pre ++ [some (dec x)]) ++ opts.map (fun _ => none) := by
        simp [setSlot]
      have hfill' : fillFields fields ((pre ++ [some (dec x)]) ++
          opts.map (Option.map (fun m => dec m.2))) = .ok ds := by simpa using hfill
      rw [List.map_cons, readRecordMembers, hnext]
      simp only [hkey, hidx, hslot, hcolon, hvalue]
      rw [hset, ih (pre ++ [some (dec x)]) (hshift _) hfill' (by omega) (unread_append hm)]
      simp only [List.length_append, List.length_cons, member]
      congr 2
      omega

/-- Where every required field has a slot filled, the fill takes each slot's tree or its
field's default. -/
theorem fillFields_eq_zipWith :
    ∀ {fields : List Field} {slots : List (Option Decoded)},
      (∀ f o, (f, o) ∈ fields.zip slots → f.required = true → o.isSome = true) →
      fillFields fields slots = .ok (List.zipWith (fun f o => o.getD f.shape.missing) fields slots) := by
  intro fields
  induction fields with
  | nil => intro slots _; rfl
  | cons f fs ih =>
    intro slots hreq
    cases slots with
    | nil => rfl
    | cons o os =>
      have htail : fillFields fs os = .ok (List.zipWith (fun f o => o.getD f.shape.missing) fs os) :=
        ih (fun f' o' hm => hreq f' o' (List.mem_cons_of_mem _ hm))
      have hhead := hreq f o List.mem_cons_self
      rw [fillFields, List.zip_cons_cons, List.mapM_cons]
      rw [fillFields] at htail
      cases o with
      | some d => simp only [htail, List.zipWith_cons_cons, Option.getD_some]; rfl
      | none =>
        have hopt : f.required = false := by
          cases hf : f.required
          · rfl
          · simp [hf] at hhead
        simp only [hopt, htail, List.zipWith_cons_cons, Option.getD_none]
        rfl

/-- A record written as an object whose members stand in the order of its fields, its first
field present and the others left out where `opts` has `none`, is read as the record that the
fields' trees, or their defaults, fill. -/
theorem readsClosed_record {α : Type} {fuel depth : Nat} {name : String} {fields : List Field}
    {w : α → List UInt8} {dec : α → Decoded} {first : String × α} {opts : List (Option (String × α))}
    {ds : List Decoded} (hlen : opts.length + 1 = fields.length)
    (hfields : ∀ j m, (some first :: opts)[j]? = some (some m) → fieldIndex fields m.1 = some j ∧
      ReadsAs s fuel (depth - 1) (fields.getD j (.optional "" .any)).shape (w m.2) (dec m.2))
    (hfill : fillFields fields ((some first :: opts).map (Option.map (fun m => dec m.2))) = .ok ds)
    (hdepth : 1 < depth) :
    ReadsClosed s (fuel + 1) depth (.record name fields)
      (0x7B :: joined (member w) ((some first :: opts).filterMap id) ++ [0x7D]) (.record ds []) := by
  intro i rest h
  obtain ⟨key, x⟩ := first
  have hcons : (some (key, x) :: opts).filterMap id = (key, x) :: opts.filterMap id :=
    List.filterMap_cons_some rfl
  rw [hcons] at h ⊢
  simp only [joined, List.cons_append, List.append_assoc] at h ⊢
  have hbody := unread_succ h
  have hsize := length_le_of_unread hbody
  have hcount := length_le_flatMap_cons 0x2C (member w) (opts.filterMap id)
  simp only [List.length_append, List.length_cons] at hsize
  obtain ⟨hidx, hx⟩ := hfields 0 (key, x) rfl
  obtain ⟨hkey, hcolon, hvalue⟩ :=
    readMember hbody (fun i hv => hx i _ hv (after_members endsValue_members _ _ rest))
  have hfirst : nextKey s (i + 1) true = .ok (some (i + 1), i + 1) := by
    obtain ⟨tail, htail⟩ := quote_head key
    rw [member, htail] at hbody
    exact nextKey_first (by simpa using hbody)
  -- every slot starts empty; the first member fills slot `0`
  have hslots : fields.map (fun _ => (none : Option Decoded)) = [none] ++ opts.map (fun _ => none) := by
    rw [List.map_const', List.map_const', ← hlen]
    rfl
  have hset : setSlot (none :: opts.map (fun _ => none)) 0 (dec x) =
      [some (dec x)] ++ opts.map (fun _ => none) := rfl
  have hlater : ∀ j m, opts[j]? = some (some m) →
      fieldIndex fields m.1 = some ([some (dec x)].length + j) ∧
      ReadsAs s fuel (depth - 1) (fields.getD ([some (dec x)].length + j) (.optional "" .any)).shape
        (w m.2) (dec m.2) := by
    intro j m hm
    rw [List.length_singleton, Nat.add_comm]
    exact hfields (j + 1) m (by simpa using hm)
  have hfill' : fillFields fields ([some (dec x)] ++ opts.map (Option.map (fun m => dec m.2))) =
      .ok ds := by simpa using hfill
  rw [readShape, skipBlank_of_unread h rfl]
  simp only [byteAt_of_unread h, if_neg (Nat.not_le.mpr hdepth)]
  rw [hslots, readRecordMembers, hfirst]
  simp only [hkey, hidx, hcolon, hvalue, List.getD_cons_zero, List.cons_append, List.nil_append]
  rw [hset, recordMembers_in_order opts [some (dec x)] hlater hfill' (by omega) (unread_append hbody)]
  rw [closeWith_endObject (unread_append (unread_append hbody))]
  simp only [List.length_append, List.length_cons, List.length_nil]
  congr 2
  omega

end Ended

/-! ## What reading a record gives -/

section Forms

variable {s : ByteArray}

/-- Filling the slots: what every slot's tree and every field's default satisfy holds of each
tree of the record. -/
theorem fillFields_forall {fields : List Field} :
    ∀ {slots : List (Option Decoded)} {ds : List Decoded} {P : Nat → Decoded → Prop},
      (∀ idx f, fields[idx]? = some f → P idx f.shape.missing) →
      (∀ idx d, slots[idx]? = some (some d) → P idx d) →
      fillFields fields slots = .ok ds → ∀ idx d, ds[idx]? = some d → P idx d := by
  induction fields with
  | nil =>
    intro slots ds P _ _ h
    simp only [fillFields, List.zip_nil_left, List.mapM_nil, pure, Except.pure, Except.ok.injEq] at h
    subst h
    simp
  | cons f fs ih =>
    intro slots ds P hmissing hslots h
    cases slots with
    | nil =>
      simp only [fillFields, List.zip_nil_right, List.mapM_nil, pure, Except.pure,
        Except.ok.injEq] at h
      subst h
      simp
    | cons sl sls =>
      rw [fillFields, List.zip_cons_cons, List.mapM_cons] at h
      obtain ⟨d, hd, h⟩ := except_bind_eq_ok.mp h
      obtain ⟨ds', hds', h⟩ := except_bind_eq_ok.mp h
      simp only [pure, Except.pure, Except.ok.injEq] at h
      subst h
      -- the first tree is the first slot's, or the first field's default
      have hhead : P 0 d := by
        cases sl with
        | some d' =>
          cases hd
          exact hslots 0 _ rfl
        | none =>
          simp only at hd
          split at hd
          · cases hd
          · cases hd
            exact hmissing 0 f rfl
      have htail := ih (P := fun idx => P (idx + 1)) (fun idx f hf => hmissing (idx + 1) f hf)
        (fun idx d hd => hslots (idx + 1) d hd) hds'
      intro idx d' hidx
      cases idx with
      | zero =>
        cases hidx
        exact hhead
      | succ idx => exact htail idx d' hidx

theorem setSlot_forall {P : Nat → Decoded → Prop} {slots : List (Option Decoded)} {idx : Nat}
    {d : Decoded} (hslots : ∀ idx d, slots[idx]? = some (some d) → P idx d)
    (hd : idx < slots.length → P idx d) :
    ∀ idx' d', (setSlot slots idx d)[idx']? = some (some d') → P idx' d' := by
  intro idx' d' h
  rw [setSlot, List.getElem?_set] at h
  split_ifs at h with hidx hlt
  · subst hidx
    cases h
    exact hd hlt
  · exact hslots idx' d' h

/-- Reading the members of a record keeps each slot empty or holding what reading its field's
shape gives, so the record read holds such trees or the fields' defaults. -/
theorem recordMembers_forall {fuel depth : Nat} {fields : List Field} {keepRest : Bool}
    {P : Nat → Decoded → Prop}
    (hmissing : ∀ idx f, fields[idx]? = some f → P idx f.shape.missing)
    (hread : ∀ idx f k d k', fields[idx]? = some f →
      readShape s fuel depth f.shape k = .ok (d, k') → P idx d) :
    ∀ {count i : Nat} {first : Bool} {slots : List (Option Decoded)}
      {rest : List (String × Value)} {D : Decoded} {j : Nat},
      (∀ idx d, slots[idx]? = some (some d) → P idx d) →
      readRecordMembers s (readShape s fuel depth) depth fields keepRest count i first slots rest = .ok (D, j) →
      ∃ ds r, D = .record ds r ∧ ∀ idx d, ds[idx]? = some d → P idx d := by
  intro count
  induction count with
  | zero =>
    intro i first slots rest D j _ h
    rw [readRecordMembers] at h
    cases h
  | succ count ih =>
    intro i first slots rest D j hslots h
    rw [readRecordMembers] at h
    split at h
    · cases h
    · -- the closing brace: the slots are filled
      split at h
      · rename_i ds hfill
        cases h
        exact ⟨ds, _, rfl, fillFields_forall hmissing hslots hfill⟩
      · cases h
    · split at h
      · cases h
      · split at h
        · -- a key naming a field fills its slot
          split at h
          · cases h
          · split at h
            · cases h
            · split at h
              · rename_i hidx _ _ _ _ _ _ _ _ hd
                have hlt := (List.findIdx?_eq_some_iff_getElem.mp hidx).1
                refine ih (setSlot_forall hslots (fun _ => hread _ _ _ _ _ ?_ hd)) h
                simp [List.getD_eq_getElem?_getD, hlt]
              · cases h
        · -- a key naming no field: its value is skipped
          split at h
          · cases h
          · split at h
            · exact ih hslots h
            · cases h

/-- Reading a record written as a list of its fields, in order: the list so far holds what
reading each field's shape gives, or its default where the list ended. -/
theorem recordItems_forall {fuel depth total : Nat} {name : String} {fields : List Field}
    {P : Nat → Decoded → Prop}
    (hmissing : ∀ idx f, fields[idx]? = some f → P idx f.shape.missing)
    (hread : ∀ idx f k d k', fields[idx]? = some f →
      readShape s fuel depth f.shape k = .ok (d, k') → P idx d) :
    ∀ {fs : List Field} {i : Nat} {first : Bool} {acc : List Decoded} {D : Decoded} {j : Nat},
      fields.drop acc.length = fs →
      (∀ idx d, acc.reverse[idx]? = some d → P idx d) →
      readRecordItems s (readShape s fuel depth) name total fs i first acc = .ok (D, j) →
      ∃ ds r, D = .record ds r ∧ ∀ idx d, ds[idx]? = some d → P idx d := by
  intro fs
  induction fs with
  | nil =>
    intro i first acc D j _ hacc h
    rw [readRecordItems] at h
    cases h
    exact ⟨_, _, rfl, hacc⟩
  | cons f fs ih =>
    intro i first acc D j hdrop hacc h
    -- `f` is the field at the index of the next tree
    have hf : fields[acc.length]? = some f := by
      rw [← Nat.add_zero acc.length, ← List.getElem?_drop, hdrop]
      rfl
    have hdrop' : ∀ d : Decoded, fields.drop (d :: acc).length = fs := by
      intro d
      rw [List.length_cons, ← List.drop_drop, hdrop]
      rfl
    have hpush : ∀ d, P acc.length d → ∀ idx d', (d :: acc).reverse[idx]? = some d' → P idx d' := by
      intro d hd idx d' h
      rw [List.reverse_cons] at h
      by_cases hlt : idx < acc.length
      · rw [List.getElem?_append_left (by simpa using hlt)] at h
        exact hacc idx d' h
      · rw [List.getElem?_append_right (by simp; omega), List.getElem?_singleton] at h
        split_ifs at h with hzero
        cases h
        simp only [List.length_reverse] at hzero
        rw [show idx = acc.length by omega]
        exact hd
    rw [readRecordItems] at h
    split at h
    · cases h
    · -- the list ends before this field, which takes its default
      split at h
      · cases h
      · exact ih (hdrop' _) (hpush _ (hmissing _ f hf)) h
    · split at h
      · rename_i hd
        exact ih (hdrop' _) (hpush _ (hread _ f _ _ _ hf hd)) h
      · cases h

/-- Whatever a record is read from, an object or a list, each of its trees holds what reading
its field's shape gives, or its default. -/
theorem readShape_record_forall {fuel depth i j : Nat} {name : String} {fields : List Field}
    {P : Nat → Decoded → Prop} {D : Decoded}
    (hmissing : ∀ idx f, fields[idx]? = some f → P idx f.shape.missing)
    (hread : ∀ idx f k d k', fields[idx]? = some f →
      readShape s fuel (depth - 1) f.shape k = .ok (d, k') → P idx d)
    (h : readShape s (fuel + 1) depth (.record name fields) i = .ok (D, j)) :
    ∃ ds r, D = .record ds r ∧ ∀ idx d, ds[idx]? = some d → P idx d := by
  rw [readShape] at h
  split at h
  · cases h
  · split at h
    · cases h
    · obtain ⟨k, hk⟩ := closeWith_ok h
      exact recordItems_forall hmissing hread (by simp) (by simp) hk
  · split at h
    · cases h
    · obtain ⟨k, hk⟩ := closeWith_ok h
      refine recordMembers_forall hmissing hread (fun idx d hd => ?_) hk
      -- every slot starts empty
      rw [List.getElem?_map] at hd
      cases hf : fields[idx]? <;> simp [hf] at hd
  · cases h

/-- The entries of a map read so far hold what reading the item's shape gives. -/
theorem entries_forall {fuel depth : Nat} {item : Shape} {Q : Decoded → Prop}
    (hread : ∀ k d k', readShape s fuel depth item k = .ok (d, k') → Q d) :
    ∀ {count i : Nat} {first : Bool} {acc : List (String × Decoded)} {D : Decoded} {j : Nat},
      (∀ e ∈ acc, Q e.2) → readShapeEntries s (readShape s fuel depth) item count i first acc = .ok (D, j) →
      ∀ e ∈ D.documentEntries, Q e.2 := by
  intro count
  induction count with
  | zero =>
    intro i first acc D j _ h
    rw [readShapeEntries] at h
    cases h
  | succ count ih =>
    intro i first acc D j hacc h
    rw [readShapeEntries] at h
    split at h
    · cases h
    · cases h
      exact fun e he => hacc e (List.mem_reverse.mp he)
    · split at h
      · cases h
      · split at h
        · cases h
        · split at h
          · rename_i hd
            refine ih (fun e he => ?_) h
            rcases List.mem_cons.mp he with rfl | he
            · exact hread _ _ _ hd
            · exact hacc e he
          · cases h

theorem readShape_dict_forall {fuel depth i j : Nat} {item : Shape} {Q : Decoded → Prop}
    {D : Decoded} (hread : ∀ k d k', readShape s fuel (depth - 1) item k = .ok (d, k') → Q d)
    (h : readShape s (fuel + 1) depth (.dict item) i = .ok (D, j)) :
    ∀ e ∈ D.documentEntries, Q e.2 := by
  rw [readShape] at h
  split at h
  · cases h
  · split at h
    · cases h
    · obtain ⟨k, hk⟩ := closeWith_ok h
      exact entries_forall hread (fun _ h => absurd h List.not_mem_nil) hk
  · cases h

/-- Any value read at depth `depth` is in read form, nested fewer than `depth` levels, with its
numbers in range. -/
theorem readShape_any_form {fuel depth i j : Nat} {d : Decoded}
    (h : readShape s fuel depth .any i = .ok (d, j)) :
    ∃ v, d = .value v ∧ v.ReadForm (depth - 1) ∧ v.AllNumbers Number.InRange := by
  cases fuel with
  | zero =>
    rw [readShape] at h
    cases h
  | succ fuel =>
    rw [readShape] at h
    cases hr : readRaw s false (fuelFor s) depth (skipBlank s i) with
    | error e => simp [hr, Except.map] at h
    | ok r =>
      obtain ⟨v, k⟩ := r
      simp only [hr, Except.map, Except.ok.injEq, Prod.mk.injEq] at h
      obtain ⟨rfl, rfl⟩ := h
      exact ⟨_, rfl, readForm_normalize (readRaw_nested hr), allNumbers_normalize (readRaw_numbers hr)⟩

/-- Every entry of a map of any values read at depth `depth` holds a value in read form nested
at most `depth - 2` levels, one level for the map and one for the value, with its numbers in
range. -/
theorem readShape_dictAny_forall {fuel depth i j : Nat} {D : Decoded}
    (h : readShape s (fuel + 1) depth (.dict .any) i = .ok (D, j)) :
    ∀ e ∈ D.documentEntries,
      ∃ v, e.2 = .value v ∧ v.ReadForm (depth - 2) ∧ v.AllNumbers Number.InRange :=
  readShape_dict_forall (fun _ _ _ hd => readShape_any_form hd) h

end Forms

end Json
end TestTransform
