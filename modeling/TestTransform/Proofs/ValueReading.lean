import TestTransform.Proofs.ShapeReading
import TestTransform.Proofs.TableLookup

/-
Reading back values written compactly.

A value read from a text has its objects' keys strictly ascending all the way down, and nests
no deeper than the reader allows; `Value.ReadForm n` says so of a value nested at most `n`
levels. Such a value is its own normal form (`normalize_of_readForm`), and, when each of its
numbers reads back from its text (`Number.ReadsBack`), reading its compact text gives it back
and stands just past it (`readRaw_compact`). A number is the one written form whose reading is
not settled here: the reader scales the digits of a float by a power of ten, which need not
land on the float that was written, so reading back is asked of each number.

The other way round, whatever the reader returns nests no deeper than the depth it was given
(`readRaw_nested`), and normalizing such a value sorts its keys and so puts it in read form
(`readForm_normalize`).
-/

namespace TestTransform

namespace Table

variable {κ α : Type} [Ord κ] [Std.LawfulEqOrd κ] [Std.TransOrd κ]

omit [Std.LawfulEqOrd κ] in
/-- A key above every key of the entries goes in last. -/
theorem insertInto_of_lt {k : κ} {v : α} :
    ∀ {es : List (κ × α)}, (∀ e ∈ es, compare e.1 k = .lt) → insertInto k v es = es ++ [(k, v)]
  | [], _ => rfl
  | e :: es, h => by
    have hgt : compare k e.1 = .gt := Std.OrientedCmp.gt_of_lt (h e List.mem_cons_self)
    rw [insertInto, hgt]
    simp only [List.cons_append]
    rw [insertInto_of_lt (fun e' he' => h e' (List.mem_cons_of_mem _ he'))]

omit [Std.LawfulEqOrd κ] in
/-- A table built from entries already strictly ascending holds them as they are. -/
theorem ofList_of_sorted {es : List (κ × α)} (h : Sorted es) : (ofList es).entries = es := by
  -- each insertion of the fold appends its entry after the ones before it, all below it
  suffices hfold : ∀ (es acc : List (κ × α)), Sorted (acc ++ es) →
      (es.foldl (fun (t : Table κ α) e => t.insert e.1 e.2) ⟨acc⟩).entries = acc ++ es from
    hfold es [] h
  intro es
  induction es with
  | nil => intro acc _; simp
  | cons e es ih =>
    intro acc hs
    have hlt : ∀ a ∈ acc, compare a.1 e.1 = .lt := fun a ha =>
      (List.pairwise_append.mp hs).2.2 a ha e List.mem_cons_self
    rw [List.foldl_cons]
    have hins : (Table.mk acc).insert e.1 e.2 = ⟨acc ++ [e]⟩ := by
      rw [insert, insertInto_of_lt hlt]
    rw [hins, ih (acc ++ [e]) (by simpa using hs)]
    simp

end Table

namespace Json

theorem Value.sortMembers_of_sorted {ms : List (String × Value)} (h : Table.Sorted ms) :
    Value.sortMembers ms = ms :=
  Table.ofList_of_sorted h

/-! ## The form of read values -/

/-- Values nested at most `n` levels whose objects' members all satisfy `P`. -/
inductive Value.Nested (P : List (String × Value) → Prop) : Nat → Value → Prop
  | null {n : Nat} : Nested P n .null
  | bool {n : Nat} {b : Bool} : Nested P n (.bool b)
  | num {n : Nat} {x : Number} : Nested P n (.num x)
  | str {n : Nat} {t : String} : Nested P n (.str t)
  | arr {n : Nat} {xs : List Value} : (∀ x ∈ xs, Nested P n x) → Nested P (n + 1) (.arr xs)
  | obj {n : Nat} {ms : List (String × Value)} : P ms → (∀ m ∈ ms, Nested P n m.2) →
      Nested P (n + 1) (.obj ms)

/-- Values in the form reading gives them, nested at most `n` levels: the keys of every object
strictly ascending. -/
abbrev Value.ReadForm (n : Nat) : Value → Prop := Value.Nested Table.Sorted n

/-- Every number of a value has the property `P`. -/
inductive Value.AllNumbers (P : Number → Prop) : Value → Prop
  | null : AllNumbers P .null
  | bool {b : Bool} : AllNumbers P (.bool b)
  | num {x : Number} : P x → AllNumbers P (.num x)
  | str {t : String} : AllNumbers P (.str t)
  | arr {xs : List Value} : (∀ x ∈ xs, AllNumbers P x) → AllNumbers P (.arr xs)
  | obj {ms : List (String × Value)} : (∀ m ∈ ms, AllNumbers P m.2) → AllNumbers P (.obj ms)

/-- Two properties of every number of a value give any property that follows from both. -/
theorem Value.AllNumbers.imp₂ {P Q R : Number → Prop} {v : Value} (hp : v.AllNumbers P)
    (hq : v.AllNumbers Q) (f : ∀ x, P x → Q x → R x) : v.AllNumbers R := by
  induction hp with
  | null => exact .null
  | bool => exact .bool
  | str => exact .str
  | num hx =>
    cases hq with
    | num hy => exact .num (f _ hx hy)
  | arr _ ih =>
    cases hq with
    | arr hq => exact .arr (fun x hx => ih x hx (hq x hx))
  | obj _ ih =>
    cases hq with
    | obj hq => exact .obj (fun m hm => ih m hm (hq m hm))

theorem normalizeItems_of_forall {xs : List Value} (h : ∀ x ∈ xs, x.normalize = x) :
    Value.normalizeItems xs = xs := by
  induction xs with
  | nil => rfl
  | cons x xs ih =>
    rw [Value.normalizeItems, h x List.mem_cons_self,
      ih (fun y hy => h y (List.mem_cons_of_mem _ hy))]

theorem normalizeMembers_of_forall {ms : List (String × Value)} (h : ∀ m ∈ ms, m.2.normalize = m.2) :
    Value.normalizeMembers ms = ms := by
  induction ms with
  | nil => rfl
  | cons m ms ih =>
    obtain ⟨k, x⟩ := m
    rw [Value.normalizeMembers, h (k, x) List.mem_cons_self,
      ih (fun m hm => h m (List.mem_cons_of_mem _ hm))]

/-- A value in read form is its own normal form. -/
theorem normalize_of_readForm {n : Nat} {v : Value} (h : v.ReadForm n) : v.normalize = v := by
  induction h with
  | null | bool | num | str => rfl
  | arr _ ih => rw [Value.normalize, normalizeItems_of_forall ih]
  | obj hsorted _ ih =>
    rw [Value.normalize, normalizeMembers_of_forall ih, Value.sortMembers_of_sorted hsorted]

/-! ## First bytes of written values -/

open Decimal in
theorem isBlank_of_gt {b : UInt8} (h : 0x20 < b.toNat) : isBlank b = false := by
  unfold isBlank
  have h1 : b ≠ 0x20 := fun e => by subst e; simp at h
  have h2 : b ≠ 0x0A := fun e => by subst e; simp at h
  have h3 : b ≠ 0x09 := fun e => by subst e; simp at h
  have h4 : b ≠ 0x0D := fun e => by subst e; simp at h
  simp [h1, h2, h3, h4]

theorem utf8EncodeChar_ascii {c : Char} (h : c.toNat < 0x80) :
    String.utf8EncodeChar c = [c.toNat.toUInt8] := by
  unfold String.utf8EncodeChar
  simp only [Char.toNat] at h
  rw [if_pos (by omega)]
  rfl

theorem bytes_eq_flatMap (t : String) : bytes t = t.toList.flatMap String.utf8EncodeChar := by
  rw [bytes, String.toUTF8_eq_toByteArray, ← @String.ofList_toList t, String.toByteArray_ofList,
    List.utf8Encode, List.data_toByteArray, List.toList_toArray, String.toList_ofList]

/-- A text starting with a character below 0x80 is written starting with its code. -/
theorem bytes_head {t : String} {c : Char} (h : t.toList.head? = some c) (hc : c.toNat < 0x80) :
    ∃ tail, bytes t = c.toNat.toUInt8 :: tail := by
  obtain ⟨cs, hcs⟩ : ∃ cs, t.toList = c :: cs := by
    cases ht : t.toList with
    | nil => rw [ht] at h; cases h
    | cons d cs => rw [ht] at h; cases h; exact ⟨cs, rfl⟩
  refine ⟨cs.flatMap String.utf8EncodeChar, ?_⟩
  rw [bytes_eq_flatMap, hcs, List.flatMap_cons, utf8EncodeChar_ascii hc]
  rfl

theorem nat_text_head (n : Nat) : ∃ c, (toString n).toList.head? = some c ∧ c.isDigit = true := by
  have h : (toString n).toList = Nat.toDigits 10 n := by
    simp [Nat.toString_eq_repr, Nat.repr]
  cases hd : Nat.toDigits 10 n with
  | nil => exact absurd hd Nat.toDigits_ne_nil
  | cons c cs =>
    exact ⟨c, by rw [h, hd]; rfl,
      Nat.isDigit_of_mem_toDigits (by decide) (by decide) (hd ▸ List.mem_cons_self)⟩

theorem int_text_head (n : Int) :
    ∃ c, (toString n).toList.head? = some c ∧ (c = '-' ∨ c.isDigit = true) := by
  cases n with
  | ofNat m =>
    obtain ⟨c, h, hc⟩ := nat_text_head m
    exact ⟨c, by simpa [Int.repr] using h, .inr hc⟩
  | negSucc m => exact ⟨'-', by simp [toString, Int.repr], .inl rfl⟩

open Decimal in
/-- Every layout of a float's digits starts with a digit. -/
theorem scientificText_head (sc : Scientific) :
    ∃ c, (scientificText sc).toList.head? = some c ∧ c.isDigit = true := by
  obtain ⟨d, hds, hd⟩ := nat_text_head sc.digits
  obtain ⟨ds, hds⟩ : ∃ ds, (toString sc.digits).toList = d :: ds := by
    cases ht : (toString sc.digits).toList with
    | nil => rw [ht] at hds; cases hds
    | cons e ds => rw [ht] at hds; cases hds; exact ⟨ds, rfl⟩
  unfold scientificText
  simp only
  split
  · exact ⟨d, by simp only [String.toList_append, hds, List.head?_append, List.head?_cons,
      Option.some_or], hd⟩
  split
  · rename_i h
    -- the point stands after at least one digit
    obtain ⟨k, hk⟩ : ∃ k, ((toString sc.digits).length + sc.exponent).toNat = k + 1 := by
      simp only [Bool.and_eq_true, decide_eq_true_eq] at h
      exact ⟨((toString sc.digits).length + sc.exponent).toNat - 1, by omega⟩
    exact ⟨d, by simp only [String.toList_append, String.toList_ofList, hds, hk, List.take_succ_cons,
      List.head?_append, List.head?_cons, Option.some_or], hd⟩
  split
  · exact ⟨'0', by simp [String.toList_append], rfl⟩
  split
  · exact ⟨d, by simp only [String.toList_append, hds, List.head?_append, List.head?_cons,
      Option.some_or], hd⟩
  · exact ⟨d, by simp only [String.toList_append, String.toList_ofList, hds, List.take_succ_cons,
      List.head?_append, List.head?_cons, Option.some_or], hd⟩

theorem floatText_head (bits : UInt64) :
    ∃ c, (floatText bits).toList.head? = some c ∧ (c = '-' ∨ c.isDigit = true ∨ c = 'n') := by
  unfold floatText
  split
  · exact ⟨'n', by simp, .inr (.inr rfl)⟩
  · rename_i v _
    simp only
    by_cases hneg : v.negative = true
    · split <;> exact ⟨'-', by simp [String.toList_append], .inl rfl⟩
    · split
      · exact ⟨'0', by simp, .inr (.inl rfl)⟩
      · obtain ⟨c, h, hc⟩ := scientificText_head (Decimal.Binary64.shortest v)
        exact ⟨c, by simpa [hneg, String.toList_append] using h, .inr (.inl hc)⟩

/-- A number is written starting with a minus sign, a digit, or the `n` of `null`: neither a
blank nor a closing bracket. -/
theorem Number.text_opens (x : Number) :
    ∃ b tail, bytes x.text = b :: tail ∧ isBlank b = false ∧ b ≠ 0x5D := by
  obtain ⟨c, hhead, hc⟩ : ∃ c, x.text.toList.head? = some c ∧
      (c = '-' ∨ c.isDigit = true ∨ c = 'n') := by
    cases x with
    | nat n =>
      obtain ⟨c, h, hc⟩ := nat_text_head n
      exact ⟨c, h, .inr (.inl hc)⟩
    | neg n =>
      obtain ⟨c, h, hc⟩ := int_text_head n
      exact ⟨c, h, hc.elim .inl (fun hd => .inr (.inl hd))⟩
    | float bits => exact floatText_head bits
  -- each of those characters has a code between the blanks and the closing bracket, or above it
  have hcode : 0x20 < c.toNat ∧ c.toNat < 0x80 ∧ c.toNat ≠ 0x5D := by
    rcases hc with rfl | hd | rfl
    · decide
    · simp only [Char.isDigit, Bool.and_eq_true, decide_eq_true_eq] at hd
      have hlo : 48 ≤ c.toNat := hd.1
      have hhi : c.toNat ≤ 57 := hd.2
      omega
    · decide
  obtain ⟨tail, htail⟩ := bytes_head hhead hcode.2.1
  have hbyte : (c.toNat.toUInt8).toNat = c.toNat := by
    rw [Nat.toUInt8, UInt8.toNat_ofNat']
    omega
  refine ⟨_, tail, htail, isBlank_of_gt (by omega), fun e => hcode.2.2 ?_⟩
  rw [← hbyte, e]
  rfl

theorem bytes_compact_arr (xs : List Value) :
    bytes (Value.arr xs).compact = 0x5B :: joined (fun x => bytes x.compact) xs ++ [0x5D] := by
  have hleft : bytes "[" = [0x5B] := by decide
  have hright : bytes "]" = [0x5D] := by decide
  rw [Value.compact, bytes_append, bytes_append, bytes_compactItems, hleft, hright]
  rfl

theorem bytes_compact_obj (ms : List (String × Value)) :
    bytes (Value.obj ms).compact = 0x7B :: joined (member (fun x => bytes x.compact)) ms ++ [0x7D] := by
  have hopen : bytes "\x7b" = [0x7B] := by decide
  have hclose : bytes "\x7d" = [0x7D] := by decide
  rw [Value.compact, bytes_append, bytes_append, bytes_compactMembers, hopen, hclose]
  rfl

/-- Every written value starts with a byte that is neither blank nor a closing bracket. -/
theorem opens_compact (xs : List Value) : Opens (fun x => bytes x.compact) xs := by
  intro v _
  cases v with
  | null => exact ⟨0x6E, [0x75, 0x6C, 0x6C], by simp only [Value.compact]; decide, rfl, by decide⟩
  | bool b =>
    cases b with
    | false =>
      exact ⟨0x66, [0x61, 0x6C, 0x73, 0x65],
        by simp only [Value.compact, Bool.false_eq_true, if_false]; decide, rfl, by decide⟩
    | true => exact ⟨0x74, [0x72, 0x75, 0x65], by simp only [Value.compact, if_true]; decide, rfl, by decide⟩
  | num x =>
    obtain ⟨b, tail, h, hb, hc⟩ := Number.text_opens x
    exact ⟨b, tail, by simp only [Value.compact]; exact h, hb, hc⟩
  | str t =>
    obtain ⟨tail, h⟩ := quote_head t
    exact ⟨0x22, tail, by simp only [Value.compact]; exact h, rfl, by decide⟩
  | arr xs => exact ⟨0x5B, _, bytes_compact_arr xs, rfl, by decide⟩
  | obj ms => exact ⟨0x7B, _, bytes_compact_obj ms, rfl, by decide⟩

/-! ## Reading written values -/

/-- What follows a value written inside a list or an object: a comma, or a closing bracket or
brace. A number is read up to such a byte only, so the end of the text does not do. -/
def EndsValue (rest : List UInt8) : Prop := ∃ b ∈ rest.head?, b = 0x2C ∨ b = 0x5D ∨ b = 0x7D

theorem endsValue_cons {b : UInt8} (hb : b = 0x2C ∨ b = 0x5D ∨ b = 0x7D) (t : List UInt8) :
    EndsValue (b :: t) :=
  ⟨b, rfl, hb⟩

/-- Inside an object a value is followed by a comma or the closing brace. -/
theorem endsValue_members (t : List UInt8) : EndsValue (0x2C :: t) ∧ EndsValue (0x7D :: t) :=
  ⟨endsValue_cons (.inl rfl) t, endsValue_cons (.inr (.inr rfl)) t⟩

/-- After the items of a list or the members of an object, each behind a comma, comes a comma
or the closing bracket or brace. -/
theorem endsValue_after {α : Type} (w : α → List UInt8) (xs : List α) {c : UInt8}
    (hc : c = 0x5D ∨ c = 0x7D) (rest : List UInt8) :
    EndsValue (xs.flatMap (fun y => 0x2C :: w y) ++ c :: rest) := by
  cases xs with
  | nil => exact endsValue_cons (.inr hc) rest
  | cons y ys => exact endsValue_cons (.inl rfl) _

/-- The number's text is read back as the number, wherever it stands and whatever ends it. -/
def Number.ReadsBack (x : Number) : Prop :=
  ∀ (s : ByteArray) (i fuel depth : Nat) (rest : List UInt8), bytes x.text ++ rest <+: unread s i →
    EndsValue rest → readRaw s false (fuel + 1) depth i = .ok (.num x, i + (bytes x.text).length)

section Raw

variable {s : ByteArray} {i : Nat} {rest : List UInt8}

theorem readIdent_of_unread {bs : List UInt8} :
    ∀ {i : Nat}, bs ++ rest <+: unread s i → readIdent s i bs = .ok (i + bs.length) := by
  induction bs with
  | nil => intro i _; rfl
  | cons b bs ih =>
    intro i h
    rw [readIdent, byteAt_of_unread h]
    simp only [beq_self_eq_true, if_true]
    rw [ih (unread_succ h)]
    simp only [List.length_cons]
    congr 1
    omega

/-- Reading the value written as `v` where it stands, followed by the end of a value. -/
def ReadsRaw (s : ByteArray) (fuel depth : Nat) (v : Value) : Prop :=
  ∀ i rest, bytes v.compact ++ rest <+: unread s i → EndsValue rest →
    readRaw s false fuel depth i = .ok (v, i + (bytes v.compact).length)

theorem rawItems_after_first {fuel depth : Nat} {xs : List Value}
    (hall : ∀ x ∈ xs, ReadsRaw s fuel depth x) :
    ∀ {count k : Nat} {acc : List Value}, xs.length < count →
      xs.flatMap (fun y => 0x2C :: bytes y.compact) ++ 0x5D :: rest <+: unread s k →
      readItems s (readRaw s false fuel depth) count k false acc =
        .ok (.arr (acc.reverse ++ xs), k + (xs.flatMap (fun y => 0x2C :: bytes y.compact)).length) := by
  induction xs with
  | nil =>
    intro count k acc hcount h
    obtain ⟨count, rfl⟩ : ∃ c, count = c + 1 := ⟨count - 1, by simp at hcount; omega⟩
    rw [readItems, nextItem_close h]
    simp
  | cons x xs ih =>
    intro count k acc hcount h
    obtain ⟨count, rfl⟩ : ∃ c, count = c + 1 := ⟨count - 1, by simp at hcount; omega⟩
    obtain ⟨b, tail, hw, hb, hclose⟩ := opens_compact [x] x List.mem_cons_self
    simp only at hw
    rw [List.flatMap_cons, List.append_assoc] at h
    have hx : bytes x.compact ++ (xs.flatMap (fun y => 0x2C :: bytes y.compact) ++ 0x5D :: rest) <+:
        unread s (k + 1) := unread_succ (by simpa using h)
    have hnext : nextItem s k false = .ok (some (k + 1), k + 1) := by
      rw [hw] at h
      exact nextItem_comma (by simpa using h) hb hclose
    rw [readItems, hnext]
    simp only
    rw [hall x List.mem_cons_self _ _ hx (endsValue_after _ xs (.inl rfl) rest)]
    simp only
    rw [ih (fun y hy => hall y (List.mem_cons_of_mem _ hy)) (by simp at hcount; omega)
      (unread_append hx)]
    simp
    omega

theorem rawMembers_after_first {fuel depth : Nat} {ms : List (String × Value)}
    (hall : ∀ m ∈ ms, ReadsRaw s fuel depth m.2) :
    ∀ {count k : Nat} {acc : List (String × Value)}, ms.length < count →
      ms.flatMap (fun m => 0x2C :: member (fun x => bytes x.compact) m) ++ 0x7D :: rest <+:
        unread s k →
      readMembers s false (readRaw s false fuel depth) count k false acc =
        .ok (.obj (acc.reverse ++ ms),
          k + (ms.flatMap (fun m => 0x2C :: member (fun x => bytes x.compact) m)).length) := by
  induction ms with
  | nil =>
    intro count k acc hcount h
    obtain ⟨count, rfl⟩ : ∃ c, count = c + 1 := ⟨count - 1, by simp at hcount; omega⟩
    rw [readMembers, nextKey_close h]
    simp
  | cons m ms ih =>
    intro count k acc hcount h
    obtain ⟨count, rfl⟩ : ∃ c, count = c + 1 := ⟨count - 1, by simp at hcount; omega⟩
    rw [List.flatMap_cons, List.append_assoc] at h
    have hm : member (fun x => bytes x.compact) m ++
        (ms.flatMap (fun m => 0x2C :: member (fun x => bytes x.compact) m) ++ 0x7D :: rest) <+:
        unread s (k + 1) := unread_succ (by simpa using h)
    have hnext : nextKey s k false = .ok (some (k + 1), k + 1) := by
      obtain ⟨tail, htail⟩ := quote_head m.1
      rw [member, htail] at h
      exact nextKey_comma (by simpa using h)
    obtain ⟨hkey, hcolon, hvalue⟩ := readMember hm
      (fun i hv => hall m List.mem_cons_self i _ hv (endsValue_after _ ms (.inr rfl) rest))
    rw [readMembers, hnext]
    simp only [hkey, hcolon, hvalue]
    rw [ih (fun y hy => hall y (List.mem_cons_of_mem _ hy)) (by simp at hcount; omega)
      (unread_append hm)]
    simp
    omega

/-- A word of the grammar, written after its first byte `b`, is read as its value. -/
theorem readRaw_word {fuel depth : Nat} {b : UInt8} {word : List UInt8} {v : Value}
    (h : b :: word ++ rest <+: unread s i) (hb : isBlank b = false)
    (hstep : ∀ j, j = skipBlank s i → byteAt s j = some b →
      readRaw s false (fuel + 1) depth i = (readIdent s (j + 1) word).map (fun k => (v, k))) :
    readRaw s false (fuel + 1) depth i = .ok (v, i + (b :: word).length) := by
  have hj := skipBlank_of_unread h hb
  rw [hstep i hj.symm (byteAt_of_unread h), readIdent_of_unread (unread_succ h)]
  simp only [Except.map, List.length_cons]
  congr 2
  omega

theorem readRaw_null {fuel depth : Nat} (h : bytes (Value.compact .null) ++ rest <+: unread s i) :
    readRaw s false (fuel + 1) depth i = .ok (.null, i + (bytes (Value.compact .null)).length) := by
  have hb : bytes (Value.compact .null) = 0x6E :: bytesOf "ull" := by
    simp only [Value.compact]
    decide +kernel
  rw [hb] at h ⊢
  refine readRaw_word h rfl (fun j hj hat => ?_)
  rw [readRaw, ← hj]
  simp only [hat, beq_self_eq_true, if_true]

theorem readRaw_bool {fuel depth : Nat} {c : Bool} (h : bytes (Value.compact (.bool c)) ++ rest <+: unread s i) :
    readRaw s false (fuel + 1) depth i = .ok (.bool c, i + (bytes (Value.compact (.bool c))).length) := by
  cases c with
  | true =>
    have hb : bytes (Value.compact (.bool true)) = 0x74 :: bytesOf "rue" := by
      simp only [Value.compact, if_true]
      decide +kernel
    rw [hb] at h ⊢
    refine readRaw_word h rfl (fun j hj hat => ?_)
    rw [readRaw, ← hj]
    simp [hat]
  | false =>
    have hb : bytes (Value.compact (.bool false)) = 0x66 :: bytesOf "alse" := by
      simp only [Value.compact, Bool.false_eq_true, if_false]
      decide +kernel
    rw [hb] at h ⊢
    refine readRaw_word h rfl (fun j hj hat => ?_)
    rw [readRaw, ← hj]
    simp [hat]

theorem readRaw_str {fuel depth : Nat} {t : String} (h : bytes (quote t) ++ rest <+: unread s i) :
    readRaw s false (fuel + 1) depth i = .ok (.str t, i + (bytes (quote t)).length) := by
  obtain ⟨tail, htail⟩ := quote_head t
  have h' := h
  rw [htail] at h'
  rw [readRaw, skipBlank_of_unread h' rfl]
  simp only [byteAt_of_unread h']
  simp [isDigit, readString_quote h]
  rfl

theorem readRaw_list {fuel depth : Nat} {bs : List UInt8} (h : 0x5B :: bs <+: unread s i)
    (hdepth : 1 < depth) :
    readRaw s false (fuel + 1) depth i =
      closeWith s endList (readItems s (readRaw s false fuel (depth - 1)) (s.size + 1) (i + 1) true []) := by
  rw [readRaw, skipBlank_of_unread h rfl]
  simp only [byteAt_of_unread h]
  simp [isDigit, Nat.not_le.mpr hdepth]

theorem readRaw_object {fuel depth : Nat} {bs : List UInt8} (h : 0x7B :: bs <+: unread s i)
    (hdepth : 1 < depth) :
    readRaw s false (fuel + 1) depth i =
      closeWith s endObject (readMembers s false (readRaw s false fuel (depth - 1)) (s.size + 1) (i + 1) true []) := by
  rw [readRaw, skipBlank_of_unread h rfl]
  simp only [byteAt_of_unread h]
  simp [isDigit, Nat.not_le.mpr hdepth]

theorem length_le_joined {α : Type} (w : α → List UInt8) {xs : List α} {x : α} (hx : x ∈ xs) :
    (w x).length ≤ (joined w xs).length := by
  cases xs with
  | nil => cases hx
  | cons y ys =>
    rw [joined, List.length_append]
    rcases List.mem_cons.mp hx with rfl | hy
    · omega
    · have hsub : List.Sublist (0x2C :: w x) (ys.flatMap (fun y => 0x2C :: w y)) :=
        List.sublist_flatten_of_mem (List.mem_map_of_mem hy)
      have := hsub.length_le
      simp only [List.length_cons] at this
      omega

/-- A list whose items are read back where they stand, one level down, is read back. -/
theorem readsRaw_arr {fuel depth : Nat} {xs : List Value}
    (hitems : ∀ x ∈ xs, ReadsRaw s fuel (depth - 1) x) (hdepth : 1 < depth) :
    ReadsRaw s (fuel + 1) depth (.arr xs) := by
  intro i rest h hend
  rw [bytes_compact_arr] at h ⊢
  simp only [List.cons_append, List.append_assoc, List.nil_append] at h
  have hbody := unread_succ h
  have hsize := length_le_of_unread hbody
  rw [readRaw_list h hdepth]
  cases xs with
  | nil =>
    rw [readItems, nextItem_close hbody]
    simp only
    rw [closeWith_endList hbody]
    simp [joined]
  | cons x xs =>
    obtain ⟨b, tail, hw, hb, hclose⟩ := opens_compact [x] x List.mem_cons_self
    simp only at hw
    simp only [joined, List.append_assoc] at hbody hsize ⊢
    have hfirst : nextItem s (i + 1) true = .ok (some (i + 1), i + 1) := by
      rw [hw] at hbody
      exact nextItem_first hbody hb hclose
    have hcount := length_le_flatMap_cons 0x2C (fun x => bytes x.compact) xs
    simp only [List.length_append, List.length_cons] at hsize
    rw [readItems, hfirst]
    simp only
    rw [hitems x List.mem_cons_self _ _ hbody (endsValue_after _ xs (.inl rfl) rest)]
    simp only
    rw [rawItems_after_first (fun y hy => hitems y (List.mem_cons_of_mem _ hy)) (by omega)
      (unread_append hbody)]
    rw [closeWith_endList (unread_append (unread_append hbody))]
    simp only [List.reverse_singleton, List.singleton_append, List.length_append, List.length_cons,
      List.length_nil]
    congr 2
    omega

/-- An object whose members' values are read back where they stand, one level down, is read
back. -/
theorem readsRaw_obj {fuel depth : Nat} {ms : List (String × Value)}
    (hmembers : ∀ m ∈ ms, ReadsRaw s fuel (depth - 1) m.2) (hdepth : 1 < depth) :
    ReadsRaw s (fuel + 1) depth (.obj ms) := by
  intro i rest h hend
  rw [bytes_compact_obj] at h ⊢
  simp only [List.cons_append, List.append_assoc, List.nil_append] at h
  have hbody := unread_succ h
  have hsize := length_le_of_unread hbody
  rw [readRaw_object h hdepth]
  cases ms with
  | nil =>
    rw [readMembers, nextKey_close hbody]
    simp only
    rw [closeWith_endObject hbody]
    simp [joined]
  | cons m ms =>
    simp only [joined, List.append_assoc] at hbody hsize ⊢
    have hfirst : nextKey s (i + 1) true = .ok (some (i + 1), i + 1) := by
      obtain ⟨tail, htail⟩ := quote_head m.1
      rw [member, htail] at hbody
      exact nextKey_first (by simpa using hbody)
    obtain ⟨hkey, hcolon, hvalue⟩ := readMember hbody
      (fun i hv => hmembers m List.mem_cons_self i _ hv (endsValue_after _ ms (.inr rfl) rest))
    have hcount := length_le_flatMap_cons 0x2C (member (fun x => bytes x.compact)) ms
    simp only [List.length_append, List.length_cons] at hsize
    rw [readMembers, hfirst]
    simp only [hkey, hcolon, hvalue]
    rw [rawMembers_after_first (fun y hy => hmembers y (List.mem_cons_of_mem _ hy)) (by omega)
      (unread_append hbody)]
    rw [closeWith_endObject (unread_append (unread_append hbody))]
    simp only [List.reverse_singleton, List.singleton_append, List.length_append, List.length_cons,
      List.length_nil]
    congr 2
    omega

/-- A value in read form nested at most `n` levels, whose numbers read back, is read back from
its compact text wherever it stands: the reader needs a step of fuel for each byte and a depth
above `n`. -/
theorem readRaw_compact {n : Nat} {v : Value} (hv : v.ReadForm n)
    (hnum : v.AllNumbers Number.ReadsBack) :
    ∀ {fuel depth : Nat}, (bytes v.compact).length ≤ fuel → n < depth →
      ReadsRaw s (fuel + 1) depth v := by
  induction hv with
  | null => intro _ _ _ _ i rest h _; exact readRaw_null h
  | bool => intro _ _ _ _ i rest h _; exact readRaw_bool h
  | num =>
    intro fuel depth _ _ i rest h hend
    cases hnum with
    | num hx => exact hx s i fuel depth rest h hend
  | str =>
    intro _ _ _ _ i rest h _
    simp only [Value.compact] at h ⊢
    exact readRaw_str h
  | @arr n xs _ ih =>
    intro fuel depth hfuel hdepth
    rw [bytes_compact_arr] at hfuel
    simp only [List.length_cons, List.length_append, List.length_nil] at hfuel
    obtain ⟨f, rfl⟩ : ∃ f, fuel = f + 1 := ⟨fuel - 1, by omega⟩
    -- each item is shorter than the list's text and nests one level less
    have hnums : ∀ x ∈ xs, x.AllNumbers Number.ReadsBack := by cases hnum with | arr h => exact h
    refine readsRaw_arr (fun x hx => ih x hx (hnums x hx) ?_ (by omega)) (by omega)
    have := length_le_joined (fun x => bytes x.compact) hx
    omega
  | @obj n ms _ _ ih =>
    intro fuel depth hfuel hdepth
    rw [bytes_compact_obj] at hfuel
    simp only [List.length_cons, List.length_append, List.length_nil] at hfuel
    obtain ⟨f, rfl⟩ : ∃ f, fuel = f + 1 := ⟨fuel - 1, by omega⟩
    -- each member's value is shorter than the object's text and nests one level less
    have hnums : ∀ m ∈ ms, m.2.AllNumbers Number.ReadsBack := by cases hnum with | obj h => exact h
    refine readsRaw_obj (fun m hm => ih m hm (hnums m hm) ?_ (by omega)) (by omega)
    have := length_le_joined (member (fun x => bytes x.compact)) hm
    simp only [member, List.length_append, List.length_cons] at this
    omega

end Raw

/-! ## The form of values read -/

section Forms

variable {s : ByteArray}

theorem closeWith_ok {α : Type} {close : ByteArray → Nat → Nat × Option Failure} {body : Reading α}
    {a : α} {j : Nat} (h : closeWith s close body = .ok (a, j)) : ∃ k, body = .ok (a, k) := by
  unfold closeWith at h
  split at h
  · split at h
    · cases h
      exact ⟨_, rfl⟩
    · cases h
  · cases h
  · cases h

theorem except_map_ok {ε β γ : Type} {r : Except ε β} {f : β → γ} {c : γ} (h : r.map f = .ok c) :
    ∃ b, f b = c := by
  cases r with
  | error => cases h
  | ok b => exact ⟨b, by simpa [Except.map] using h⟩

theorem num_of_map_ok {r : Reading Number} {v : Value} {k : Nat}
    (h : r.map (fun r => (Value.num r.1, r.2)) = .ok (v, k)) :
    ∃ x k', r = .ok (x, k') ∧ v = .num x := by
  cases r with
  | error => cases h
  | ok r =>
    obtain ⟨x, k'⟩ := r
    cases h
    exact ⟨x, k', rfl, rfl⟩

/-- What one step of reading gives when it succeeds: a word, a number read as such, a string, or
a list or an object, below the depth bound, whose elements are read one level deeper. -/
theorem readRaw_succ_ok {fuel depth i : Nat} {v : Value} {j : Nat}
    (h : readRaw s false (fuel + 1) depth i = .ok (v, j)) :
    v = .null ∨ (∃ b, v = .bool b) ∨ (∃ t, v = .str t) ∨
      (∃ x k positive k', v = .num x ∧ readNumber s k positive = .ok (x, k')) ∨
      (1 < depth ∧
        ∃ k j', readItems s (readRaw s false fuel (depth - 1)) (s.size + 1) k true [] = .ok (v, j')) ∨
      (1 < depth ∧
        ∃ k j', readMembers s false (readRaw s false fuel (depth - 1)) (s.size + 1) k true [] = .ok (v, j')) := by
  rw [readRaw] at h
  split at h
  · cases h
  -- the first byte decides the kind of value, one test after the other
  split at h
  · obtain ⟨_, hv⟩ := except_map_ok h
    cases hv
    exact .inl rfl
  split at h
  · obtain ⟨_, hv⟩ := except_map_ok h
    cases hv
    exact .inr (.inl ⟨true, rfl⟩)
  split at h
  · obtain ⟨_, hv⟩ := except_map_ok h
    cases hv
    exact .inr (.inl ⟨false, rfl⟩)
  split at h
  · obtain ⟨x, k', hx, rfl⟩ := num_of_map_ok h
    exact .inr (.inr (.inr (.inl ⟨x, _, false, k', rfl, hx⟩)))
  split at h
  · obtain ⟨x, k', hx, rfl⟩ := num_of_map_ok h
    exact .inr (.inr (.inr (.inl ⟨x, _, true, k', rfl, hx⟩)))
  split at h
  · obtain ⟨r, hv⟩ := except_map_ok h
    cases hv
    exact .inr (.inr (.inl ⟨r.1, rfl⟩))
  split at h
  · -- a list, below the depth limit
    split at h
    · cases h
    rename_i hdepth
    obtain ⟨k, hk⟩ := closeWith_ok h
    simp only [Bool.not_false, Bool.true_and, decide_eq_true_eq, not_le] at hdepth
    exact .inr (.inr (.inr (.inr (.inl ⟨hdepth, _, k, hk⟩))))
  split at h
  · -- an object, below the depth limit
    split at h
    · cases h
    rename_i hdepth
    obtain ⟨k, hk⟩ := closeWith_ok h
    simp only [Bool.not_false, Bool.true_and, decide_eq_true_eq, not_le] at hdepth
    exact .inr (.inr (.inr (.inr (.inr ⟨hdepth, _, k, hk⟩))))
  cases h

/-- The items of a list read one by one each hold what reading any one value gives. -/
theorem rawItems_forall {fuel d : Nat} {Q : Value → Prop}
    (hraw : ∀ {i v j}, readRaw s false fuel d i = .ok (v, j) → Q v) :
    ∀ {count k : Nat} {first : Bool} {acc : List Value} {v : Value} {j : Nat},
      (∀ x ∈ acc, Q x) → readItems s (readRaw s false fuel d) count k first acc = .ok (v, j) →
      ∃ xs, v = .arr xs ∧ ∀ x ∈ xs, Q x := by
  intro count
  induction count with
  | zero => intro k first acc v j _ h; rw [readItems] at h; cases h
  | succ count ih =>
    intro k first acc v j hacc h
    rw [readItems] at h
    split at h
    · cases h
    · cases h
      exact ⟨_, rfl, fun x hx => hacc x (List.mem_reverse.mp hx)⟩
    · split at h
      · rename_i hread
        refine ih (fun x hx => ?_) h
        rcases List.mem_cons.mp hx with rfl | hx
        · exact hraw hread
        · exact hacc x hx
      · cases h

/-- The members of an object read one by one each hold what reading any one value gives. -/
theorem rawMembers_forall {fuel d : Nat} {Q : Value → Prop}
    (hraw : ∀ {i v j}, readRaw s false fuel d i = .ok (v, j) → Q v) :
    ∀ {count k : Nat} {first : Bool} {acc : List (String × Value)} {v : Value} {j : Nat},
      (∀ m ∈ acc, Q m.2) → readMembers s false (readRaw s false fuel d) count k first acc = .ok (v, j) →
      ∃ ms, v = .obj ms ∧ ∀ m ∈ ms, Q m.2 := by
  intro count
  induction count with
  | zero => intro k first acc v j _ h; rw [readMembers] at h; cases h
  | succ count ih =>
    intro k first acc v j hacc h
    rw [readMembers] at h
    split at h
    · cases h
    · cases h
      exact ⟨_, rfl, fun m hm => hacc m (List.mem_reverse.mp hm)⟩
    · split at h
      · cases h
      · split at h
        · cases h
        · split at h
          · rename_i hread
            refine ih (fun m hm => ?_) h
            rcases List.mem_cons.mp hm with rfl | hm
            · exact hraw hread
            · exact hacc m hm
          · cases h

/-- A value read strictly at depth `depth` nests fewer than `depth` levels. -/
theorem readRaw_nested :
    ∀ {fuel depth i : Nat} {v : Value} {j : Nat}, readRaw s false fuel depth i = .ok (v, j) →
      v.Nested (fun _ => True) (depth - 1) := by
  intro fuel
  induction fuel with
  | zero => intro depth i v j h; rw [readRaw] at h; cases h
  | succ fuel ih =>
    intro depth i v j h
    -- a list or an object reads its elements one level deeper, after checking the depth
    have hinner : ∀ {i v j}, readRaw s false fuel (depth - 1) i = .ok (v, j) →
        v.Nested (fun _ => True) (depth - 1 - 1) := ih
    rcases readRaw_succ_ok h with rfl | ⟨_, rfl⟩ | ⟨_, rfl⟩ | ⟨_, _, _, _, rfl, _⟩ |
        ⟨hdepth, _, _, hk⟩ | ⟨hdepth, _, _, hk⟩
    · exact .null
    · exact .bool
    · exact .str
    · exact .num
    · obtain ⟨xs, rfl, hxs⟩ := rawItems_forall hinner (fun _ h => absurd h List.not_mem_nil) hk
      rw [show depth - 1 = depth - 1 - 1 + 1 by omega]
      exact .arr hxs
    · obtain ⟨ms, rfl, hms⟩ := rawMembers_forall hinner (fun _ h => absurd h List.not_mem_nil) hk
      rw [show depth - 1 = depth - 1 - 1 + 1 by omega]
      exact .obj trivial hms

theorem normalizeItems_eq_map (xs : List Value) : Value.normalizeItems xs = xs.map Value.normalize := by
  induction xs with
  | nil => rfl
  | cons x xs ih => rw [Value.normalizeItems, ih, List.map_cons]

theorem normalizeMembers_eq_map (ms : List (String × Value)) :
    Value.normalizeMembers ms = ms.map (fun m => (m.1, m.2.normalize)) := by
  induction ms with
  | nil => rfl
  | cons m ms ih => rw [Value.normalizeMembers, ih, List.map_cons]

/-- A member of a normalized object is a member of the object, its value normalized. -/
theorem mem_sortMembers_normalize {ms : List (String × Value)} {m : String × Value}
    (hm : m ∈ Value.sortMembers (ms.map (fun m => (m.1, m.2.normalize)))) :
    ∃ m' ∈ ms, m = (m'.1, m'.2.normalize) := by
  rcases Table.mem_foldl_insert _ Table.empty hm with hm | hm
  · cases hm
  · obtain ⟨m', hm', rfl⟩ := List.mem_map.mp hm
    exact ⟨m', hm', rfl⟩

/-- Normalizing a value sorts its objects and keeps its nesting. -/
theorem readForm_normalize {n : Nat} {v : Value} (h : v.Nested (fun _ => True) n) :
    v.normalize.ReadForm n := by
  induction h with
  | null | bool | num | str => simp only [Value.normalize]; constructor
  | arr _ ih =>
    rw [Value.normalize, normalizeItems_eq_map]
    exact .arr (fun x hx => by
      obtain ⟨y, hy, rfl⟩ := List.mem_map.mp hx
      exact ih y hy)
  | obj _ _ ih =>
    rw [Value.normalize, normalizeMembers_eq_map]
    refine .obj (sortMembers_sorted _) (fun m hm => ?_)
    obtain ⟨m', hm', rfl⟩ := mem_sortMembers_normalize hm
    exact ih m' hm'

/-- Normalizing a value keeps its numbers. -/
theorem allNumbers_normalize {P : Number → Prop} {v : Value} (h : v.AllNumbers P) :
    v.normalize.AllNumbers P := by
  induction h with
  | null | bool | str => simp only [Value.normalize]; constructor
  | num hx => exact .num hx
  | arr _ ih =>
    rw [Value.normalize, normalizeItems_eq_map]
    exact .arr (fun x hx => by
      obtain ⟨y, hy, rfl⟩ := List.mem_map.mp hx
      exact ih y hy)
  | obj _ ih =>
    rw [Value.normalize, normalizeMembers_eq_map]
    refine .obj (fun m hm => ?_)
    obtain ⟨m', hm', rfl⟩ := mem_sortMembers_normalize hm
    exact ih m' hm'

end Forms

end Json
end TestTransform
