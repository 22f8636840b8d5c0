import TestTransform.Json.Shape
import TestTransform.Json.Write

/-
Reading back a quoted string.

The reader goes through a text byte by byte; here a position is seen through the bytes that
are still unread there, and a reader given a position where the written bytes of a value stand
(followed by anything) is shown to read exactly those bytes. The main statement is
`readString_quote`: at the opening quote of `quote t`, reading a string gives back `t` and
stands just past the closing quote, whatever characters `t` holds. Each character is written
in one of three forms (`escapedBytes_cases`): a backslash and a letter, a `\u` escape of a
control character, or its own UTF-8 bytes, none of which is a control byte, a quote or a
backslash. The reader spends at most one step of its fuel on each byte, so the fuel it is
given, one more than the size of the text, is never exhausted.
-/

namespace TestTransform
namespace Json

/-! ## Positions in a text -/

/-- The bytes of `s` from `i` on. -/
def unread (s : ByteArray) (i : Nat) : List UInt8 := s.data.toList.drop i

theorem byteAt_eq_head? (s : ByteArray) (i : Nat) : byteAt s i = (unread s i).head? := by
  unfold byteAt unread
  split
  · next h => simp [ByteArray.getElem_eq_getElem_data, h]
  · next h => simp; omega

theorem byteAt_of_unread {s : ByteArray} {i : Nat} {b : UInt8} {bs : List UInt8}
    (h : b :: bs <+: unread s i) : byteAt s i = some b := by
  obtain ⟨t, ht⟩ := h
  rw [byteAt_eq_head?, ← ht]
  rfl

theorem unread_succ {s : ByteArray} {i : Nat} {b : UInt8} {bs : List UInt8}
    (h : b :: bs <+: unread s i) : bs <+: unread s (i + 1) := by
  obtain ⟨t, ht⟩ := h
  refine ⟨t, ?_⟩
  have : unread s (i + 1) = (unread s i).tail := by simp [unread, List.tail_drop]
  rw [this, ← ht]
  rfl

theorem unread_append {s : ByteArray} {i : Nat} {xs ys : List UInt8}
    (h : xs ++ ys <+: unread s i) : ys <+: unread s (i + xs.length) := by
  obtain ⟨t, ht⟩ := h
  refine ⟨t, ?_⟩
  have : unread s (i + xs.length) = (unread s i).drop xs.length := by
    simp [unread, List.drop_drop]
  rw [this, ← ht]
  simp

theorem length_le_of_unread {s : ByteArray} {i : Nat} {xs : List UInt8}
    (h : xs <+: unread s i) : xs.length ≤ s.size - i := by
  have := h.length_le
  simp [unread] at this
  omega

theorem skipBlank_of_unread {s : ByteArray} {i : Nat} {b : UInt8} {bs : List UInt8}
    (h : b :: bs <+: unread s i) (hb : isBlank b = false) : skipBlank s i = i := by
  have hat := byteAt_of_unread h
  unfold byteAt at hat
  rw [skipBlank]
  split
  · next hi =>
    simp only [hi, dif_pos, Option.some.injEq] at hat
    rw [hat, hb]
    rfl
  · rfl

/-! ## String bodies -/

/-- A byte a string body holds as itself: no control byte, quote or backslash. -/
def Plain (b : UInt8) : Prop := 0x20 ≤ b.toNat ∧ b.toNat ≠ 0x22 ∧ b.toNat ≠ 0x5C

theorem readStringBody_plain {s : ByteArray} {i : Nat} {b : UInt8} {bs : List UInt8}
    (h : b :: bs <+: unread s i) (hb : Plain b) (lenient : Bool) (fuel : Nat) (acc : ByteArray) :
    readStringBody s lenient (fuel + 1) i acc = readStringBody s lenient fuel (i + 1) (acc.push b) := by
  obtain ⟨hc, hq, hs⟩ := hb
  have hq' : (b == 0x22) = false := by
    rw [beq_eq_false_iff_ne]
    rintro rfl
    exact hq rfl
  have hs' : (b == 0x5C) = false := by
    rw [beq_eq_false_iff_ne]
    rintro rfl
    exact hs rfl
  have hc' : ¬ b < 0x20 := by
    rw [UInt8.lt_iff_toNat_lt]
    exact Nat.not_lt.mpr hc
  rw [readStringBody, byteAt_of_unread h]
  simp only [hq', hs', hc', if_false, Bool.false_eq_true]

theorem readStringBody_plains {s : ByteArray} {lenient : Bool} {rest : List UInt8}
    {bs : List UInt8} (hp : ∀ b ∈ bs, Plain b) :
    ∀ {i fuel : Nat} {acc : ByteArray}, bs ++ rest <+: unread s i →
      readStringBody s lenient (fuel + bs.length) i acc =
        readStringBody s lenient fuel (i + bs.length) (acc ++ bs.toByteArray) := by
  induction bs with
  | nil => simp
  | cons b bs ih =>
    intro i fuel acc h
    have step := readStringBody_plain h (hp b (List.mem_cons_self ..)) lenient (fuel + bs.length) acc
    have later := @ih (fun b' hb' => hp b' (List.mem_cons_of_mem _ hb')) (i + 1) fuel (acc.push b)
      (unread_succ h)
    rw [List.length_cons, ← Nat.add_assoc, step, later]
    congr 1
    · omega
    · rw [← ByteArray.append_toByteArray_singleton, ByteArray.append_assoc,
        ← List.toByteArray_append]
      rfl

theorem utf8EncodeChar_plain {c : Char} (hq : c ≠ '"') (hs : c ≠ '\\') (hc : 0x20 ≤ c.toNat) :
    ∀ b ∈ String.utf8EncodeChar c, Plain b := by
  have hq' : c.toNat ≠ 0x22 := fun e => hq (Char.toNat_inj.mp e)
  have hs' : c.toNat ≠ 0x5C := fun e => hs (Char.toNat_inj.mp e)
  intro b hb
  unfold String.utf8EncodeChar at hb
  simp only [Char.toNat] at hq' hs' hc
  generalize c.val.toNat = v at hb hq' hs' hc
  dsimp only at hb
  have byte : ∀ x, 32 ≤ x → x < 256 → x ≠ 34 → x ≠ 92 → Plain (UInt8.ofNat x) := by
    intro x h1 h2 h3 h4
    rw [Plain, UInt8.toNat_ofNat_of_lt' h2]
    exact ⟨h1, h3, h4⟩
  split at hb
  · simp only [List.mem_singleton] at hb
    subst hb
    exact byte v hc (by omega) hq' hs'
  split at hb
  · simp only [List.mem_cons, List.not_mem_nil, or_false] at hb
    rcases hb with rfl | rfl <;> exact byte _ (by omega) (by omega) (by omega) (by omega)
  split at hb
  · simp only [List.mem_cons, List.not_mem_nil, or_false] at hb
    rcases hb with rfl | rfl | rfl <;> exact byte _ (by omega) (by omega) (by omega) (by omega)
  · simp only [List.mem_cons, List.not_mem_nil, or_false] at hb
    rcases hb with rfl | rfl | rfl | rfl <;> exact byte _ (by omega) (by omega) (by omega) (by omega)

/-- The bytes written for `c` inside a quoted string. -/
def escapedBytes (c : Char) : List UInt8 := (escapeChar c).flatMap String.utf8EncodeChar

section Body

variable {s : ByteArray} {i : Nat} {rest : List UInt8}

/-- What reading the body of a string does with the bytes written for `c`: some steps of fuel,
no more than there are bytes, take the reader past them and add the bytes of `c`. -/
def ReadsChar (s : ByteArray) (i : Nat) (c : Char) : Prop :=
  ∃ n ≤ (escapedBytes c).length, ∀ fuel acc, readStringBody s false (fuel + n) i acc =
    readStringBody s false fuel (i + (escapedBytes c).length) (acc ++ [c].utf8Encode)

theorem readsChar_escape {c : Char} {e : UInt8} {tail : List UInt8}
    (hc : escapedBytes c = 0x5C :: e :: tail)
    (he : ∀ acc, readEscape s false (i + 1) acc =
      .ok (acc ++ [c].utf8Encode, i + (escapedBytes c).length))
    (h : escapedBytes c ++ rest <+: unread s i) : ReadsChar s i c := by
  refine ⟨1, by simp [hc], fun fuel acc => ?_⟩
  rw [hc] at h
  rw [readStringBody, byteAt_of_unread h]
  simp only [beq_self_eq_true, if_true, he acc]
  rfl

theorem readsChar_named {c : Char} {e d : UInt8} (hc : escapedBytes c = [0x5C, e])
    (hd : [c].utf8Encode = [d].toByteArray)
    (he : ∀ (s : ByteArray) j acc, byteAt s j = some e →
      readEscape s false j acc = .ok (acc.push d, j + 1))
    (h : escapedBytes c ++ rest <+: unread s i) : ReadsChar s i c := by
  refine readsChar_escape hc (fun acc => ?_) h
  rw [hd, ByteArray.append_toByteArray_singleton, hc]
  rw [hc] at h
  exact he s (i + 1) acc (byteAt_of_unread (unread_succ h))

theorem readsChar_plain {c : Char} (hc : escapedBytes c = String.utf8EncodeChar c)
    (hq : c ≠ '"') (hs : c ≠ '\\') (hge : 0x20 ≤ c.toNat)
    (h : escapedBytes c ++ rest <+: unread s i) : ReadsChar s i c := by
  refine ⟨(escapedBytes c).length, Nat.le_refl _, fun fuel acc => ?_⟩
  rw [hc] at h ⊢
  rw [readStringBody_plains (utf8EncodeChar_plain hq hs hge) h, List.utf8Encode_singleton]

theorem hexDigit_bytes {k : Nat} (hk : k < 16) :
    ∃ b, String.utf8EncodeChar (hexDigit k) = [b] ∧ hexValue b = some k := by
  have digits : ∀ k, k < 16 → (String.utf8EncodeChar (hexDigit k)).map hexValue = [some k] := by
    decide
  obtain ⟨b, bs, hbs, hb, hrest⟩ := List.map_eq_cons_iff.mp (digits k hk)
  rw [List.map_eq_nil_iff] at hrest
  subst hrest
  exact ⟨b, hbs, hb⟩

theorem readHex4_digits {j : Nat} {b₁ b₂ : UInt8} {d₁ d₂ : Nat}
    (h : [0x30, 0x30, b₁, b₂] ++ rest <+: unread s j) (h₁ : hexValue b₁ = some d₁)
    (h₂ : hexValue b₂ = some d₂) : readHex4 s j = .ok (d₁ * 16 + d₂, j + 4) := by
  have hsize := length_le_of_unread h
  simp only [List.length_append, List.length_cons, List.length_nil] at hsize
  have h0 := byteAt_of_unread h
  have h1 := byteAt_of_unread (unread_succ h)
  have h2 := byteAt_of_unread (unread_succ (unread_succ h))
  have h3 := byteAt_of_unread (unread_succ (unread_succ (unread_succ h)))
  have hzero : hexValue 0x30 = some 0 := by decide
  rw [readHex4, if_neg (by omega)]
  simp only [readHex4.go, h0, h1, h2, h3, Option.bind_some, hzero, h₁, h₂]
  simp

theorem readUnicode_control {j n : Nat} {acc : ByteArray} (hhex : readHex4 s j = .ok (n, j + 4))
    (hn : n < 0x20) : readUnicode s j acc = .ok (pushCodePoint acc n, j + 4) := by
  have hlow : ¬ (0xDC00 ≤ n) := by omega
  have hbelow : n < 0xD800 := by omega
  simp only [readUnicode, hhex, bind, Except.bind, hlow, hbelow, decide_false, decide_true,
    Bool.false_and, Bool.true_or, Bool.false_eq_true, if_false, if_true, pure, Except.pure]

theorem readEscape_unicode {j : Nat} {acc : ByteArray} (hu : byteAt s j = some 0x75) :
    readEscape s false j acc = readUnicode s (j + 1) acc := by
  rw [readEscape, hu]
  rfl

/-- Adding a character's code point adds its bytes. -/
theorem pushCodePoint_toNat (acc : ByteArray) (c : Char) :
    pushCodePoint acc c.toNat = acc ++ [c].utf8Encode := by
  rw [pushCodePoint, Char.ofNat_toNat, String.toUTF8_eq_toByteArray, Char.toString_eq_singleton,
    String.toByteArray_singleton]

theorem readsChar_control {c : Char} (hlt : c.toNat < 0x20)
    (hc : escapedBytes c = [0x5C, 0x75, 0x30, 0x30] ++ String.utf8EncodeChar (hexDigit (c.toNat / 16)) ++
      String.utf8EncodeChar (hexDigit (c.toNat % 16)))
    (h : escapedBytes c ++ rest <+: unread s i) : ReadsChar s i c := by
  obtain ⟨b₁, hb₁, hv₁⟩ := hexDigit_bytes (k := c.toNat / 16) (by omega)
  obtain ⟨b₂, hb₂, hv₂⟩ := hexDigit_bytes (k := c.toNat % 16) (by omega)
  rw [hb₁, hb₂] at hc
  refine readsChar_escape (e := 0x75) hc (fun acc => ?_) h
  rw [hc] at h
  have hu := byteAt_of_unread (unread_succ h)
  have hhex : readHex4 s (i + 1 + 1) = .ok (c.toNat, i + 1 + 1 + 4) := by
    have := readHex4_digits (unread_succ (unread_succ h)) hv₁ hv₂
    rwa [Nat.div_add_mod' c.toNat 16] at this
  rw [readEscape_unicode hu, readUnicode_control hhex hlt, pushCodePoint_toNat, hc]
  rfl

/-- The three forms a character is written in: a backslash and a letter, a `\\u` escape of a
control character, or its own bytes. -/
theorem escapedBytes_cases (c : Char) :
    (∃ e d, escapedBytes c = [0x5C, e] ∧ [c].utf8Encode = [d].toByteArray ∧
      ∀ (s : ByteArray) j acc, byteAt s j = some e →
        readEscape s false j acc = .ok (acc.push d, j + 1)) ∨
    (c.toNat < 0x20 ∧ escapedBytes c = [0x5C, 0x75, 0x30, 0x30] ++
      String.utf8EncodeChar (hexDigit (c.toNat / 16)) ++
      String.utf8EncodeChar (hexDigit (c.toNat % 16))) ∨
    (escapedBytes c = String.utf8EncodeChar c ∧ c ≠ '"' ∧ c ≠ '\\' ∧ 0x20 ≤ c.toNat) := by
  unfold escapedBytes escapeChar
  split
  next => exact .inl ⟨0x22, 0x22, rfl, by decide, fun s j acc hb => by rw [readEscape, hb]; rfl⟩
  next => exact .inl ⟨0x5C, 0x5C, rfl, by decide, fun s j acc hb => by rw [readEscape, hb]; rfl⟩
  next => exact .inl ⟨0x6E, 0x0A, rfl, by decide, fun s j acc hb => by rw [readEscape, hb]; rfl⟩
  next => exact .inl ⟨0x72, 0x0D, rfl, by decide, fun s j acc hb => by rw [readEscape, hb]; rfl⟩
  next => exact .inl ⟨0x74, 0x09, rfl, by decide, fun s j acc hb => by rw [readEscape, hb]; rfl⟩
  next => exact .inl ⟨0x62, 0x08, rfl, by decide, fun s j acc hb => by rw [readEscape, hb]; rfl⟩
  next => exact .inl ⟨0x66, 0x0C, rfl, by decide, fun s j acc hb => by rw [readEscape, hb]; rfl⟩
  next _ hq hs _ _ _ _ _ =>
    split
    · next hlt =>
      refine .inr (.inl ⟨hlt, ?_⟩)
      simp only [List.flatMap_cons, List.flatMap_nil, List.append_nil, List.append_assoc]
      rfl
    · next hge => exact .inr (.inr ⟨by simp, hq, hs, by omega⟩)

theorem readsChar (c : Char) (h : escapedBytes c ++ rest <+: unread s i) : ReadsChar s i c := by
  rcases escapedBytes_cases c with ⟨e, d, hc, hd, he⟩ | ⟨hlt, hc⟩ | ⟨hc, hq, hs, hge⟩
  · exact readsChar_named hc hd he h
  · exact readsChar_control hlt hc h
  · exact readsChar_plain hc hq hs hge h

theorem readStringBody_chars {cs : List Char} :
    ∀ {i : Nat}, cs.flatMap escapedBytes ++ rest <+: unread s i →
      ∃ n ≤ (cs.flatMap escapedBytes).length, ∀ fuel acc,
        readStringBody s false (fuel + n) i acc =
          readStringBody s false fuel (i + (cs.flatMap escapedBytes).length) (acc ++ cs.utf8Encode) := by
  induction cs with
  | nil =>
    intro i _
    exact ⟨0, Nat.le_refl _, fun fuel acc => by simp [ByteArray.append_empty]⟩
  | cons c cs ih =>
    intro i h
    rw [List.flatMap_cons, List.append_assoc] at h
    obtain ⟨n₁, hn₁, hc⟩ := readsChar c h
    obtain ⟨n₂, hn₂, hcs⟩ := ih (unread_append h)
    refine ⟨n₂ + n₁, by simp only [List.flatMap_cons, List.length_append]; omega, fun fuel acc => ?_⟩
    rw [← Nat.add_assoc, hc, hcs, List.utf8Encode_cons (c := c) (l := cs), ← ByteArray.append_assoc,
      List.flatMap_cons, List.length_append, Nat.add_assoc]

theorem fromUTF8?_toByteArray (t : String) : String.fromUTF8? t.toByteArray = some t := by
  unfold String.fromUTF8?
  rw [dif_pos t.isValidUTF8]
  rfl

/-- A quoted string is written as a quote, what is written for each character, and a quote. -/
theorem quote_bytes (t : String) :
    (quote t).toUTF8.data.toList = 0x22 :: t.toList.flatMap escapedBytes ++ [0x22] := by
  rw [quote, String.toUTF8_eq_toByteArray, String.toByteArray_ofList, List.utf8Encode,
    List.data_toByteArray, List.toList_toArray]
  simp [List.flatMap_assoc]
  rfl

/-- Reading the string whose opening quote stands at `i` gives back what was quoted. -/
theorem readString_quote {t : String} (h : (quote t).toUTF8.data.toList ++ rest <+: unread s i) :
    readString s (i + 1) false = .ok (t, i + (quote t).toUTF8.data.toList.length) := by
  rw [quote_bytes] at h ⊢
  have hbody : t.toList.flatMap escapedBytes ++ ([0x22] ++ rest) <+: unread s (i + 1) :=
    unread_succ (by simpa using h)
  obtain ⟨n, hn, hread⟩ := readStringBody_chars hbody
  have hsize := length_le_of_unread h
  simp only [List.cons_append, List.length_cons, List.length_append] at hsize
  have hfuel : s.size + 1 = (s.size - n) + 1 + n := by omega
  rw [readString, hfuel, hread, readStringBody, byteAt_of_unread (unread_append hbody)]
  simp [String.utf8Encode_toList, ByteArray.empty_append, fromUTF8?_toByteArray]
  omega

end Body

end Json
end TestTransform
