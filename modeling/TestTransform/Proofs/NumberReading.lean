import TestTransform.Proofs.ValueReading

/-
The numbers the reader gives, and integers read back.

The reader takes the digits of an integer one at a time, ten times the value so far plus the
digit, while the value fits in 64 bits; past that, or after a decimal point or an exponent, it
makes a float. So every number of a value it gives is in range (`readRaw_numbers`): a natural
number up to `u64Max`, a negative integer down to `-2^63`, or a float. It stops at the first
byte that is not a digit, a zero stands alone, and a minus sign in front makes the integer
negative, so the text of each integer in range is read back as that integer wherever a value
ends after it (`Number.readsBack_nat`, `Number.readsBack_neg`). Of the numbers the reader gives,
only a float is left to the assumption `Number.ReadsBack` of reading a compact text back.
-/

namespace TestTransform
namespace Json

/-! ## Digits -/

theorem isDigit_toNat {b : UInt8} (h : isDigit b = true) : 0x30 ≤ b.toNat ∧ b.toNat ≤ 0x39 := by
  simpa [isDigit, UInt8.le_iff_toNat_le] using h

theorem char_isDigit_toNat {c : Char} (h : c.isDigit = true) : 48 ≤ c.toNat ∧ c.toNat ≤ 57 := by
  simp only [Char.isDigit, Bool.and_eq_true, decide_eq_true_eq] at h
  exact ⟨h.1, h.2⟩

theorem digit_byte_toNat {c : Char} (hc : c.isDigit = true) : (c.toNat.toUInt8).toNat = c.toNat := by
  have := char_isDigit_toNat hc
  rw [Nat.toUInt8, UInt8.toNat_ofNat']
  omega

/-- A digit is written as the byte of its code: a digit byte worth what the digit is worth. -/
theorem digit_byte {c : Char} (hc : c.isDigit = true) :
    isDigit c.toNat.toUInt8 = true ∧ digitValue c.toNat.toUInt8 = c.toNat - '0'.toNat := by
  obtain ⟨hlo, hhi⟩ := char_isDigit_toNat hc
  have hbyte := digit_byte_toNat hc
  constructor
  · simp only [isDigit, Bool.and_eq_true, decide_eq_true_eq, UInt8.le_iff_toNat_le, hbyte]
    exact ⟨hlo, hhi⟩
  · simp only [digitValue, hbyte]
    rfl

theorem bytes_digits {cs : List Char} (h : ∀ c ∈ cs, c.isDigit = true) :
    bytes (String.ofList cs) = cs.map (fun c => c.toNat.toUInt8) := by
  rw [bytes_eq_flatMap, String.toList_ofList]
  induction cs with
  | nil => rfl
  | cons c cs ih =>
    have hc := char_isDigit_toNat (h c List.mem_cons_self)
    rw [List.flatMap_cons, utf8EncodeChar_ascii (by omega),
      ih (fun d hd => h d (List.mem_cons_of_mem _ hd))]
    rfl

theorem bytes_toString_nat (n : Nat) :
    bytes (toString n) = (Nat.toDigits 10 n).map (fun c => c.toNat.toUInt8) := by
  rw [Nat.toString_eq_ofList_toDigits]
  exact bytes_digits (fun c hc => Nat.isDigit_of_mem_toDigits (by decide) (by decide) hc)

/-- Only zero is written with a leading zero. -/
theorem toDigits_head_zero : ∀ n : Nat, (Nat.toDigits 10 n).head? = some '0' → n = 0 := by
  intro n
  induction n using Nat.strong_induction_on with
  | _ n ih =>
    intro h
    rw [Nat.toDigits_eq_if (by decide)] at h
    split at h
    · simpa [Nat.digitChar_eq_zero] using h
    · -- the leading digit is that of `n / 10`, which would have to be zero
      obtain ⟨c, cs, hcs⟩ :=
        List.exists_cons_of_ne_nil (Nat.toDigits_ne_nil (n := n / 10) (b := 10))
      have hhead : (Nat.toDigits 10 (n / 10)).head? = some '0' := by
        rw [hcs] at h ⊢
        simpa using h
      have := ih (n / 10) (by omega) hhead
      omega

/-- Ten times the value so far is never less than it: reading more digits never lowers it. -/
theorem le_ofDigitChars (cs : List Char) (m : Nat) : m ≤ Nat.ofDigitChars 10 cs m := by
  rw [Nat.ofDigitChars_eq_ofDigitChars_zero]
  have h : 1 ≤ 10 ^ cs.length := Nat.one_le_pow _ _ (by decide)
  calc m ≤ 10 ^ cs.length * m := Nat.le_mul_of_pos_left m h
    _ ≤ _ := Nat.le_add_right _ _

/-! ## The numbers the reader gives -/

/-- The numbers the reader gives: a natural number up to `u64Max`, a negative integer down to
`-2^63`, or a float. -/
def Number.InRange : Number → Prop
  | .nat n => n ≤ u64Max
  | .neg n => -(2 ^ 63) ≤ n ∧ n < 0
  | .float _ => True

def Number.isFloat : Number → Bool
  | .float _ => true
  | _ => false

section Range

variable {s : ByteArray} {positive : Bool} {x : Number} {j : Nat}

theorem floatOfParts_inRange {i m : Nat} {e : Int} (h : floatOfParts s i positive m e = .ok (x, j)) :
    x.InRange := by
  unfold floatOfParts at h
  split at h
  · cases h
    trivial
  · cases h

theorem readExponent_inRange {i significand : Nat} {start : Int}
    (h : readExponent s i positive significand start = .ok (x, j)) : x.InRange := by
  have hgo : ∀ positiveExp fuel k exp,
      readExponent.go s positive significand start positiveExp fuel k exp = .ok (x, j) →
        x.InRange := by
    intro positiveExp fuel
    induction fuel with
    | zero => intro k exp h; rw [readExponent.go] at h; cases h
    | succ fuel ih =>
      intro k exp h
      rw [readExponent.go] at h
      dsimp only at h
      split at h
      · split at h
        · split at h
          · split at h
            · cases h
            · cases h
              trivial
          · exact ih _ _ h
        · exact floatOfParts_inRange h
      · exact floatOfParts_inRange h
  unfold readExponent at h
  dsimp only at h
  -- after the sign, a missing or non-digit byte is refused; the digits go on in the loop
  split at h
  · cases h
  · split at h
    · cases h
    · exact hgo _ _ _ _ h

theorem readFraction_inRange {i significand : Nat} {before : Int}
    (h : readFraction s i positive significand before = .ok (x, j)) : x.InRange := by
  have hdone : ∀ k m after, readFraction.done s positive before k m after = .ok (x, j) →
      x.InRange := by
    intro k m after h
    unfold readFraction.done at h
    split at h
    · split at h <;> cases h
    · split at h
      · exact readExponent_inRange h
      · exact readExponent_inRange h
      · exact floatOfParts_inRange h
  have hgo : ∀ fuel k m after, readFraction.go s positive before fuel k m after = .ok (x, j) →
      x.InRange := by
    intro fuel
    induction fuel with
    | zero => intro k m after h; rw [readFraction.go] at h; cases h
    | succ fuel ih =>
      intro k m after h
      rw [readFraction.go] at h
      dsimp only at h
      split at h
      · split at h
        · split at h
          · split at h
            · exact readExponent_inRange h
            · exact readExponent_inRange h
            · exact floatOfParts_inRange h
          · exact ih _ _ _ h
        · exact hdone _ _ _ h
      · exact hdone _ _ _ h
  exact hgo _ _ _ _ h

theorem readLongInteger_inRange {m : Nat} :
    ∀ {fuel i : Nat} {exp : Int}, readLongInteger s positive m fuel i exp = .ok (x, j) → x.InRange := by
  intro fuel
  induction fuel with
  | zero => intro i exp h; rw [readLongInteger] at h; cases h
  | succ fuel ih =>
    intro i exp h
    rw [readLongInteger] at h
    split at h
    · split at h
      · exact ih h
      · split at h
        · exact readFraction_inRange h
        · split at h
          · exact readExponent_inRange h
          · exact floatOfParts_inRange h
    · exact floatOfParts_inRange h

/-- What follows the digits of an integer that fits in 64 bits gives a number in range. -/
theorem afterInteger_inRange {i m : Nat} (hm : m ≤ u64Max)
    (h : afterInteger s i positive m = .ok (x, j)) : x.InRange := by
  unfold afterInteger at h
  split at h
  · exact readFraction_inRange h
  · exact readExponent_inRange h
  · exact readExponent_inRange h
  · split_ifs at h with hpos hrange
    · cases h
      exact hm
    · cases h
      simp only [Bool.and_eq_true, decide_eq_true_eq, Nat.pow_eq] at hrange
      constructor <;> omega
    · cases h
      trivial

/-- The digits of an integer are taken while the value fits in 64 bits, so what they give is in
range. -/
theorem readIntegerDigits_inRange :
    ∀ {fuel i m : Nat}, m ≤ u64Max → readIntegerDigits s positive fuel i m = .ok (x, j) →
      x.InRange := by
  intro fuel
  induction fuel with
  | zero => intro i m _ h; rw [readIntegerDigits] at h; cases h
  | succ fuel ih =>
    intro i m hm h
    rw [readIntegerDigits] at h
    split at h
    · split at h
      · split at h
        · exact readLongInteger_inRange h
        · rename_i hfits
          exact ih (Nat.not_lt.mp hfits) h
      · exact afterInteger_inRange hm h
    · exact afterInteger_inRange hm h

theorem readNumber_inRange {i : Nat} (h : readNumber s i positive = .ok (x, j)) : x.InRange := by
  have hzero : (0 : Nat) ≤ u64Max := Nat.zero_le _
  unfold readNumber at h
  split at h
  · cases h
  · split at h
    · split at h
      · split at h
        · cases h
        · exact afterInteger_inRange hzero h
      · exact afterInteger_inRange hzero h
    · split at h
      · rename_i b _ _ hdigit
        -- a first digit is at most nine
        have hfirst : digitValue b ≤ u64Max := by
          have := isDigit_toNat hdigit
          simp only [digitValue, u64Max, Nat.pow_eq]
          omega
        exact readIntegerDigits_inRange hfirst h
      · cases h

/-- Every number of a value the reader gives is in range. -/
theorem readRaw_numbers :
    ∀ {fuel depth i : Nat} {v : Value} {k : Nat}, readRaw s false fuel depth i = .ok (v, k) →
      v.AllNumbers Number.InRange := by
  intro fuel
  induction fuel with
  | zero => intro depth i v k h; rw [readRaw] at h; cases h
  | succ fuel ih =>
    intro depth i v k h
    rcases readRaw_succ_ok h with rfl | ⟨_, rfl⟩ | ⟨_, rfl⟩ | ⟨x, _, _, _, rfl, hx⟩ |
        ⟨_, _, _, hk⟩ | ⟨_, _, _, hk⟩
    · exact .null
    · exact .bool
    · exact .str
    · exact .num (readNumber_inRange hx)
    · obtain ⟨xs, rfl, hxs⟩ := rawItems_forall ih (fun _ h => absurd h List.not_mem_nil) hk
      exact .arr hxs
    · obtain ⟨ms, rfl, hms⟩ := rawMembers_forall ih (fun _ h => absurd h List.not_mem_nil) hk
      exact .obj hms

end Range

/-! ## Reading up to the end of a value -/

section Ended

variable {s : ByteArray} {rest : List UInt8}

/-- Where a value ends the reader finds a byte that continues no number: no digit, no decimal
point and no exponent. -/
theorem EndsValue.byteAt {j : Nat} (hend : EndsValue rest) (h : rest <+: unread s j) :
    ∃ b, byteAt s j = some b ∧ isDigit b = false ∧ b ≠ 0x2E ∧ b ≠ 0x65 ∧ b ≠ 0x45 := by
  obtain ⟨b, hb, hterm⟩ := hend
  obtain ⟨t, rfl⟩ : ∃ t, rest = b :: t := by
    cases rest with
    | nil => cases hb
    | cons c t => cases hb; exact ⟨t, rfl⟩
  refine ⟨b, byteAt_of_unread h, ?_⟩
  rcases hterm with rfl | rfl | rfl <;> decide

/-- After the digits of an integer, where a value ends, the integer is taken as it stands: a
natural number, a negative integer in 64 bits, or the float of a longer one. -/
theorem afterInteger_ended {positive : Bool} {j m : Nat} (hend : EndsValue rest)
    (h : rest <+: unread s j) :
    afterInteger s j positive m =
      if positive then .ok (.nat m, j)
      else if 0 < m && m ≤ Nat.pow 2 63 then .ok (.neg (-(m : Int)), j)
      else .ok (.float (-(m.toUInt64.toFloat)).toBits, j) := by
  obtain ⟨b, hat, -, hdot, he, hE⟩ := hend.byteAt h
  rw [afterInteger, hat]
  split
  · exact absurd (Option.some.inj ‹_›) hdot
  · exact absurd (Option.some.inj ‹_›) he
  · exact absurd (Option.some.inj ‹_›) hE
  · rfl

/-- Reading the digits `cs` after the value `m` so far, while the value fits in 64 bits, stops
after them, where the value ends, at the value they spell. -/
theorem readIntegerDigits_digits {positive : Bool} (hend : EndsValue rest) :
    ∀ (cs : List Char) {fuel i m : Nat}, (∀ c ∈ cs, c.isDigit = true) →
      cs.map (fun c => c.toNat.toUInt8) ++ rest <+: unread s i → cs.length < fuel →
      Nat.ofDigitChars 10 cs m ≤ u64Max →
      readIntegerDigits s positive fuel i m =
        afterInteger s (i + cs.length) positive (Nat.ofDigitChars 10 cs m)
  | _, 0, _, _, _, _, hfuel, _ => absurd hfuel (Nat.not_lt_zero _)
  | [], fuel + 1, i, m, _, h, _, _ => by
    obtain ⟨b, hat, hdigit, -⟩ := hend.byteAt (by simpa using h)
    rw [readIntegerDigits, hat]
    simp [hdigit, Nat.ofDigitChars_nil]
  | c :: cs, fuel + 1, i, m, hd, h, hfuel, hbound => by
    obtain ⟨hdigit, hvalue⟩ := digit_byte (hd c List.mem_cons_self)
    simp only [List.map_cons, List.cons_append] at h
    rw [Nat.ofDigitChars_cons] at hbound ⊢
    have hm : m * 10 + digitValue c.toNat.toUInt8 = 10 * m + (c.toNat - '0'.toNat) := by
      rw [hvalue]
      omega
    -- the value after this digit is below the final one, so it still fits
    have hfits : 10 * m + (c.toNat - '0'.toNat) ≤ u64Max := (le_ofDigitChars cs _).trans hbound
    rw [readIntegerDigits, byteAt_of_unread h]
    simp only [hdigit, if_true, hm, gt_iff_lt, Nat.not_lt.mpr hfits, if_false]
    rw [readIntegerDigits_digits hend cs (fun d hd' => hd d (List.mem_cons_of_mem _ hd'))
      (unread_succ h) (by simp only [List.length_cons] at hfuel; omega) hbound]
    simp only [List.length_cons]
    congr 1
    omega

/-- The text of a natural number up to `u64Max` is read as its digits, up to where the value
ends. -/
theorem readNumber_toString {positive : Bool} {i n : Nat} (hn : n ≤ u64Max) (hend : EndsValue rest)
    (h : bytes (toString n) ++ rest <+: unread s i) :
    readNumber s i positive = afterInteger s (i + (bytes (toString n)).length) positive n := by
  have hval : Nat.ofDigitChars 10 (Nat.toDigits 10 n) 0 = n := Nat.ofDigitChars_ten_toDigits
  have hdigits : ∀ c ∈ Nat.toDigits 10 n, c.isDigit = true :=
    fun c hc => Nat.isDigit_of_mem_toDigits (by decide) (by decide) hc
  have hsize := length_le_of_unread h
  rw [bytes_toString_nat] at h hsize ⊢
  obtain ⟨c, cs, hcs⟩ := List.exists_cons_of_ne_nil (Nat.toDigits_ne_nil (n := n) (b := 10))
  rw [hcs] at h hval hdigits hsize ⊢
  simp only [List.map_cons, List.cons_append] at h
  simp only [List.length_append, List.length_cons, List.length_map] at hsize
  obtain ⟨hdigit, hvalue⟩ := digit_byte (hdigits c List.mem_cons_self)
  rw [readNumber, byteAt_of_unread h]
  by_cases hzero : c = '0'
  · -- a leading zero is the whole of zero's text
    have hn0 : n = 0 := toDigits_head_zero n (by rw [hcs, hzero]; rfl)
    subst hn0
    have hcs' : cs = [] := by
      rw [Nat.toDigits_zero] at hcs
      exact (List.cons.inj hcs).2.symm
    subst hcs'
    obtain ⟨b, hat, hb, -⟩ := hend.byteAt (unread_succ h)
    have hbyte : c.toNat.toUInt8 = 0x30 := by rw [hzero]; rfl
    simp only [hbyte, beq_self_eq_true, if_true, hat, hb, Bool.false_eq_true, if_false]
    rfl
  · -- a leading digit other than zero starts the digits that are read in full
    have hne : c.toNat.toUInt8 ≠ 0x30 := by
      intro e
      have hcode : c.toNat = '0'.toNat := by
        rw [← digit_byte_toNat (hdigits c List.mem_cons_self), e]
        rfl
      exact hzero (Char.toNat_inj.mp hcode)
    rw [Nat.ofDigitChars_cons, Nat.mul_zero, Nat.zero_add] at hval
    simp only [hne, beq_iff_eq, if_false, hdigit, if_true, hvalue]
    rw [readIntegerDigits_digits hend cs (fun d hd => hdigits d (List.mem_cons_of_mem _ hd))
      (unread_succ h) (by omega) (by rw [hval]; exact hn), hval]
    simp only [List.length_cons, List.length_map]
    congr 1
    omega

end Ended

/-! ## Integers read back -/

/-- A natural number up to `u64Max` is read back from its text. -/
theorem Number.readsBack_nat {n : Nat} (hn : n ≤ u64Max) : (Number.nat n).ReadsBack := by
  intro s i fuel depth rest h hend
  simp only [Number.text] at h ⊢
  obtain ⟨c, cs, hcs⟩ := List.exists_cons_of_ne_nil (Nat.toDigits_ne_nil (n := n) (b := 10))
  obtain ⟨hdigit, -⟩ := digit_byte (Nat.isDigit_of_mem_toDigits (by decide) (by decide)
    (hcs ▸ List.mem_cons_self : c ∈ Nat.toDigits 10 n))
  have hopen : bytes (toString n) = c.toNat.toUInt8 :: cs.map (fun c => c.toNat.toUInt8) := by
    rw [bytes_toString_nat, hcs, List.map_cons]
  have h' := h
  rw [hopen] at h'
  -- a digit is none of the bytes that open the other values
  have hcode := isDigit_toNat hdigit
  have hword : ∀ w : UInt8, 0x39 < w.toNat → c.toNat.toUInt8 ≠ w :=
    fun w hw e => by rw [e] at hcode; omega
  have hminus : c.toNat.toUInt8 ≠ 0x2D := fun e => by rw [e] at hcode; simp at hcode
  rw [readRaw, skipBlank_of_unread h' (isBlank_of_gt (by omega)), byteAt_of_unread h']
  simp only [hword 0x6E (by decide), hword 0x74 (by decide), hword 0x66 (by decide), hminus,
    beq_iff_eq, if_false, hdigit, if_true]
  rw [readNumber_toString hn hend h, afterInteger_ended hend (unread_append h)]
  rfl

theorem toString_neg {n : Int} (hn : n < 0) : toString n = "-" ++ toString n.natAbs := by
  cases n with
  | ofNat m => exact absurd hn (by simp)
  | negSucc m =>
    simp only [toString, Int.repr]
    rfl

/-- A negative integer down to `-2^63` is read back from its text: a minus sign, then the digits
of its magnitude. -/
theorem Number.readsBack_neg {n : Int} (hlo : -(2 ^ 63) ≤ n) (hn : n < 0) :
    (Number.neg n).ReadsBack := by
  intro s i fuel depth rest h hend
  simp only [Number.text] at h ⊢
  have hmag : n.natAbs ≤ u64Max := by
    simp only [u64Max, Nat.pow_eq]
    omega
  have hopen : bytes (toString n) = 0x2D :: bytes (toString n.natAbs) := by
    rw [toString_neg hn, bytes_append]
    rfl
  rw [hopen] at h ⊢
  rw [readRaw, skipBlank_of_unread h rfl, byteAt_of_unread h]
  simp only [show ((0x2D : UInt8) == 0x6E) = false by decide,
    show ((0x2D : UInt8) == 0x74) = false by decide, show ((0x2D : UInt8) == 0x66) = false by decide,
    beq_self_eq_true, Bool.false_eq_true, if_false, if_true]
  rw [readNumber_toString hmag hend (unread_succ h),
    afterInteger_ended hend (unread_append (unread_succ h))]
  have hpos : (0 < n.natAbs && n.natAbs ≤ Nat.pow 2 63) = true := by
    simp only [Bool.and_eq_true, decide_eq_true_eq, Nat.pow_eq]
    omega
  have hback : -((n.natAbs : Nat) : Int) = n := by omega
  simp only [Bool.false_eq_true, if_false, hpos, if_true, hback, Except.map, List.length_cons]
  congr 2
  omega

/-- A number in range that is no float is read back from its text. -/
theorem Number.readsBack_of_inRange {x : Number} (hx : x.InRange) (hf : x.isFloat = false) :
    x.ReadsBack := by
  cases x with
  | nat n => exact readsBack_nat hx
  | neg n => exact readsBack_neg hx.1 hx.2
  | float b => cases hf

end Json
end TestTransform
