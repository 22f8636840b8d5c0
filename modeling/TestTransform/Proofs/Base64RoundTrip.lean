import TestTransform.Text.Base64

/-
Reading base64 back.

`base64Decode` is the decoder of the standard alphabet with `=` padding: four characters at a
time, each worth six bits, two padding characters ending a group of one byte and one padding
character a group of two. The text `base64` writes for a string decodes to exactly the string's
UTF-8 bytes (`base64Decode_base64`), and it is made of the alphabet and `=` only
(`mem_base64`).
-/

namespace TestTransform
namespace Text

/-! ## The alphabet -/

/-- The six-bit value a character of the alphabet stands for. -/
def base64Value (c : Char) : Option Nat := base64Alphabet.toList.idxOf? c

theorem base64Value_char_lt : ∀ i, i < 64 → base64Value (base64Char i) = some i := by
  decide

theorem base64Char_mod (n : Nat) : base64Char n = base64Char (n % 64) := by
  simp [base64Char]

theorem base64Value_base64Char (n : Nat) : base64Value (base64Char n) = some (n % 64) := by
  rw [base64Char_mod]
  exact base64Value_char_lt _ (Nat.mod_lt _ (by decide))

theorem base64Char_mem (n : Nat) : base64Char n ∈ base64Alphabet.toList := by
  have h : (base64Alphabet.toList.idxOf? (base64Char n)).isSome := by
    rw [← base64Value, base64Value_base64Char]
    rfl
  exact List.isSome_idxOf?.mp h

theorem pad_not_mem_alphabet : '=' ∉ base64Alphabet.toList := by
  decide

theorem base64Char_ne (n : Nat) : base64Char n ≠ '=' :=
  fun h => pad_not_mem_alphabet (h ▸ base64Char_mem n)

/-! ## Decoding -/

/-- The bytes four characters stand for: three, or two or one when the last one or two are
padding. -/
def decodeGroup : List Char → Option (List Nat)
  | [a, b, c, d] =>
    match base64Value a, base64Value b with
    | some va, some vb =>
      if c = '=' then
        if d = '=' then some [(va * 262144 + vb * 4096) / 65536] else none
      else
        match base64Value c with
        | none => none
        | some vc =>
          let n := va * 262144 + vb * 4096 + vc * 64
          if d = '=' then some [n / 65536, n / 256 % 256]
          else (base64Value d).map fun vd =>
            [(n + vd) / 65536, (n + vd) / 256 % 256, (n + vd) % 256]
    | _, _ => none
  | _ => none

/-- The bytes a base64 text stands for, four characters at a time. -/
def base64Decode : List Char → Option (List Nat)
  | [] => some []
  | a :: b :: c :: d :: rest =>
    match decodeGroup [a, b, c, d], base64Decode rest with
    | some g, some r => some (g ++ r)
    | _, _ => none
  | _ => none

theorem base64Decode_append {g : List Char} (hg : g.length = 4) (rest : List Char) :
    base64Decode (g ++ rest) = match decodeGroup g, base64Decode rest with
      | some x, some r => some (x ++ r)
      | _, _ => none := by
  match g, hg with
  | [a, b, c, d], _ => rfl

/-! ## Groups read back -/

theorem decodeGroup_sextets {a b c d : Char} {va vb vc vd : Nat} (ha : base64Value a = some va)
    (hb : base64Value b = some vb) (hc : base64Value c = some vc) (hd : base64Value d = some vd)
    (hcp : c ≠ '=') (hdp : d ≠ '=') :
    decodeGroup [a, b, c, d] =
      some [(va * 262144 + vb * 4096 + vc * 64 + vd) / 65536,
        (va * 262144 + vb * 4096 + vc * 64 + vd) / 256 % 256,
        (va * 262144 + vb * 4096 + vc * 64 + vd) % 256] := by
  simp [decodeGroup, ha, hb, hc, hd, hcp, hdp]

theorem decodeGroup_one_pad {a b c : Char} {va vb vc : Nat} (ha : base64Value a = some va)
    (hb : base64Value b = some vb) (hc : base64Value c = some vc) (hcp : c ≠ '=') :
    decodeGroup [a, b, c, '='] =
      some [(va * 262144 + vb * 4096 + vc * 64) / 65536,
        (va * 262144 + vb * 4096 + vc * 64) / 256 % 256] := by
  simp [decodeGroup, ha, hb, hc, hcp]

theorem decodeGroup_two_pads {a b : Char} {va vb : Nat} (ha : base64Value a = some va)
    (hb : base64Value b = some vb) :
    decodeGroup [a, b, '=', '='] = some [(va * 262144 + vb * 4096) / 65536] := by
  simp [decodeGroup, ha, hb]

/- The six-bit values `base64Group` writes add back up to the 24 bits of the group; a group of
two bytes leaves its last eight bits zero, a group of one byte its last sixteen. -/

theorem sextets_three (n : Nat) (hn : n < 16777216) :
    n / 262144 % 64 * 262144 + n / 4096 % 64 * 4096 + n / 64 % 64 * 64 + n % 64 = n := by
  omega

theorem sextets_two (n : Nat) (hn : n < 16777216) (hlow : n % 256 = 0) :
    n / 262144 % 64 * 262144 + n / 4096 % 64 * 4096 + n / 64 % 64 * 64 = n := by
  omega

theorem sextets_one (n : Nat) (hn : n < 16777216) (hlow : n % 65536 = 0) :
    n / 262144 % 64 * 262144 + n / 4096 % 64 * 4096 = n := by
  omega

theorem decodeGroup_three {a b c : Nat} (ha : a < 256) (hb : b < 256) (hc : c < 256) :
    decodeGroup (base64Group [a, b, c]) = some [a, b, c] := by
  simp only [base64Group]
  rw [decodeGroup_sextets (base64Value_base64Char _) (base64Value_base64Char _)
    (base64Value_base64Char _) (base64Value_base64Char _) (base64Char_ne _) (base64Char_ne _),
    sextets_three _ (by omega)]
  simp only [Option.some.injEq, List.cons.injEq, and_true]
  omega

theorem decodeGroup_two {a b : Nat} (ha : a < 256) (hb : b < 256) :
    decodeGroup (base64Group [a, b]) = some [a, b] := by
  simp only [base64Group]
  rw [decodeGroup_one_pad (base64Value_base64Char _) (base64Value_base64Char _)
    (base64Value_base64Char _) (base64Char_ne _), sextets_two _ (by omega) (by omega)]
  simp only [Option.some.injEq, List.cons.injEq, and_true]
  omega

theorem decodeGroup_one {a : Nat} (ha : a < 256) :
    decodeGroup (base64Group [a]) = some [a] := by
  simp only [base64Group]
  rw [decodeGroup_two_pads (base64Value_base64Char _) (base64Value_base64Char _),
    sextets_one _ (by omega) (by omega)]
  simp only [Option.some.injEq, List.cons.injEq, and_true]
  omega

theorem base64Decode_groups (bytes : List Nat) (h : ∀ b ∈ bytes, b < 256) :
    base64Decode ((triples bytes).flatMap base64Group) = some bytes := by
  fun_induction triples bytes with
  | case1 a b c rest ih =>
    have hrest := ih (fun x hx => h x (by simp [hx]))
    rw [List.flatMap_cons, base64Decode_append (by simp [base64Group]), hrest,
      decodeGroup_three (h a (by simp)) (h b (by simp)) (h c (by simp))]
    rfl
  | case2 => rfl
  | case3 rest h1 h2 =>
    -- a last group of one or two bytes
    rcases rest with _ | ⟨a, _ | ⟨b, _ | ⟨c, r⟩⟩⟩
    · exact absurd rfl h2
    · rw [List.flatMap_singleton, ← List.append_nil (base64Group [a]),
        base64Decode_append (by simp [base64Group]), decodeGroup_one (h a (by simp))]
      rfl
    · rw [List.flatMap_singleton, ← List.append_nil (base64Group [a, b]),
        base64Decode_append (by simp [base64Group]),
        decodeGroup_two (h a (by simp)) (h b (by simp))]
      rfl
    · exact absurd rfl (h1 a b c r)

/-- A base64 text decodes to exactly the UTF-8 bytes of the text it encodes. -/
theorem base64Decode_base64 (s : String) :
    base64Decode (base64 s).toList = some (s.toUTF8.toList.map UInt8.toNat) := by
  rw [base64, base64Bytes, String.toList_ofList]
  exact base64Decode_groups _ (fun b hb => by
    obtain ⟨x, -, rfl⟩ := List.mem_map.mp hb
    exact x.toNat_lt)

/-! ## Characters of a base64 text -/

theorem mem_base64Group {c : Char} {g : List Nat} (h : c ∈ base64Group g) :
    c = '=' ∨ c ∈ base64Alphabet.toList := by
  unfold base64Group at h
  split at h <;> simp only [List.mem_cons, List.not_mem_nil, or_false] at h <;>
    rcases h with rfl | rfl | rfl | rfl <;> simp [base64Char_mem]

theorem mem_base64 {c : Char} {s : String} (h : c ∈ (base64 s).toList) :
    c = '=' ∨ c ∈ base64Alphabet.toList := by
  rw [base64, base64Bytes, String.toList_ofList, List.mem_flatMap] at h
  obtain ⟨g, -, hg⟩ := h
  exact mem_base64Group hg

end Text
end TestTransform
