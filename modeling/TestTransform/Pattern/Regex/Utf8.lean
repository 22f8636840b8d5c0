/-
Ranges of code points as sequences of byte ranges in UTF-8.

A range of code points splits into pieces whose encodings all have one length and differ
only in their last bytes, each piece being a sequence of byte ranges, one per byte: the
characters of the piece are exactly the byte strings whose every byte lies in its range. The
surrogates are left out, and the pieces come in increasing order.
-/
namespace TestTransform
namespace Pattern
namespace Regex

/-- The UTF-8 encoding of a code point, as byte values. -/
def utf8Bytes (n : Nat) : List Nat :=
  if n < 0x80 then [n]
  else if n < 0x800 then [0xC0 + n / 0x40, 0x80 + n % 0x40]
  else if n < 0x10000 then [0xE0 + n / 0x1000, 0x80 + n / 0x40 % 0x40, 0x80 + n % 0x40]
  else [0xF0 + n / 0x40000, 0x80 + n / 0x1000 % 0x40, 0x80 + n / 0x40 % 0x40, 0x80 + n % 0x40]

/-- The largest code point whose encoding has `k` bytes. -/
def largestOfLength : Nat → Nat
  | 1 => 0x7F
  | 2 => 0x7FF
  | 3 => 0xFFFF
  | _ => 0x10FFFF

/-- The first length below four whose largest code point lies inside the range but not at its
end: the range is cut there. -/
def lengthCut? (lo hi : Nat) : Option Nat :=
  [1, 2, 3].findSome? (fun k =>
    let top := largestOfLength k
    if lo ≤ top && top < hi then some top else none)

/-- For the first block size `2^(6k)`, `k` below four, that the range crosses: where to cut
the range so that its first part starts, or its last part ends, on a block boundary. -/
def blockCut? (lo hi : Nat) : Option ((Nat × Nat) × (Nat × Nat)) :=
  [1, 2, 3].findSome? (fun k =>
    let size := Nat.pow 2 (6 * k)
    let base := fun n => n - n % size
    if base lo != base hi then
      if lo % size != 0 then some ((lo, base lo + size - 1), (base lo + size, hi))
      else if hi % size != size - 1 then some ((lo, base hi - 1), (base hi, hi))
      else none
    else none)

/-- The byte ranges of a range of code points with encodings of one length that differ only
in their last bytes. -/
def byteRangesOf (lo hi : Nat) : List (Nat × Nat) := (utf8Bytes lo).zip (utf8Bytes hi)

/-- The sequences of the ranges on the stack, the range on top first, added to `acc`. -/
def sequencesOf : Nat → List (Nat × Nat) → List (List (Nat × Nat)) → List (List (Nat × Nat))
  | 0, _, acc => acc.reverse
  | _ + 1, [], acc => acc.reverse
  | fuel + 1, (lo, hi) :: stack, acc =>
    if lo < 0xE000 && hi > 0xD7FF then
      sequencesOf fuel ((lo, 0xD7FF) :: (0xE000, hi) :: stack) acc
    else if hi < lo then sequencesOf fuel stack acc
    else
      match lengthCut? lo hi with
      | some top => sequencesOf fuel ((lo, top) :: (top + 1, hi) :: stack) acc
      | none =>
        if hi ≤ 0x7F then sequencesOf fuel stack ([(lo, hi)] :: acc)
        else
          match blockCut? lo hi with
          | some (first, second) => sequencesOf fuel (first :: second :: stack) acc
          | none => sequencesOf fuel stack (byteRangesOf lo hi :: acc)

/-- The UTF-8 sequences of the code points from `lo` to `hi`, in increasing order. -/
def utf8Sequences (lo hi : Nat) : List (List (Nat × Nat)) := sequencesOf 256 [(lo, hi)] []

/-- Every byte of the encoding of a code point fits in a byte. -/
theorem utf8Bytes_lt {n : Nat} (h : n ≤ 0x10FFFF) : ∀ b ∈ utf8Bytes n, b < 0x100 := by
  intro b hb
  unfold utf8Bytes at hb
  -- one case per length of the encoding
  repeat' split at hb
  all_goals simp only [List.mem_cons, List.not_mem_nil, or_false] at hb; omega

example : utf8Bytes 0x20AC = [0xE2, 0x82, 0xAC] := by decide

/-- A range of ASCII code points is one sequence of one byte range. -/
theorem utf8Sequences_ascii_range {lo hi : Nat} (hlo : lo ≤ hi) (hhi : hi ≤ 0x7F) :
    utf8Sequences lo hi = [[(lo, hi)]] := by
  have hcut : lengthCut? lo hi = none := by
    simp [lengthCut?, largestOfLength, show ¬ 0x7F < hi by omega, show ¬ 0x7FF < hi by omega,
      show ¬ 0xFFFF < hi by omega]
  unfold utf8Sequences
  rw [sequencesOf, if_neg (by simp; omega), if_neg (by omega), hcut]
  dsimp only
  rw [if_pos hhi]
  rfl

example : utf8Sequences 0x41 0x5A = [[(0x41, 0x5A)]] := by decide

end Regex
end Pattern
end TestTransform
