import TestTransform.Proofs.Base64RoundTrip
import TestTransform.Proofs.TableLookup
import TestTransform.Compiler.Output

/-
Inlining a source map, read back.

`finalize` appends a mapping comment with a base64 data URL to the code. Before the comment
stands `bodyOf` the code, which cuts off the code's last mapping comment when only blanks
without a line feed follow that comment's start (`bodyOf_cases`), closed by a line feed
(`closeLine`). The map is pointed at the file (`Retargets`): when it reads as an object, its
members come sorted, `file` and `sources` name the path with forward slashes and `sourceRoot`
goes; a text that does not read as an object stays as it is. The data URL decodes to the map's
UTF-8 bytes.

The mapping comment does not overlap itself, and the data URL after it holds no `#`, so the
comment a finalized code ends with is the one the next finalizing cuts off (`bodyOf_finalize`):
finalizing twice is finalizing once with the second map (`finalize_finalize`).

The main statement, `finalize_inlines_map`, gathers these.
-/

namespace TestTransform
namespace Compiler

open Json

/-! ## The last place a pattern starts -/

theorem getLast?_filter_range (p : Nat → Bool) (i : Nat) :
    ∀ n, ((List.range n).filter p).getLast? = some i ↔
      i < n ∧ p i = true ∧ ∀ j, i < j → j < n → p j = false
  | 0 => by simp
  | n + 1 => by
    rw [List.range_succ, List.filter_append]
    by_cases hn : p n = true
    · simp only [List.filter_cons, List.filter_nil, hn, if_true]
      rw [List.getLast?_append, List.getLast?_singleton, Option.some_or, Option.some.injEq]
      constructor
      · rintro rfl
        exact ⟨Nat.lt_succ_self _, hn, fun j hj hjn => absurd hjn (by omega)⟩
      · rintro ⟨hi, -, hlater⟩
        rcases Nat.lt_or_ge i n with hlt | hge
        · have hpn := hlater n hlt (Nat.lt_succ_self _)
          rw [hn] at hpn
          cases hpn
        · omega
    · simp only [List.filter_cons, List.filter_nil, hn, if_false, Bool.false_eq_true,
        List.append_nil]
      rw [getLast?_filter_range p i n]
      constructor
      · rintro ⟨hi, hpi, hlater⟩
        refine ⟨by omega, hpi, fun j hj hjn => ?_⟩
        rcases Nat.lt_or_ge j n with hjn' | hjn'
        · exact hlater j hj hjn'
        · have hjeq : j = n := by omega
          rw [hjeq]
          simpa using hn
      · rintro ⟨hi, hpi, hlater⟩
        have hin : i ≠ n := fun e => by rw [e] at hpi; exact hn hpi
        exact ⟨by omega, hpi, fun j hj hjn => hlater j hj (by omega)⟩

theorem isPrefix_iff (pre cs : List Char) : isPrefix pre cs = true ↔ pre <+: cs := by
  rw [isPrefix, beq_iff_eq, List.prefix_iff_eq_take]

theorem not_prefix_drop_of_length_le {pat cs : List Char} (hpat : pat ≠ []) {j : Nat}
    (hj : cs.length ≤ j) : ¬ pat <+: cs.drop j := by
  rw [List.drop_eq_nil_of_le hj, List.prefix_nil]
  exact hpat

/-- The last place a nonempty pattern starts: it starts there and at no later place. -/
theorem lastIndexOf_eq_some_iff {pat cs : List Char} (hpat : pat ≠ []) {i : Nat} :
    lastIndexOf pat cs = some i ↔ pat <+: cs.drop i ∧ ∀ j, i < j → ¬ pat <+: cs.drop j := by
  rw [lastIndexOf, getLast?_filter_range, isPrefix_iff]
  constructor
  · rintro ⟨-, hi, hlater⟩
    refine ⟨hi, fun j hij hj => ?_⟩
    rcases Nat.lt_or_ge j (cs.length + 1) with hjn | hjn
    · have := hlater j hij hjn
      rw [← Bool.not_eq_true, isPrefix_iff] at this
      exact this hj
    · exact not_prefix_drop_of_length_le hpat (by omega) hj
  · rintro ⟨hi, hlater⟩
    have hlen : i < cs.length + 1 := by
      rcases Nat.lt_or_ge i (cs.length + 1) with h | h
      · exact h
      · exact absurd hi (not_prefix_drop_of_length_le hpat (by omega))
    refine ⟨hlen, hi, fun j hij _ => ?_⟩
    rw [← Bool.not_eq_true, isPrefix_iff]
    exact hlater j hij

theorem lastIndexOf_eq_none_iff {pat cs : List Char} (hpat : pat ≠ []) :
    lastIndexOf pat cs = none ↔ ∀ i, ¬ pat <+: cs.drop i := by
  rw [lastIndexOf, List.getLast?_eq_none_iff, List.filter_eq_nil_iff]
  constructor
  · intro h i hi
    rcases Nat.lt_or_ge i (cs.length + 1) with hlt | hge
    · exact h i (List.mem_range.mpr hlt) ((isPrefix_iff _ _).mpr hi)
    · exact not_prefix_drop_of_length_le hpat (by omega) hi
  · intro h i _ hi
    exact h i ((isPrefix_iff _ _).mp hi)

/-! ## The code before the comment -/

/-- The code a new mapping comment follows: without the last mapping comment, when only blanks
without a line feed come after that comment's start. -/
def bodyOf (cs : List Char) : List Char :=
  match lastIndexOf mappingComment.toList cs with
  | some i => if (Text.trimEnd (cs.drop i)).contains '\n' then cs else cs.take i
  | none => cs

/-- A line feed after a text that is not empty and does not end one. -/
def closeLine (cs : List Char) : List Char :=
  if cs ≠ [] ∧ cs.getLast? ≠ some '\n' then cs ++ ['\n'] else cs

theorem closeLine_closeLine (cs : List Char) : closeLine (closeLine cs) = closeLine cs := by
  unfold closeLine
  by_cases h : cs ≠ [] ∧ cs.getLast? ≠ some '\n'
  · rw [if_pos h, if_neg (by simp)]
  · rw [if_neg h, if_neg h]

theorem isEmpty_ofList (cs : List Char) : (String.ofList cs).isEmpty = true ↔ cs = [] := by
  rw [String.isEmpty_iff, ← String.toList_inj, String.toList_ofList, String.toList_empty]

theorem endsWith_ofList (cs : List Char) :
    (String.ofList cs).endsWith "\n" = true ↔ cs.getLast? = some '\n' := by
  rw [← String.endsWith_toSlice, String.Slice.endsWith_string_iff]
  simp only [String.copy_toSlice, String.toList_ofList]
  exact List.singleton_suffix_iff_getLast?_eq_some

theorem toList_closed (cs : List Char) :
    (if !(String.ofList cs).isEmpty && !(String.ofList cs).endsWith "\n" then
        String.ofList cs ++ "\n"
      else String.ofList cs).toList = closeLine cs := by
  unfold closeLine
  by_cases h : cs ≠ [] ∧ cs.getLast? ≠ some '\n'
  · have hempty : (String.ofList cs).isEmpty = false := by
      rw [← Bool.not_eq_true, isEmpty_ofList]; exact h.1
    have hend : (String.ofList cs).endsWith "\n" = false := by
      rw [← Bool.not_eq_true, endsWith_ofList]; exact h.2
    rw [hempty, hend, if_pos h]
    simp
  · have hcond : (!(String.ofList cs).isEmpty && !(String.ofList cs).endsWith "\n") = false := by
      rw [Bool.and_eq_false_iff, Bool.not_eq_false', Bool.not_eq_false', isEmpty_ofList,
        endsWith_ofList]
      by_cases hc : cs = []
      · exact .inl hc
      · exact .inr (by simpa [hc] using h)
    rw [hcond, if_neg h]
    simp

/-! ## The mapping comment does not overlap itself -/

theorem mappingComment_ne_nil : mappingComment.toList ≠ [] := by decide

/-- The mapping comment overlaps no later copy of itself: past its first character, no suffix of
it starts it again. -/
theorem mappingComment_no_border :
    ∀ d, d < mappingComment.toList.length → 0 < d →
      mappingComment.toList.drop d ≠
        mappingComment.toList.take (mappingComment.toList.length - d) := by
  decide

theorem hash_mem_mappingComment : '#' ∈ mappingComment.toList := by decide

/-- After a mapping comment followed by text without `#`, no mapping comment starts anywhere
but at its start. -/
theorem not_prefix_drop_mappingComment {rest : List Char} (hrest : '#' ∉ rest) {d : Nat}
    (hd : 0 < d) : ¬ mappingComment.toList <+: (mappingComment.toList ++ rest).drop d := by
  intro hpre
  rcases Nat.lt_or_ge d mappingComment.toList.length with hlt | hge
  · -- a later start inside the comment would make a suffix of it a prefix of it
    rw [List.drop_append_of_le_length (by omega)] at hpre
    have hsuffix : mappingComment.toList.drop d <+: mappingComment.toList :=
      List.prefix_of_prefix_length_le (List.prefix_append _ _) hpre (by simp)
    apply mappingComment_no_border d hlt hd
    rw [List.prefix_iff_eq_take] at hsuffix
    rw [hsuffix, List.length_drop]
  · rw [List.drop_append, List.drop_eq_nil_of_le hge, List.nil_append] at hpre
    exact hrest ((List.drop_sublist _ _).subset (hpre.subset hash_mem_mappingComment))

/-! ## The comment a code ends with -/

/-- `i` is where the last mapping comment of `cs` starts. -/
def LastComment (cs : List Char) (i : Nat) : Prop :=
  mappingComment.toList <+: cs.drop i ∧ ∀ j, i < j → ¬ mappingComment.toList <+: cs.drop j

theorem LastComment.unique {cs : List Char} {i j : Nat} (hi : LastComment cs i)
    (hj : LastComment cs j) : i = j := by
  rcases Nat.lt_trichotomy i j with h | h | h
  · exact absurd hj.1 (hi.2 j h)
  · exact h
  · exact absurd hi.1 (hj.2 i h)

/-- The code before the new comment: without its last mapping comment when that comment is on
the last line that is not blank, and whole otherwise. -/
theorem bodyOf_cases (cs : List Char) :
    (∃ i, LastComment cs i ∧ '\n' ∉ Text.trimEnd (cs.drop i) ∧ bodyOf cs = cs.take i) ∨
      ((∀ i, LastComment cs i → '\n' ∈ Text.trimEnd (cs.drop i)) ∧ bodyOf cs = cs) := by
  unfold bodyOf
  cases h : lastIndexOf mappingComment.toList cs with
  | none =>
    rw [lastIndexOf_eq_none_iff mappingComment_ne_nil] at h
    exact .inr ⟨fun i hi => absurd hi.1 (h i), rfl⟩
  | some i =>
    have hlast : LastComment cs i := (lastIndexOf_eq_some_iff mappingComment_ne_nil).mp h
    dsimp only
    by_cases hlf : (Text.trimEnd (cs.drop i)).contains '\n' = true
    · rw [if_pos hlf]
      refine .inr ⟨fun j hj => ?_, rfl⟩
      rw [← LastComment.unique hlast hj]
      simpa using hlf
    · rw [if_neg hlf]
      exact .inl ⟨i, hlast, by simpa using hlf, rfl⟩

theorem not_mem_trimEnd {c : Char} {cs : List Char} (h : c ∉ cs) : c ∉ Text.trimEnd cs := by
  unfold Text.trimEnd
  rw [List.mem_reverse]
  exact fun hc => h (List.mem_reverse.mp ((List.dropWhile_sublist _).subset hc))

/-- Before a mapping comment followed by text without `#` or a line feed, the code the next
comment follows is everything before it. -/
theorem bodyOf_before_comment (pre : List Char) {rest : List Char} (hhash : '#' ∉ rest)
    (hlf : '\n' ∉ rest) : bodyOf (pre ++ mappingComment.toList ++ rest) = pre := by
  have hdrop : (pre ++ mappingComment.toList ++ rest).drop pre.length =
      mappingComment.toList ++ rest := by
    rw [List.append_assoc, List.drop_append_length]
  have hlast : LastComment (pre ++ mappingComment.toList ++ rest) pre.length := by
    refine ⟨by rw [hdrop]; exact List.prefix_append _ _, fun j hj => ?_⟩
    have hsplit : (pre ++ mappingComment.toList ++ rest).drop j =
        (mappingComment.toList ++ rest).drop (j - pre.length) := by
      rw [← hdrop, List.drop_drop]
      congr 1
      omega
    rw [hsplit]
    exact not_prefix_drop_mappingComment hhash (by omega)
  have hnolf : '\n' ∉ Text.trimEnd ((pre ++ mappingComment.toList ++ rest).drop pre.length) := by
    rw [hdrop]
    refine not_mem_trimEnd fun hmem => ?_
    rcases List.mem_append.mp hmem with h | h
    · exact absurd h (by decide)
    · exact hlf h
  rcases bodyOf_cases (pre ++ mappingComment.toList ++ rest) with ⟨i, hi, -, hbody⟩ | ⟨hall, -⟩
  · rw [hbody, ← LastComment.unique hlast hi, List.append_assoc, List.take_left]
  · exact absurd (hall _ hlast) hnolf

/-! ## The map pointed at the file -/

/-- The members of a map pointed at `name`, from the members `ms` it had: ascending by key,
`file` set to `name`, `sources` to `[name]`, no `sourceRoot`, and every other key as before. -/
structure PointsAt (ms : List (String × Value)) (name : String) (ms' : List (String × Value)) :
    Prop where
  sorted : Table.Sorted ms'
  file : Value.get? (.obj ms') "file" = some (.str name)
  sources : Value.get? (.obj ms') "sources" = some (.arr [.str name])
  sourceRoot : Value.get? (.obj ms') "sourceRoot" = none
  kept : ∀ k, k ≠ "file" → k ≠ "sources" → k ≠ "sourceRoot" →
    Value.get? (.obj ms') k = Value.get? (.obj ms) k

/-- `m'` is the map `m` pointed at `name`, written compactly, when `m` reads as an object, and
`m` itself otherwise. -/
def Retargets (m name m' : String) : Prop :=
  match Value.read m with
  | .ok (.obj ms) => ∃ ms', PointsAt ms name ms' ∧ m' = (Value.obj ms').compact
  | _ => m' = m

theorem pointsAt_retarget (ms : List (String × Value)) (name : String) :
    PointsAt ms name (Value.sortMembers
      (ms.filter (fun m => m.1 != "file" && m.1 != "sources" && m.1 != "sourceRoot") ++
        [("file", .str name), ("sources", .arr [.str name])])) where
  sorted := sortMembers_sorted _
  file := by rw [Value.get?_sortMembers]; simp
  sources := by rw [Value.get?_sortMembers]; simp
  sourceRoot := by
    rw [Value.get?_sortMembers, Value.get?_obj, List.reverse_append, List.find?_append]
    simp [List.find?_eq_none]
  kept := fun k hf hs hr => by
    rw [Value.get?_sortMembers, Value.get?_obj, Value.get?_obj, List.reverse_append,
      List.find?_append, ← List.filter_reverse, List.find?_filter]
    -- a member of key `k` passes the filter, which only drops the three rewritten keys
    have hpred : (fun m : String × Value =>
        decide ((m.1 != "file" && m.1 != "sources" && m.1 != "sourceRoot") = true ∧
          (m.1 == k) = true)) = (fun m => m.1 == k) := by
      funext m
      by_cases h : m.1 = k <;> simp [h, hf, hs, hr]
    rw [hpred]
    simp [Ne.symm hf, Ne.symm hs]

theorem retargetMap_retargets (m : String) (file : Path) :
    Retargets m file.slashed (retargetMap m file) := by
  unfold Retargets retargetMap
  cases Value.read m with
  | error e => rfl
  | ok v =>
    cases v with
    | obj ms => exact ⟨_, pointsAt_retarget ms file.slashed, rfl⟩
    | _ => rfl

/-! ## Finalizing twice -/

theorem finalize_some (code m : String) (file : Path) :
    finalize code (some m) file =
      ⟨String.ofList (closeLine (bodyOf code.toList)) ++ mappingComment ++ dataUrlPrefix ++
        Text.base64 (retargetMap m file), some (retargetMap m file)⟩ := by
  have hbody := String.toList_injective
    ((toList_closed (bodyOf code.toList)).trans String.toList_ofList.symm)
  rw [← hbody]
  rfl

/-- A character outside the data URL's prefix, the base64 alphabet and the padding is nowhere in
the data URL. -/
theorem not_mem_dataUrl {c : Char} (hlead : c ∉ dataUrlPrefix.toList)
    (halphabet : c ∉ Text.base64Alphabet.toList) (hpad : c ≠ '=') (x : String) :
    c ∉ (dataUrlPrefix ++ Text.base64 x).toList := by
  rw [String.toList_append, List.mem_append]
  rintro (hc | hc)
  · exact hlead hc
  · rcases Text.mem_base64 hc with rfl | hc
    · exact hpad rfl
    · exact halphabet hc

theorem toList_finalize_code (code m : String) (file : Path) :
    (finalize code (some m) file).code.toList =
      closeLine (bodyOf code.toList) ++ mappingComment.toList ++
        (dataUrlPrefix ++ Text.base64 (retargetMap m file)).toList := by
  rw [finalize_some]
  simp only [String.toList_append, String.toList_ofList, List.append_assoc]

/-- The comment a finalized code ends with is the one the next finalizing replaces. -/
theorem bodyOf_finalize (code m : String) (file : Path) :
    bodyOf (finalize code (some m) file).code.toList = closeLine (bodyOf code.toList) := by
  rw [toList_finalize_code]
  exact bodyOf_before_comment _ (not_mem_dataUrl (by decide) (by decide) (by decide) _)
    (not_mem_dataUrl (by decide) (by decide) (by decide) _)

theorem finalize_finalize (code m₁ m₂ : String) (file : Path) :
    finalize (finalize code (some m₁) file).code (some m₂) file =
      finalize code (some m₂) file := by
  rw [finalize_some, bodyOf_finalize, closeLine_closeLine, ← finalize_some]

/-! ## The inlined map -/

theorem finalize_some_spec (code m : String) (file : Path) :
    ∃ body m', finalize code (some m) file =
        ⟨String.ofList (closeLine body) ++ mappingComment ++ dataUrlPrefix ++ Text.base64 m',
          some m'⟩ ∧
      Retargets m file.slashed m' ∧
      Text.base64Decode (Text.base64 m').toList = some (m'.toUTF8.toList.map UInt8.toNat) ∧
      ((∃ i, LastComment code.toList i ∧ '\n' ∉ Text.trimEnd (code.toList.drop i) ∧
          body = code.toList.take i) ∨
        ((∀ i, LastComment code.toList i → '\n' ∈ Text.trimEnd (code.toList.drop i)) ∧
          body = code.toList)) :=
  ⟨bodyOf code.toList, retargetMap m file, finalize_some code m file,
    retargetMap_retargets m file, Text.base64Decode_base64 _, bodyOf_cases code.toList⟩

/-- Inlining a source map. With a map `m`, the code ends with a mapping comment whose data URL
decodes to `m'`, the map pointed at the file's path with forward slashes (or `m` itself when it
does not read as an object); before the comment stands the code without a last mapping comment
on its last line that is not blank, with a line feed after it when it is not empty and does not
end in one. Finalizing the result again with a map `m₂` gives what finalizing the code with `m₂`
gives. Without a map the code is returned as it is. -/
theorem finalize_inlines_map (code m m₂ : String) (file : Path) :
    (∃ body m', finalize code (some m) file =
        ⟨String.ofList (closeLine body) ++ mappingComment ++ dataUrlPrefix ++ Text.base64 m',
          some m'⟩ ∧
      Retargets m file.slashed m' ∧
      Text.base64Decode (Text.base64 m').toList = some (m'.toUTF8.toList.map UInt8.toNat) ∧
      ((∃ i, LastComment code.toList i ∧ '\n' ∉ Text.trimEnd (code.toList.drop i) ∧
          body = code.toList.take i) ∨
        ((∀ i, LastComment code.toList i → '\n' ∈ Text.trimEnd (code.toList.drop i)) ∧
          body = code.toList))) ∧
    finalize (finalize code (some m) file).code (some m₂) file = finalize code (some m₂) file ∧
    finalize code none file = ⟨code, none⟩ :=
  ⟨finalize_some_spec code m file, finalize_finalize code m m₂ file, rfl⟩

end Compiler
end TestTransform
