import TestTransform.Proofs.QuotedStrings

/-
Reading back written lists, maps and texts by their shapes.

A value written compactly is a run of bytes: a list is its items with a comma between two, in
brackets; a map is its members, each a quoted key, a colon and the value, in braces. The
statements here say that reading by a shape at such bytes gives the decoded tree and stands
just past them: `readShape_text` for a quoted string, `readShape_seq` for a list and
`readShape_dict` for a map, each from what reading one element does (`ReadsAll`), so that
they nest as the shapes do. `readText_of_readShape` turns a reading of the whole text into
the result of `Shape.readText`. The loops over items and members spend one step of their
counts on each element, so counts above the number of bytes are never exhausted.
-/

namespace TestTransform
namespace Json

/-! ## Written bytes -/

/-- The bytes of a text. -/
def bytes (t : String) : List UInt8 := t.toUTF8.data.toList

theorem bytes_append (a b : String) : bytes (a ++ b) = bytes a ++ bytes b := by
  simp [bytes, String.toByteArray_append]

/-- Written elements one after another, a comma between two. -/
def joined {α : Type} (w : α → List UInt8) : List α → List UInt8
  | [] => []
  | x :: xs => w x ++ xs.flatMap (fun y => 0x2C :: w y)

theorem bytes_compactItems (xs : List Value) :
    bytes (Value.compactItems xs) = joined (fun x => bytes x.compact) xs := by
  induction xs with
  | nil => rfl
  | cons x xs ih =>
    cases xs with
    | nil => simp [Value.compactItems, joined]
    | cons y ys =>
      simp only [Value.compactItems] at ih ⊢
      rw [bytes_append, bytes_append, ih]
      simp [joined]
      rfl

theorem joined_map {α β : Type} (f : α → β) (w : β → List UInt8) (xs : List α) :
    joined w (xs.map f) = joined (fun x => w (f x)) xs := by
  cases xs with
  | nil => rfl
  | cons x xs => simp [joined, List.flatMap_map]

theorem joined_pair {α : Type} (w : α → List UInt8) (a b : α) :
    joined w [a, b] = w a ++ 0x2C :: w b := by
  simp [joined]

/-- The written bytes of a member: its quoted key, a colon and its value. -/
def member {α : Type} (w : α → List UInt8) (m : String × α) : List UInt8 :=
  bytes (quote m.1) ++ 0x3A :: w m.2

theorem bytes_compactMembers (ms : List (String × Value)) :
    bytes (Value.compactMembers ms) = joined (member (fun x => bytes x.compact)) ms := by
  induction ms with
  | nil => rfl
  | cons m ms ih =>
    cases ms with
    | nil => simp [Value.compactMembers, joined, member, bytes_append]; rfl
    | cons m' ms' =>
      simp only [Value.compactMembers] at ih ⊢
      rw [bytes_append, bytes_append, bytes_append, bytes_append, ih]
      simp [joined, member]
      rfl

theorem joined_member_map {α β : Type} (f : α → β) (w : β → List UInt8) (ms : List (String × α)) :
    joined (member w) (ms.map (fun m => (m.1, f m.2))) = joined (member (fun x => w (f x))) ms := by
  rw [joined_map]
  rfl

theorem quote_head (t : String) : ∃ tail, bytes (quote t) = 0x22 :: tail :=
  ⟨_, by rw [bytes, quote_bytes]; rfl⟩

section Shapes

variable {s : ByteArray} {i : Nat} {rest : List UInt8}

/-- The written bytes of every element start with a byte that is neither blank nor a closing
bracket. -/
def Opens {α : Type} (w : α → List UInt8) (xs : List α) : Prop :=
  ∀ x ∈ xs, ∃ b tail, w x = b :: tail ∧ isBlank b = false ∧ b ≠ 0x5D

/-- Reading `item` where the written bytes `w x` of an element stand gives `dec x` and stands
past them. -/
def ReadsAll {α : Type} (s : ByteArray) (fuel depth : Nat) (item : Shape) (w : α → List UInt8)
    (dec : α → Decoded) (xs : List α) : Prop :=
  ∀ x ∈ xs, ∀ i rest, w x ++ rest <+: unread s i →
    readShape s fuel depth item i = .ok (dec x, i + (w x).length)

/-! ## Strings -/

/-- A quoted string is read as the string it quotes. -/
theorem readShape_text {t e : String} {fuel depth : Nat} (h : bytes (quote t) ++ rest <+: unread s i) :
    readShape s (fuel + 1) depth (.text e) i = .ok (.value (.str t), i + (bytes (quote t)).length) := by
  have hq : bytes (quote t) = 0x22 :: (t.toList.flatMap escapedBytes ++ [0x22]) := by
    rw [bytes, quote_bytes]
    rfl
  have h' := h
  rw [hq] at h'
  rw [readShape, skipBlank_of_unread h' rfl]
  simp only [byteAt_of_unread h', readString_quote h]
  rfl

theorem readsAll_text {fuel depth : Nat} (e : String) (ts : List String) :
    ReadsAll s (fuel + 1) depth (.text e) (fun t => bytes (quote t)) (fun t => .value (.str t)) ts :=
  fun _ _ _ _ h => readShape_text h

theorem opens_quote (ts : List String) : Opens (fun t => bytes (quote t)) ts := by
  intro t _
  obtain ⟨tail, htail⟩ := quote_head t
  exact ⟨0x22, tail, htail, rfl, by decide⟩

/-! ## Lists -/

theorem length_le_flatMap_cons {α : Type} (b : UInt8) (w : α → List UInt8) (xs : List α) :
    xs.length ≤ (xs.flatMap (fun y => b :: w y)).length := by
  induction xs with
  | nil => simp
  | cons x xs ih =>
    simp only [List.flatMap_cons, List.length_append, List.length_cons]
    omega

theorem nextItem_close {k : Nat} {first : Bool} (h : 0x5D :: rest <+: unread s k) :
    nextItem s k first = .ok (none, k) := by
  rw [nextItem, skipBlank_of_unread h rfl]
  simp only [byteAt_of_unread h]

theorem nextItem_first {k : Nat} {b : UInt8} (h : b :: rest <+: unread s k) (hb : isBlank b = false)
    (hclose : b ≠ 0x5D) : nextItem s k true = .ok (some k, k) := by
  rw [nextItem, skipBlank_of_unread h hb]
  simp only [byteAt_of_unread h]
  simp

theorem nextItem_comma {k : Nat} {b : UInt8} (h : 0x2C :: b :: rest <+: unread s k)
    (hb : isBlank b = false) (hclose : b ≠ 0x5D) :
    nextItem s k false = .ok (some (k + 1), k + 1) := by
  rw [nextItem, skipBlank_of_unread h rfl]
  simp only [byteAt_of_unread h]
  rw [skipBlank_of_unread (unread_succ h) hb]
  simp [byteAt_of_unread (unread_succ h)]

theorem items_after_first {α : Type} {fuel depth : Nat} {item : Shape} {w : α → List UInt8}
    {dec : α → Decoded} {xs : List α} (hall : ReadsAll s fuel depth item w dec xs)
    (hopen : Opens w xs) :
    ∀ {count k : Nat} {acc : List Decoded}, xs.length < count →
      xs.flatMap (fun y => 0x2C :: w y) ++ 0x5D :: rest <+: unread s k →
      readShapeItems s (readShape s fuel depth) item count k false acc =
        .ok (.items (acc.reverse ++ xs.map dec), k + (xs.flatMap (fun y => 0x2C :: w y)).length) := by
  induction xs with
  | nil =>
    intro count k acc hcount h
    obtain ⟨count, rfl⟩ : ∃ c, count = c + 1 := ⟨count - 1, by simp at hcount; omega⟩
    rw [readShapeItems, nextItem_close h]
    simp
  | cons x xs ih =>
    intro count k acc hcount h
    obtain ⟨count, rfl⟩ : ∃ c, count = c + 1 := ⟨count - 1, by simp at hcount; omega⟩
    obtain ⟨b, tail, hw, hb, hclose⟩ := hopen x (List.mem_cons_self ..)
    rw [List.flatMap_cons, List.append_assoc] at h
    have hx : w x ++ (xs.flatMap (fun y => 0x2C :: w y) ++ 0x5D :: rest) <+: unread s (k + 1) :=
      unread_succ (by simpa using h)
    have hnext : nextItem s k false = .ok (some (k + 1), k + 1) := by
      rw [hw] at h
      exact nextItem_comma (by simpa using h) hb hclose
    rw [readShapeItems, hnext]
    simp only
    rw [hall x (List.mem_cons_self ..) _ _ hx]
    simp only
    rw [ih (fun y hy => hall y (List.mem_cons_of_mem _ hy)) (fun y hy => hopen y (List.mem_cons_of_mem _ hy))
      (by simp at hcount; omega) (unread_append hx)]
    simp
    omega

theorem closeWith_endList {α : Type} {k : Nat} {a : α} (h : 0x5D :: rest <+: unread s k) :
    closeWith s endList (.ok (a, k)) = .ok (a, k + 1) := by
  have hend : endList s k = (k + 1, none) := by
    rw [endList, skipBlank_of_unread h rfl]
    simp only [byteAt_of_unread h]
  simp only [closeWith, hend]

/-- A list is read item by item up to its closing bracket. -/
theorem readShape_seq {α : Type} {fuel depth : Nat} {item : Shape} {w : α → List UInt8}
    {dec : α → Decoded} {xs : List α} (hall : ReadsAll s fuel (depth - 1) item w dec xs)
    (hopen : Opens w xs) (hdepth : 1 < depth) (h : 0x5B :: joined w xs ++ 0x5D :: rest <+: unread s i) :
    readShape s (fuel + 1) depth (.seq item) i =
      .ok (.items (xs.map dec), i + (joined w xs).length + 2) := by
  have hbody : joined w xs ++ 0x5D :: rest <+: unread s (i + 1) := unread_succ h
  have hsize := length_le_of_unread hbody
  rw [readShape, skipBlank_of_unread h rfl]
  simp only [byteAt_of_unread h, if_neg (Nat.not_le.mpr hdepth)]
  cases xs with
  | nil =>
    rw [readShapeItems, nextItem_close hbody]
    simp only
    rw [closeWith_endList hbody]
    simp [joined]
  | cons x xs =>
    obtain ⟨b, tail, hw, hb, hclose⟩ := hopen x (List.mem_cons_self ..)
    simp only [joined, List.append_assoc] at hbody hsize ⊢
    have hfirst : nextItem s (i + 1) true = .ok (some (i + 1), i + 1) := by
      rw [hw] at hbody
      exact nextItem_first hbody hb hclose
    have hcount := length_le_flatMap_cons 0x2C w xs
    simp only [List.length_append, List.length_cons] at hsize
    rw [readShapeItems, hfirst]
    simp only
    rw [hall x (List.mem_cons_self ..) _ _ hbody]
    simp only
    rw [items_after_first (fun y hy => hall y (List.mem_cons_of_mem _ hy))
      (fun y hy => hopen y (List.mem_cons_of_mem _ hy)) (by omega) (unread_append hbody)]
    rw [closeWith_endList (unread_append (unread_append hbody))]
    simp only [List.reverse_singleton, List.singleton_append, List.map_cons, List.length_append]
    congr 2
    omega

/-! ## Maps -/

theorem nextKey_close {k : Nat} {first : Bool} (h : 0x7D :: rest <+: unread s k) :
    nextKey s k first = .ok (none, k) := by
  rw [nextKey, skipBlank_of_unread h rfl]
  simp only [byteAt_of_unread h]

theorem nextKey_first {k : Nat} (h : 0x22 :: rest <+: unread s k) :
    nextKey s k true = .ok (some k, k) := by
  rw [nextKey, skipBlank_of_unread h rfl]
  simp [byteAt_of_unread h]

theorem nextKey_comma {k : Nat} (h : 0x2C :: 0x22 :: rest <+: unread s k) :
    nextKey s k false = .ok (some (k + 1), k + 1) := by
  rw [nextKey, skipBlank_of_unread h rfl]
  simp only [byteAt_of_unread h]
  rw [skipBlank_of_unread (unread_succ h) rfl]
  simp [byteAt_of_unread (unread_succ h)]

theorem readColon_here {k : Nat} (h : 0x3A :: rest <+: unread s k) : readColon s k = .ok (k + 1) := by
  rw [readColon, skipBlank_of_unread h rfl]
  simp only [byteAt_of_unread h]

/-- A member is read as its key, then a colon, then its value, by whichever reader `read` reads
the value where it stands. -/
theorem readMember {α β : Type} {read : Nat → Reading β} {w : α → List UInt8}
    {d : β} {key : String} {x : α} {j : Nat}
    (h : member w (key, x) ++ rest <+: unread s j)
    (hx : ∀ i, w x ++ rest <+: unread s i → read i = .ok (d, i + (w x).length)) :
    readString s (j + 1) false = .ok (key, j + (bytes (quote key)).length) ∧
      readColon s (j + (bytes (quote key)).length) = .ok (j + (bytes (quote key)).length + 1) ∧
      read (j + (bytes (quote key)).length + 1) = .ok (d, j + (member w (key, x)).length) := by
  simp only [member, List.append_assoc, List.cons_append] at h
  have hcolon := unread_append h
  refine ⟨readString_quote h, readColon_here hcolon, ?_⟩
  rw [hx _ (unread_succ hcolon), member]
  simp only [List.length_append, List.length_cons]
  congr 2
  omega

/-- After a member come the next member's comma or the closing brace: what `E` admits, when it
admits both. -/
theorem after_members {α : Type} {E : List UInt8 → Prop} (hE : ∀ t, E (0x2C :: t) ∧ E (0x7D :: t))
    (f : α → List UInt8) (xs : List α) (rest : List UInt8) :
    E (xs.flatMap (fun y => 0x2C :: f y) ++ 0x7D :: rest) := by
  cases xs with
  | nil => exact (hE rest).2
  | cons y ys => exact (hE _).1

theorem entries_after_first {α : Type} {fuel depth : Nat} {item : Shape} {w : α → List UInt8}
    {dec : α → Decoded} {ms : List (String × α)} {E : List UInt8 → Prop}
    (hE : ∀ t, E (0x2C :: t) ∧ E (0x7D :: t))
    (hall : ∀ m ∈ ms, ∀ i rest, w m.2 ++ rest <+: unread s i → E rest →
      readShape s fuel depth item i = .ok (dec m.2, i + (w m.2).length)) :
    ∀ {count k : Nat} {acc : List (String × Decoded)}, ms.length < count →
      ms.flatMap (fun m => 0x2C :: member w m) ++ 0x7D :: rest <+: unread s k →
      readShapeEntries s (readShape s fuel depth) item count k false acc =
        .ok (.entries (acc.reverse ++ ms.map (fun m => (m.1, dec m.2))),
          k + (ms.flatMap (fun m => 0x2C :: member w m)).length) := by
  induction ms with
  | nil =>
    intro count k acc hcount h
    obtain ⟨count, rfl⟩ : ∃ c, count = c + 1 := ⟨count - 1, by simp at hcount; omega⟩
    rw [readShapeEntries, nextKey_close h]
    simp
  | cons m ms ih =>
    intro count k acc hcount h
    obtain ⟨count, rfl⟩ : ∃ c, count = c + 1 := ⟨count - 1, by simp at hcount; omega⟩
    rw [List.flatMap_cons, List.append_assoc] at h
    have hm : member w m ++ (ms.flatMap (fun m => 0x2C :: member w m) ++ 0x7D :: rest) <+:
        unread s (k + 1) := unread_succ (by simpa using h)
    have hnext : nextKey s k false = .ok (some (k + 1), k + 1) := by
      obtain ⟨tail, htail⟩ := quote_head m.1
      rw [member, htail] at h
      exact nextKey_comma (by simpa using h)
    obtain ⟨hkey, hcolon, hvalue⟩ :=
      readMember hm (fun i hv => hall m List.mem_cons_self i _ hv (after_members hE _ ms rest))
    rw [readShapeEntries, hnext]
    simp only [hkey, hcolon, hvalue]
    rw [ih (fun y hy => hall y (List.mem_cons_of_mem _ hy)) (by simp at hcount; omega)
      (unread_append hm)]
    simp
    omega

theorem closeWith_endObject {α : Type} {k : Nat} {a : α} (h : 0x7D :: rest <+: unread s k) :
    closeWith s endObject (.ok (a, k)) = .ok (a, k + 1) := by
  have hend : endObject s k = (k + 1, none) := by
    rw [endObject, skipBlank_of_unread h rfl]
    simp only [byteAt_of_unread h]
  simp only [closeWith, hend]

/-- A map is read member by member up to its closing brace, each value where it is followed by
what `E` admits, a comma or the brace among them. -/
theorem readShape_dict_followed {α : Type} {fuel depth : Nat} {item : Shape} {w : α → List UInt8}
    {dec : α → Decoded} {ms : List (String × α)} {E : List UInt8 → Prop}
    (hE : ∀ t, E (0x2C :: t) ∧ E (0x7D :: t))
    (hall : ∀ m ∈ ms, ∀ i rest, w m.2 ++ rest <+: unread s i → E rest →
      readShape s fuel (depth - 1) item i = .ok (dec m.2, i + (w m.2).length))
    (hdepth : 1 < depth) (h : 0x7B :: joined (member w) ms ++ 0x7D :: rest <+: unread s i) :
    readShape s (fuel + 1) depth (.dict item) i =
      .ok (.entries (ms.map (fun m => (m.1, dec m.2))), i + (joined (member w) ms).length + 2) := by
  have hbody : joined (member w) ms ++ 0x7D :: rest <+: unread s (i + 1) := unread_succ h
  have hsize := length_le_of_unread hbody
  rw [readShape, skipBlank_of_unread h rfl]
  simp only [byteAt_of_unread h, if_neg (Nat.not_le.mpr hdepth)]
  cases ms with
  | nil =>
    rw [readShapeEntries, nextKey_close hbody]
    simp only
    rw [closeWith_endObject hbody]
    simp [joined]
  | cons m ms =>
    simp only [joined, List.append_assoc] at hbody hsize ⊢
    have hfirst : nextKey s (i + 1) true = .ok (some (i + 1), i + 1) := by
      obtain ⟨tail, htail⟩ := quote_head m.1
      rw [member, htail] at hbody
      exact nextKey_first (by simpa using hbody)
    obtain ⟨hkey, hcolon, hvalue⟩ :=
      readMember hbody (fun i hv => hall m List.mem_cons_self i _ hv (after_members hE _ ms rest))
    have hcount := length_le_flatMap_cons 0x2C (member w) ms
    simp only [List.length_append, List.length_cons] at hsize
    rw [readShapeEntries, hfirst]
    simp only [hkey, hcolon, hvalue]
    rw [entries_after_first hE (fun y hy => hall y (List.mem_cons_of_mem _ hy)) (by omega)
      (unread_append hbody)]
    rw [closeWith_endObject (unread_append (unread_append hbody))]
    simp only [List.reverse_singleton, List.singleton_append, List.map_cons, List.length_append]
    congr 2
    omega

/-- A map is read member by member up to its closing brace. -/
theorem readShape_dict {α : Type} {fuel depth : Nat} {item : Shape} {w : α → List UInt8}
    {dec : α → Decoded} {ms : List (String × α)}
    (hall : ReadsAll s fuel (depth - 1) item w dec (ms.map Prod.snd)) (hdepth : 1 < depth)
    (h : 0x7B :: joined (member w) ms ++ 0x7D :: rest <+: unread s i) :
    readShape s (fuel + 1) depth (.dict item) i =
      .ok (.entries (ms.map (fun m => (m.1, dec m.2))), i + (joined (member w) ms).length + 2) :=
  readShape_dict_followed (E := fun _ => True) (fun _ => ⟨trivial, trivial⟩)
    (fun m hm i rest hv _ => hall m.2 (List.mem_map_of_mem hm) i rest hv) hdepth h

/-! ## Whole texts -/

/-- A text is read by a shape when the whole of it is read so. -/
theorem readText_of_readShape {shape : Shape} {text : String} {d : Decoded}
    (h : readShape text.toUTF8 (fuelFor text.toUTF8 + 64) recursionLimit shape 0 =
      .ok (d, text.toUTF8.size)) : shape.readText text = .ok d := by
  have hend : skipBlank text.toUTF8 text.toUTF8.size = text.toUTF8.size := by
    rw [skipBlank]
    simp
  have hnone : byteAt text.toUTF8 text.toUTF8.size = none := by
    simp [byteAt]
  simp only [Shape.readText, h, expectEnd, hend, hnone]
  rfl

end Shapes

end Json
end TestTransform
