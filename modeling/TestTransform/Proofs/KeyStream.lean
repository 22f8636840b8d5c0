import TestTransform.Proofs.Transformers

/-
The stream a cache key hashes, read back into its parts.

A key hashes a sequence of parts, each written as its length in eight little-endian bytes and
then its bytes. Such a stream reads back into exactly the parts it was written from
(`partsOfStream_keyStream`), whatever bytes they hold, NUL bytes and empty parts included, as
long as each part is shorter than 2^64 bytes, as every part a caller can hold is.

The key of a file is the hash of the stream of what it is computed from (`KeyInputs`): the
settings' own key, the root, the instrument flag, the source, the resolved path and, with a
program, each imported module with its modification time in milliseconds or the word `missing`;
the next transformer's name, when there is one, stands after the path. For one next transformer,
different inputs give different streams.

The main statement, `key_parts_unambiguous`: streams of parts are equal only for equal parts,
streams of inputs only for equal inputs, and the key a transformer computes is the hash of the
stream of its inputs.
-/

namespace TestTransform

open Config Compiler

namespace Hash

/-! ## Bytes of a text -/

theorem toList_loop (b : ByteArray) (i : Nat) (r : List UInt8) :
    ByteArray.toList.loop b i r = r.reverse ++ b.data.toList.drop i := by
  fun_induction ByteArray.toList.loop b i r with
  | case1 i r hi ih =>
    have hi' : i < b.data.toList.length := by rw [Array.length_toList]; exact hi
    rw [ih, List.drop_eq_getElem_cons hi']
    simp [ByteArray.get!, hi]
  | case2 i r hi =>
    have hend : b.data.toList.length ≤ i := by
      rw [Array.length_toList]; exact Nat.le_of_not_lt hi
    simp [List.drop_eq_nil_of_le hend]

theorem toList_eq_data (b : ByteArray) : b.toList = b.data.toList := by
  simp [ByteArray.toList, toList_loop]

theorem utf8Bytes_inj {s t : String} (h : s.toUTF8.toList = t.toUTF8.toList) : s = t := by
  rw [toList_eq_data, toList_eq_data] at h
  exact String.toByteArray_inj.mp (ByteArray.ext (Array.ext' h))

theorem length_utf8Bytes (s : String) : s.toUTF8.toList.length = s.utf8ByteSize := by
  rw [toList_eq_data, Array.length_toList, ← String.size_toByteArray]
  rfl

/-! ## Reading a stream back -/

/-- The number that little-endian bytes write. -/
def lengthOfBytes (bs : List UInt8) : Nat := bs.foldr (fun b n => b.toNat + 256 * n) 0

/-- The parts a stream was written from: eight bytes of length, then that many bytes, until the
stream ends; `none` when it ends inside a length or inside a part. -/
def partsOfStream (bs : List UInt8) : Option (List (List UInt8)) :=
  if bs.isEmpty then some []
  else if bs.length < 8 then none
  else
    let n := lengthOfBytes (bs.take 8)
    let rest := bs.drop 8
    if rest.length < n then none else (partsOfStream (rest.drop n)).map (rest.take n :: ·)
termination_by bs.length
decreasing_by simp only [List.length_drop]; cases bs <;> simp_all; omega

@[simp] theorem length_lengthBytes (n : Nat) : (lengthBytes n).length = 8 := by
  simp [lengthBytes]

/-- Eight bytes hold every length below 2^64. -/
theorem lengthOfBytes_lengthBytes {n : Nat} (h : n < 2 ^ 64) :
    lengthOfBytes (lengthBytes n) = n := by
  have hmod : lengthOfBytes (lengthBytes n) = n % 2 ^ 64 := by
    simp [lengthOfBytes, lengthBytes, List.range_succ, Nat.pow_succ]
    omega
  rw [hmod, Nat.mod_eq_of_lt h]

theorem keyStream_cons (p : List UInt8) (ps : List (List UInt8)) :
    keyStream (p :: ps) = lengthBytes p.length ++ (p ++ keyStream ps) := by
  simp [keyStream]

theorem partsOfStream_keyStream (ps : List (List UInt8)) (h : ∀ p ∈ ps, p.length < 2 ^ 64) :
    partsOfStream (keyStream ps) = some ps := by
  induction ps with
  | nil => rw [partsOfStream]; rfl
  | cons p ps ih =>
    have hlen : (keyStream (p :: ps)).length = 8 + (p.length + (keyStream ps).length) := by
      simp [keyStream_cons]
    have hfirst : (keyStream (p :: ps)).take 8 = lengthBytes p.length := by
      rw [keyStream_cons, List.take_left' (length_lengthBytes _)]
    have hrest : (keyStream (p :: ps)).drop 8 = p ++ keyStream ps := by
      rw [keyStream_cons, List.drop_left' (length_lengthBytes _)]
    -- the length field reads back as the part's length, so the part is cut where it ends
    rw [partsOfStream, if_neg (by simp [← List.length_eq_zero_iff, hlen]), if_neg (by omega)]
    simp only [hfirst, hrest, lengthOfBytes_lengthBytes (h p (by simp))]
    rw [if_neg (by simp), List.drop_left, List.take_left, ih (fun q hq => h q (by simp [hq]))]
    rfl

theorem keyStream_inj {ps qs : List (List UInt8)} (hps : ∀ p ∈ ps, p.length < 2 ^ 64)
    (hqs : ∀ q ∈ qs, q.length < 2 ^ 64) (h : keyStream ps = keyStream qs) : ps = qs := by
  have hp := partsOfStream_keyStream ps hps
  rw [h, partsOfStream_keyStream qs hqs] at hp
  exact (Option.some.inj hp).symm

/-! ## What a key is computed from -/

/-- The inputs of a cache key. -/
structure KeyInputs where
  settingsKey : String
  rootDir : String
  instrument : Bool
  source : String
  path : String
  /-- each imported module with its modification time in milliseconds, when it has one -/
  modules : List (String × Option Nat)
deriving DecidableEq

def instrumentText (on : Bool) : String := if on then "instrument:on" else "instrument:off"

def stampText : Option Nat → String
  | some ms => toString ms
  | none => "missing"

/-- The parts of a key, the next transformer's name after the path. -/
def KeyInputs.parts (fallback : Option String) (a : KeyInputs) : List String :=
  [a.settingsKey, a.rootDir, instrumentText a.instrument, a.source, a.path] ++ fallback.toList ++
    a.modules.flatMap (fun m => [m.1, stampText m.2])

def KeyInputs.stream (fallback : Option String) (a : KeyInputs) : List UInt8 :=
  keyStream ((a.parts fallback).map (·.toUTF8.toList))

/-- Every part is shorter than 2^64 bytes. -/
def KeyInputs.Fits (fallback : Option String) (a : KeyInputs) : Prop :=
  ∀ s ∈ a.parts fallback, s.utf8ByteSize < 2 ^ 64

/-- The modification time a key records for a module, in milliseconds. -/
def stampOf (store : FileStore) (m : Path) : Option Nat := (store.modified m).toOption.map (1000 * ·)

theorem instrumentText_injective : Function.Injective instrumentText := by
  intro a b h
  cases a <;> cases b <;> simp_all [instrumentText]

theorem toString_injective : Function.Injective (fun n : Nat => toString n) := by
  intro a b h
  have hdigits : Nat.toDigits 10 a = Nat.toDigits 10 b := by
    simpa [Nat.toString_eq_ofList_toDigits] using congrArg String.toList h
  calc a = Nat.ofDigitChars 10 (Nat.toDigits 10 a) 0 := Nat.ofDigitChars_ten_toDigits.symm
    _ = Nat.ofDigitChars 10 (Nat.toDigits 10 b) 0 := by rw [hdigits]
    _ = b := Nat.ofDigitChars_ten_toDigits

/-- A decimal number is never the word for a missing module. -/
theorem toString_ne_missing (n : Nat) : toString n ≠ "missing" := by
  intro h
  have hm : 'm' ∈ (toString n).toList := by rw [h]; decide
  rw [Nat.toString_eq_ofList_toDigits, String.toList_ofList] at hm
  exact absurd (Nat.isDigit_of_mem_toDigits (by decide) (by decide) hm) (by decide)

theorem stampText_injective : Function.Injective stampText
  | some _, some _, h => congrArg some (toString_injective h)
  | some a, none, h => absurd h (toString_ne_missing a)
  | none, some b, h => absurd h.symm (toString_ne_missing b)
  | none, none, _ => rfl

/-- Each module gives two parts, so the parts of the modules name them one by one. -/
theorem stamps_injective : ∀ {ms ms' : List (String × Option Nat)},
    ms.flatMap (fun m => [m.1, stampText m.2]) = ms'.flatMap (fun m => [m.1, stampText m.2]) →
      ms = ms'
  | [], [], _ => rfl
  | [], _ :: _, h => by simp at h
  | _ :: _, [], h => by simp at h
  | (m, t) :: ms, (m', t') :: ms', h => by
    simp only [List.flatMap_cons, List.cons_append, List.nil_append, List.cons.injEq] at h
    obtain ⟨rfl, ht, hrest⟩ := h
    rw [stampText_injective ht, stamps_injective hrest]

/-- With the next transformer fixed, the first parts stand in fixed places and the modules
follow them. -/
theorem KeyInputs.parts_injective (fallback : Option String) {a b : KeyInputs}
    (h : a.parts fallback = b.parts fallback) : a = b := by
  obtain ⟨k, r, i, s, p, ms⟩ := a
  obtain ⟨k', r', i', s', p', ms'⟩ := b
  simp only [KeyInputs.parts, List.cons_append, List.cons.injEq, List.append_cancel_left_eq] at h
  obtain ⟨rfl, rfl, hi, rfl, rfl, hms⟩ := h
  rw [instrumentText_injective hi, stamps_injective hms]

theorem length_stampParts (ms : List (String × Option Nat)) :
    (ms.flatMap (fun m => [m.1, stampText m.2])).length = 2 * ms.length := by
  induction ms with
  | nil => rfl
  | cons m ms ih => simp only [List.flatMap_cons, List.length_append, ih]; simp; omega

/-- The parts of two keys are equal only for one next transformer's name and equal inputs: the
modules give an even number of parts, so a name in one key and not in the other would leave
the counts of different parity. -/
theorem KeyInputs.parts_eq {f₁ f₂ : Option String} {a b : KeyInputs}
    (h : a.parts f₁ = b.parts f₂) : f₁ = f₂ ∧ a = b := by
  have hf : f₁ = f₂ := by
    obtain ⟨k, r, i, s, p, ms⟩ := a
    obtain ⟨k', r', i', s', p', ms'⟩ := b
    simp only [KeyInputs.parts, List.cons_append, List.cons.injEq] at h
    have hrest := h.2.2.2.2.2
    have hlen := congrArg List.length hrest
    simp only [List.length_append, length_stampParts] at hlen
    cases f₁ <;> cases f₂
    · rfl
    · simp at hlen; omega
    · simp at hlen; omega
    · simp only [Option.toList_some, List.nil_append, List.singleton_append, List.cons.injEq] at hrest
      rw [hrest.1]
  subst hf
  exact ⟨rfl, KeyInputs.parts_injective f₁ h⟩

theorem KeyInputs.stream_injective {fallback : Option String} {a b : KeyInputs}
    (ha : a.Fits fallback) (hb : b.Fits fallback) (h : a.stream fallback = b.stream fallback) :
    a = b := by
  have fits : ∀ c : KeyInputs, c.Fits fallback →
      ∀ p ∈ (c.parts fallback).map (·.toUTF8.toList), p.length < 2 ^ 64 := by
    intro c hc p hp
    obtain ⟨s, hs, rfl⟩ := List.mem_map.mp hp
    rw [length_utf8Bytes]
    exact hc s hs
  have hbytes := keyStream_inj (fits a ha) (fits b hb) h
  exact KeyInputs.parts_injective fallback (List.map_injective_iff.mpr (fun _ _ => utf8Bytes_inj) hbytes)

end Hash

/-! ## The key a transformer computes -/

namespace Transformer

open Hash

theorem fallbackParts (fb : Option Fallback) :
    (fb.map (fun f => [f.name])).getD [] = (fb.map Fallback.name).toList := by
  cases fb <;> rfl

/-- A key the transformer computes is the hash of the stream of its inputs: the settings' key,
the root, the instrument flag, the source and the resolved path of the call, and the modules
the compiler gave, if any. -/
theorem computeKey_hashes_inputs {k : Nat} {source : String} {path : Path}
    {options : TransformOptions} {w : Workspace} {T : Transformer} {e : Entry}
    (he : T.entry k = some e) {key : String} {σ : Workspace × Transformer}
    (hrun : (computeKey k source path options).run.run (w, T) = (.ok key, σ)) :
    ∃ modules, key = ofBytes ((KeyInputs.mk e.settings.cacheKey e.settings.rootDir.text
      options.instrument source (Path.resolve e.settings.rootDir path).text modules).stream
        (w.fallback.map Fallback.name)) := by
  unfold computeKey at hrun
  rw [exceptState_bind_ok (by rw [settingsOf_run, he])] at hrun
  rw [exceptState_bind_ok
    (show (get : Transforming _).run.run (w, T) = (.ok (w, T), (w, T)) from rfl)] at hrun
  dsimp only at hrun
  split at hrun
  · -- without a program the key has no modules
    refine ⟨[], ?_⟩
    have hkey : ofParts _ = key :=
      congrArg (fun r => match r.1 with | .ok k => k | .error _ => "") hrun
    rw [← hkey, fallbackParts]
    simp [ofParts, KeyInputs.stream, KeyInputs.parts, instrumentText]
  · rw [exceptState_run_bind, onCompiler_run _ w he] at hrun
    split at hrun
    · next ms s' _ =>
      refine ⟨ms.map (fun m => (m.text, stampOf s'.1.store m)), ?_⟩
      rw [exceptState_bind_ok
        (show (get : Transforming _).run.run s' = (.ok s', s') from rfl)] at hrun
      have hkey : ofParts _ = key :=
        congrArg (fun r => match r.1 with | .ok k => k | .error _ => "") hrun
      rw [← hkey, fallbackParts]
      simp only [ofParts, KeyInputs.stream, KeyInputs.parts, instrumentText, List.flatMap_map]
      congr 4
      refine congrArg (List.flatMap · ms) (funext fun m => ?_)
      unfold stampOf
      cases s'.1.store.modified m <;> rfl
    · exact absurd (congrArg Prod.fst hrun) (by simp)

/-- Length-prefixed parts are unambiguous: two streams of parts are equal only for equal parts,
NUL bytes and empty parts included; for one next transformer two streams of key inputs are equal
only for equal inputs; and a key the transformer computes is the hash of the stream of its
inputs. -/
theorem key_parts_unambiguous :
    (∀ ps qs : List (List UInt8), (∀ p ∈ ps, p.length < 2 ^ 64) →
      (∀ q ∈ qs, q.length < 2 ^ 64) → keyStream ps = keyStream qs → ps = qs) ∧
    (∀ (fallback : Option String) (a b : KeyInputs), a.Fits fallback → b.Fits fallback →
      a.stream fallback = b.stream fallback → a = b) ∧
    (∀ k source path options w (T : Transformer) (e : Entry) key σ, T.entry k = some e →
      (computeKey k source path options).run.run (w, T) = (.ok key, σ) →
      ∃ modules, key = ofBytes ((KeyInputs.mk e.settings.cacheKey e.settings.rootDir.text
        options.instrument source (Path.resolve e.settings.rootDir path).text modules).stream
          (w.fallback.map Fallback.name))) :=
  ⟨fun _ _ hps hqs h => keyStream_inj hps hqs h,
    fun _ _ _ ha hb h => KeyInputs.stream_injective ha hb h,
    fun _ _ _ _ _ _ _ _ _ he hrun => computeKey_hashes_inputs he hrun⟩

/-- A NUL byte inside a part does not move where parts end: `a␀b`, `c` is not `a`, `b␀c`. -/
theorem keyStream_nul_inside_part :
    keyStream [[0x61, 0x00, 0x62], [0x63]] ≠ keyStream [[0x61], [0x62, 0x00, 0x63]] :=
  fun h => absurd (key_parts_unambiguous.1 _ _ (by simp) (by simp) h) (by decide)

end Transformer

end TestTransform
