/-
The BLAKE3 hash of a byte string, 32 bytes long, in its unkeyed mode.

The input is cut into chunks of 1024 bytes (one empty chunk for the empty input), each chunk
into blocks of 64 bytes. A chunk's blocks are compressed in turn into its chaining value; the
chaining values are joined pairwise in a binary tree whose left subtree holds the largest power
of two of chunks that leaves at least one for the right. The last compression of the root is
flagged as the root's, and its first eight words, little-endian, are the hash.
-/
namespace TestTransform
namespace Hash
namespace Blake3

def initialWords : Array UInt32 :=
  #[0x6A09E667, 0xBB67AE85, 0x3C6EF372, 0xA54FF53A, 0x510E527F, 0x9B05688C, 0x1F83D9AB, 0x5BE0CD19]

def permutation : List Nat := [2, 6, 3, 10, 7, 0, 4, 13, 1, 11, 12, 5, 9, 14, 15, 8]

def chunkStart : UInt32 := 1
def chunkEnd : UInt32 := 2
def parentFlag : UInt32 := 4
def rootFlag : UInt32 := 8

def blockLength : Nat := 64
def chunkLength : Nat := 1024

def rotateRight (x : UInt32) (n : UInt32) : UInt32 := (x >>> n) ||| (x <<< (32 - n))

def word (a : Array UInt32) (i : Nat) : UInt32 := a.getD i 0

/-- The quarter-round on state words `a b c d` with message words `x y`. -/
def mix (st : Array UInt32) (a b c d : Nat) (x y : UInt32) : Array UInt32 :=
  let va := word st a + word st b + x
  let vd := rotateRight (word st d ^^^ va) 16
  let vc := word st c + vd
  let vb := rotateRight (word st b ^^^ vc) 12
  let va := va + vb + y
  let vd := rotateRight (vd ^^^ va) 8
  let vc := vc + vd
  let vb := rotateRight (vb ^^^ vc) 7
  (((st.setIfInBounds a va).setIfInBounds b vb).setIfInBounds c vc).setIfInBounds d vd

def round (st m : Array UInt32) : Array UInt32 :=
  let st := mix st 0 4 8 12 (word m 0) (word m 1)
  let st := mix st 1 5 9 13 (word m 2) (word m 3)
  let st := mix st 2 6 10 14 (word m 4) (word m 5)
  let st := mix st 3 7 11 15 (word m 6) (word m 7)
  let st := mix st 0 5 10 15 (word m 8) (word m 9)
  let st := mix st 1 6 11 12 (word m 10) (word m 11)
  let st := mix st 2 7 8 13 (word m 12) (word m 13)
  mix st 3 4 9 14 (word m 14) (word m 15)

def permute (m : Array UInt32) : Array UInt32 := (permutation.map (word m)).toArray

/-- The sixteen output words of compressing one block under a chaining value. -/
def compress (cv block : Array UInt32) (counter len : Nat) (flags : UInt32) : Array UInt32 :=
  let start := cv ++ initialWords.extract 0 4 ++
    #[counter.toUInt32, (counter / Nat.pow 2 32).toUInt32, len.toUInt32, flags]
  let (st, _) := (List.range 7).foldl (fun (p : Array UInt32 × Array UInt32) _ =>
    (round p.1 p.2, permute p.2)) (start, block)
  ((List.range 8).map (fun i => word st i ^^^ word st (i + 8)) ++
    (List.range 8).map (fun i => word st (i + 8) ^^^ word cv i)).toArray

/-- Sixteen little-endian words of a block, zero-padded to 64 bytes. -/
def blockWords (bytes : List UInt8) : Array UInt32 :=
  let padded := bytes ++ List.replicate (blockLength - bytes.length) 0
  ((List.range 16).map (fun i =>
    let b k := (padded.getD (4 * i + k) 0).toUInt32
    b 0 ||| (b 1 <<< 8) ||| (b 2 <<< 16) ||| (b 3 <<< 24))).toArray

def wordBytes (w : UInt32) : List UInt8 :=
  [w.toUInt8, (w >>> 8).toUInt8, (w >>> 16).toUInt8, (w >>> 24).toUInt8]

/-- `xs` cut into pieces of `n` (at least one piece). -/
def pieces (n : Nat) (xs : List UInt8) : List (List UInt8) :=
  go (xs.length + 1) xs
where
  go : Nat → List UInt8 → List (List UInt8)
    | 0, xs => [xs]
    | fuel + 1, xs => if xs.length ≤ n then [xs] else xs.take n :: go fuel (xs.drop n)

/-- A compression not yet run: the root's may still be flagged. -/
structure Node where
  cv : Array UInt32
  block : Array UInt32
  counter : Nat
  len : Nat
  flags : UInt32

def Node.chainingValue (n : Node) : Array UInt32 :=
  (compress n.cv n.block n.counter n.len n.flags).extract 0 8

def Node.rootBytes (n : Node) : List UInt8 :=
  ((compress n.cv n.block 0 n.len (n.flags ||| rootFlag)).extract 0 8).toList.flatMap wordBytes

/-- The last compression of the chunk with number `index`, its earlier blocks folded in. -/
def chunkNode (chunk : List UInt8) (index : Nat) : Node :=
  let blocks := pieces blockLength chunk
  let body := blocks.dropLast
  let last := blocks.getLastD []
  let cv := (body.zip (List.range body.length)).foldl (fun cv (b, k) =>
    (compress cv (blockWords b) index blockLength (if k == 0 then chunkStart else 0)).extract 0 8)
    initialWords
  ⟨cv, blockWords last, index, last.length, chunkEnd ||| (if body.isEmpty then chunkStart else 0)⟩

def parentNode (left right : Array UInt32) : Node :=
  ⟨initialWords, left ++ right, 0, blockLength, parentFlag⟩

/-- The largest power of two below `n`, for `n ≥ 2`. -/
def leftCount (n : Nat) : Nat := Nat.pow 2 (n - 1).log2

/-- The node of the subtree over `chunks`, numbered from `start`. -/
def treeNode : Nat → List (List UInt8) → Nat → Node
  | 0, chunks, start => chunkNode (chunks.headD []) start
  | fuel + 1, chunks, start =>
    if chunks.length ≤ 1 then chunkNode (chunks.headD []) start
    else
      let k := leftCount chunks.length
      parentNode (treeNode fuel (chunks.take k) start).chainingValue
        (treeNode fuel (chunks.drop k) (start + k)).chainingValue

def digest (bytes : List UInt8) : List UInt8 :=
  let chunks := pieces chunkLength bytes
  (treeNode chunks.length chunks 0).rootBytes

def hexByte (b : UInt8) : String :=
  let d (n : Nat) := "0123456789abcdef".toList.getD n '0'
  String.ofList [d (b.toNat / 16), d (b.toNat % 16)]

def hex (bytes : List UInt8) : String := String.join (bytes.map hexByte)

end Blake3
end Hash
end TestTransform
