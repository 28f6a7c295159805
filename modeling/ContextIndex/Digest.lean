/-!
# Content digests

The identity of a content is the BLAKE3 digest of its bytes.  The bytes are cut into chunks of 1024
and those into blocks of 64.  The blocks of a chunk are compressed one into the next; the chunks are
the leaves of a binary tree whose left subtrees are full.  A node of the tree is kept as the inputs
of its last compression, since the root is compressed with a flag of its own.
-/

namespace ContextIndex.Digest

/-- The initial words. -/
def initialWords : Array UInt32 :=
  #[0x6A09E667, 0xBB67AE85, 0x3C6EF372, 0xA54FF53A, 0x510E527F, 0x9B05688C, 0x1F83D9AB, 0x5BE0CD19]

/-- The order in which a round takes the words of the round before. -/
def permutation : Array Nat :=
  #[2, 6, 3, 10, 7, 0, 4, 13, 1, 11, 12, 5, 9, 14, 15, 8]

/-- The flag of the first block of a chunk. -/
def chunkStart : UInt32 := 1

/-- The flag of the last block of a chunk. -/
def chunkEnd : UInt32 := 2

/-- The flag of an inner node. -/
def parent : UInt32 := 4

/-- The flag of the root. -/
def root : UInt32 := 8

/-- A word of a state. -/
def word (s : Array UInt32) (i : Nat) : UInt32 :=
  s.getD i 0

/-- A word with its bits moved right by `n`, around the end. -/
def rotateRight (x n : UInt32) : UInt32 :=
  (x >>> n) ||| (x <<< (32 - n))

/-- Mixes two message words into a column or a diagonal of the state. -/
def mix (s : Array UInt32) (a b c d : Nat) (x y : UInt32) : Array UInt32 :=
  let va := word s a + word s b + x
  let vd := rotateRight (word s d ^^^ va) 16
  let vc := word s c + vd
  let vb := rotateRight (word s b ^^^ vc) 12
  let va := va + vb + y
  let vd := rotateRight (vd ^^^ va) 8
  let vc := vc + vd
  let vb := rotateRight (vb ^^^ vc) 7
  (((s.setIfInBounds a va).setIfInBounds b vb).setIfInBounds c vc).setIfInBounds d vd

/-- One round: the four columns and then the four diagonals. -/
def round (s m : Array UInt32) : Array UInt32 :=
  let s := mix s 0 4 8 12 (word m 0) (word m 1)
  let s := mix s 1 5 9 13 (word m 2) (word m 3)
  let s := mix s 2 6 10 14 (word m 4) (word m 5)
  let s := mix s 3 7 11 15 (word m 6) (word m 7)
  let s := mix s 0 5 10 15 (word m 8) (word m 9)
  let s := mix s 1 6 11 12 (word m 10) (word m 11)
  let s := mix s 2 7 8 13 (word m 12) (word m 13)
  mix s 3 4 9 14 (word m 14) (word m 15)

/-- This many rounds, each with the words permuted after it. -/
def rounds : Nat → Array UInt32 → Array UInt32 → Array UInt32
  | 0, s, _ => s
  | n + 1, s, m => rounds n (round s m) (permutation.map (word m))

/-- The inputs of a compression. -/
structure Node where
  /-- The eight words chained so far. -/
  chaining : Array UInt32
  /-- The sixteen words of the block. -/
  block : Array UInt32
  /-- The number of the chunk. -/
  counter : Nat
  /-- The bytes in the block. -/
  length : Nat
  /-- What kind of block it is. -/
  flags : UInt32

/-- The first eight words after compression, with extra flags. -/
def Node.compress (n : Node) (extra : UInt32) : Array UInt32 :=
  let start := n.chaining ++ initialWords.extract 0 4 ++
    #[n.counter.toUInt32, (n.counter >>> 32).toUInt32, n.length.toUInt32, n.flags ||| extra]
  let s := rounds 7 start n.block
  ((Array.range 8).map fun i => word s i ^^^ word s (i + 8))

/-- The words of a block, four bytes each with the least first. -/
def blockWords (bytes : List UInt8) : Array UInt32 :=
  let b := bytes.toArray
  (Array.range 16).map fun i =>
    (b.getD (4 * i) 0).toUInt32 ||| ((b.getD (4 * i + 1) 0).toUInt32 <<< 8) |||
      ((b.getD (4 * i + 2) 0).toUInt32 <<< 16) ||| ((b.getD (4 * i + 3) 0).toUInt32 <<< 24)

/-- A list cut into pieces of `size`, the last one possibly shorter; `fuel` bounds their number. -/
def pieces {α : Type} (size : Nat) : Nat → List α → List (List α)
  | 0, _ => []
  | fuel + 1, xs =>
    if xs.length ≤ size then [xs] else xs.take size :: pieces size fuel (xs.drop size)

/-- The node of the blocks of a chunk. -/
def blocksNode (counter : Nat) (chaining : Array UInt32) (flags : UInt32) : List (List UInt8) → Node
  | [] => ⟨chaining, blockWords [], counter, 0, flags ||| chunkEnd⟩
  | [b] => ⟨chaining, blockWords b, counter, b.length, flags ||| chunkEnd⟩
  | b :: bs =>
    let node : Node := ⟨chaining, blockWords b, counter, b.length, flags⟩
    blocksNode counter (node.compress 0) 0 bs

/-- The node of a chunk. -/
def chunkNode (counter : Nat) (bytes : List UInt8) : Node :=
  blocksNode counter initialWords chunkStart (pieces 64 16 bytes)

/-- The node above two nodes. -/
def parentNode (l r : Node) : Node :=
  ⟨initialWords, l.compress 0 ++ r.compress 0, 0, 64, parent⟩

/-- The largest power of two below `n`, for `n` at least two. -/
def leftSize (n : Nat) : Nat :=
  Nat.pow 2 (Nat.log2 (n - 1))

/-- The tree over nodes; `fuel` bounds its height. -/
def treeNode : Nat → List Node → Node
  | 0, _ => chunkNode 0 []
  | _ + 1, [] => chunkNode 0 []
  | _ + 1, [n] => n
  | fuel + 1, ns =>
    let left := leftSize ns.length
    parentNode (treeNode fuel (ns.take left)) (treeNode fuel (ns.drop left))

/-- The bytes of a word, the least first. -/
def wordBytes (w : UInt32) : List UInt8 :=
  [w.toUInt8, (w >>> 8).toUInt8, (w >>> 16).toUInt8, (w >>> 24).toUInt8]

/-- The digest of bytes. -/
def ofBytes (bytes : List UInt8) : List UInt8 :=
  let chunks := pieces 1024 (bytes.length / 1024 + 1) bytes
  let leaves := chunks.zipIdx.map fun (c, i) => chunkNode i c
  ((treeNode leaves.length leaves).compress root).toList.flatMap wordBytes

/-- The two hexadecimal digits of a byte. -/
def hexByte (b : UInt8) : List Char :=
  [Nat.digitChar (b.toNat / 16), Nat.digitChar (b.toNat % 16)]

/-- The digest of a text as hexadecimal digits. -/
def ofText (s : String) : String :=
  String.ofList ((ofBytes s.toUTF8.toList).flatMap hexByte)

end ContextIndex.Digest
