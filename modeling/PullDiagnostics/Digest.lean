import PullDiagnostics.Bytes

/-!
# Digests of byte strings

The BLAKE3 digest: the bytes are cut into chunks of 1024, each chunk is compressed block by
block into a value of eight words, and the values are joined by a binary tree whose left
halves are as large a power of two as leaves something for the right. The digest is written
from the root of the tree, which is marked as such.

* `leftSize_pos` and `leftSize_lt`: both halves of a tree of at least two leaves have leaves.
-/

namespace PullDiagnostics.Digest

/-- A row of 32-bit words. -/
abbrev Words := Array UInt32

/-- The words that every compression starts from. -/
def initial : Words :=
  #[0x6A09E667, 0xBB67AE85, 0x3C6EF372, 0xA54FF53A, 0x510E527F, 0x9B05688C, 0x1F83D9AB,
    0x5BE0CD19]

/-- Where the words of a block go before the next round. -/
def shuffle : List Nat :=
  [2, 6, 3, 10, 7, 0, 4, 13, 1, 11, 12, 5, 9, 14, 15, 8]

/-- A word turned right. -/
def turn (w : UInt32) (n : UInt32) : UInt32 :=
  (w >>> n) ||| (w <<< (32 - n))

/-- The word at a place. -/
def wordAt (ws : Words) (i : Nat) : UInt32 :=
  ws.getD i 0

/-- Stirs two words of a block into four words of the state. -/
def stir (s : Words) (a b c d : Nat) (x y : UInt32) : Words :=
  let a₁ := wordAt s a + wordAt s b + x
  let d₁ := turn (wordAt s d ^^^ a₁) 16
  let c₁ := wordAt s c + d₁
  let b₁ := turn (wordAt s b ^^^ c₁) 12
  let a₂ := a₁ + b₁ + y
  let d₂ := turn (d₁ ^^^ a₂) 8
  let c₂ := c₁ + d₂
  let b₂ := turn (b₁ ^^^ c₂) 7
  (((s.setIfInBounds a a₂).setIfInBounds b b₂).setIfInBounds c c₂).setIfInBounds d d₂

/-- One round: the columns of the state and then its diagonals. -/
def round (s m : Words) : Words :=
  let s := stir s 0 4 8 12 (wordAt m 0) (wordAt m 1)
  let s := stir s 1 5 9 13 (wordAt m 2) (wordAt m 3)
  let s := stir s 2 6 10 14 (wordAt m 4) (wordAt m 5)
  let s := stir s 3 7 11 15 (wordAt m 6) (wordAt m 7)
  let s := stir s 0 5 10 15 (wordAt m 8) (wordAt m 9)
  let s := stir s 1 6 11 12 (wordAt m 10) (wordAt m 11)
  let s := stir s 2 7 8 13 (wordAt m 12) (wordAt m 13)
  stir s 3 4 9 14 (wordAt m 14) (wordAt m 15)

/-- Some rounds, the block shuffled between them. -/
def rounds : (n : Nat) → Words → Words → Words
  | 0, s, _ => s
  | n + 1, s, m => rounds n (round s m) (shuffle.toArray.map (wordAt m))

/-- What is to be compressed: the value so far, a block, its place and length, and marks. -/
structure Node where
  value : Words
  block : Words
  counter : Nat
  length : Nat
  flags : UInt32

/-- Marks the first block of a chunk. -/
def chunkStart : UInt32 := 1

/-- Marks the last block of a chunk. -/
def chunkEnd : UInt32 := 2

/-- Marks a node that joins two others. -/
def parentMark : UInt32 := 4

/-- Marks the root. -/
def rootMark : UInt32 := 8

/-- The value of a node: eight words. -/
def Node.compress (n : Node) : Words :=
  let start := n.value ++ initial.extract 0 4 ++
    #[UInt32.ofNat n.counter, UInt32.ofNat (n.counter >>> 32), UInt32.ofNat n.length, n.flags]
  let s := rounds 7 start n.block
  (Array.range 8).map fun i => wordAt s i ^^^ wordAt s (i + 8)

/-- The words of at most 64 bytes, the lowest byte first; missing bytes are zero. -/
def words : (count : Nat) → Bytes → List UInt32
  | 0, _ => []
  | count + 1, bytes =>
      let byte (i : Nat) : UInt32 := (bytes.getD i 0).toUInt32
      (byte 0 ||| (byte 1 <<< 8) ||| (byte 2 <<< 16) ||| (byte 3 <<< 24)) ::
        words count (bytes.drop 4)

/-- The node of the last block of a chunk, all blocks before it compressed. At most
`fuel + 1` blocks are read. -/
def lastBlock (counter : Nat) : (fuel : Nat) → (value : Words) → (mark : UInt32) → Bytes → Node
  | 0, value, mark, bytes =>
      ⟨value, (words 16 bytes).toArray, counter, bytes.length, mark ||| chunkEnd⟩
  | fuel + 1, value, mark, bytes =>
      if bytes.length ≤ 64 then
        ⟨value, (words 16 bytes).toArray, counter, bytes.length, mark ||| chunkEnd⟩
      else
        let node : Node := ⟨value, (words 16 (bytes.take 64)).toArray, counter, 64, mark⟩
        lastBlock counter fuel node.compress 0 (bytes.drop 64)

/-- The node of a chunk. -/
def chunkNode (counter : Nat) (bytes : Bytes) : Node :=
  lastBlock counter 15 initial chunkStart bytes

/-- The chunks of a byte string, the last one not empty unless it is the only one. -/
def chunks (bytes : Bytes) : List Bytes :=
  if _h : bytes.length ≤ 1024 then [bytes]
  else bytes.take 1024 :: chunks (bytes.drop 1024)
termination_by bytes.length
decreasing_by simp; omega

/-- The node that joins two others. -/
def parent (left right : Node) : Node :=
  ⟨initial, left.compress ++ right.compress, 0, 64, parentMark⟩

/-- The number of leaves on the left of a tree. -/
def leftSize (leaves : Nat) : Nat :=
  1 <<< (leaves - 1).log2

/-- A left subtree has a leaf. -/
theorem leftSize_pos (leaves : Nat) : 0 < leftSize leaves := by
  simp only [leftSize, Nat.shiftLeft_eq, Nat.one_mul]
  exact Nat.two_pow_pos _

/-- The right subtree has a leaf too, so both recursions get smaller. -/
theorem leftSize_lt {leaves : Nat} (h : 2 ≤ leaves) : leftSize leaves < leaves := by
  have := Nat.log2_self_le (n := leaves - 1) (by omega)
  simp only [leftSize, Nat.shiftLeft_eq, Nat.one_mul]
  omega

/-- The node at the top of a tree over some leaves. -/
def tree : List Node → Node
  | [] => chunkNode 0 []
  | [leaf] => leaf
  | first :: second :: rest =>
      let leaves := first :: second :: rest
      parent (tree (leaves.take (leftSize leaves.length)))
        (tree (leaves.drop (leftSize leaves.length)))
termination_by leaves => leaves.length
decreasing_by
  · have := @leftSize_lt (first :: second :: rest).length (by simp)
    simp only [List.length_take]
    omega
  · have := leftSize_pos (first :: second :: rest).length
    simp only [List.length_drop, List.length_cons]
    simp only [List.length_cons] at this
    omega

/-- The words of the digest. -/
def ofBytes (bytes : Bytes) : Words :=
  let leaves := (chunks bytes).zipIdx.map fun (chunk, i) => chunkNode i chunk
  let top := tree leaves
  { top with flags := top.flags ||| rootMark }.compress

end PullDiagnostics.Digest
