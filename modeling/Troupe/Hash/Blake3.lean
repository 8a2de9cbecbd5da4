import Troupe.Text.Hex

/-!
# The Blake3 hash

The hash of a byte string with the 256-bit output.  The input is cut into chunks of 1024
bytes and each chunk into blocks of 64; a chunk folds its blocks into a chaining value, and
the chunks are the leaves of a binary tree in which every left subtree is complete.
Joining neighbours level by level, with an odd last node carried up, builds exactly that
tree.
-/

namespace Troupe.Blake3

/-- Eight words: a chaining value. -/
abbrev Chain := Vector UInt32 8

/-- Sixteen words: a message block or a compression state. -/
abbrev Block := Vector UInt32 16

/-- The first words of the state, before any input. -/
def start : Chain :=
  #v[0x6A09E667, 0xBB67AE85, 0x3C6EF372, 0xA54FF53A, 0x510E527F, 0x9B05688C, 0x1F83D9AB,
    0x5BE0CD19]

/-- Where each word of the next round's message comes from. -/
def schedule : Vector (Fin 16) 16 := #v[2, 6, 3, 10, 7, 0, 4, 13, 1, 11, 12, 5, 9, 14, 15, 8]

/-- Turn a word right by a number of bits between 1 and 31. -/
def rotateRight (word count : UInt32) : UInt32 := (word >>> count) ||| (word <<< (32 - count))

/-- Mix two message words into one column or diagonal of the state. -/
def mix (state : Block) (a b c d : Fin 16) (x y : UInt32) : Block :=
  let va := state[a] + state[b] + x
  let vd := rotateRight (state[d] ^^^ va) 16
  let vc := state[c] + vd
  let vb := rotateRight (state[b] ^^^ vc) 12
  let va := va + vb + y
  let vd := rotateRight (vd ^^^ va) 8
  let vc := vc + vd
  let vb := rotateRight (vb ^^^ vc) 7
  (((state.set a va).set b vb).set c vc).set d vd

/-- One round: the four columns, then the four diagonals. -/
def round (state message : Block) : Block :=
  let state := mix state 0 4 8 12 message[0] message[1]
  let state := mix state 1 5 9 13 message[2] message[3]
  let state := mix state 2 6 10 14 message[4] message[5]
  let state := mix state 3 7 11 15 message[6] message[7]
  let state := mix state 0 5 10 15 message[8] message[9]
  let state := mix state 1 6 11 12 message[10] message[11]
  let state := mix state 2 7 8 13 message[12] message[13]
  mix state 3 4 9 14 message[14] message[15]

/-- Several rounds, the message permuted between them. -/
def rounds : Nat → Block → Block → Block
  | 0, state, _ => state
  | n + 1, state, message => rounds n (round state message) (schedule.map fun i => message[i])

/-- A node of the tree before its last compression: what is compressed and how. -/
structure Node where
  /-- Chaining value that enters the compression. -/
  chain : Chain
  /-- Message block. -/
  block : Block
  /-- Position of the chunk, zero for inner nodes. -/
  counter : UInt64
  /-- Number of bytes in the block. -/
  length : UInt32
  /-- Domain flags: 1 first block, 2 last block, 4 inner node. -/
  flags : UInt32

/-- The first eight words of a compression, with extra flags. -/
def Node.compress (node : Node) (extra : UInt32) : Chain :=
  let state : Block := node.chain ++ #v[start[0], start[1], start[2], start[3],
    node.counter.toUInt32, (node.counter >>> 32).toUInt32, node.length, node.flags ||| extra]
  let state := rounds 7 state node.block
  Vector.ofFn fun i => state.get (i.castLE (by decide)) ^^^ state.get (i.natAdd 8)

/-- The chaining value that a node hands to its parent. -/
def Node.value (node : Node) : Chain := node.compress 0

/-- A little-endian word from four bytes; missing bytes count as zero. -/
def word (bytes : List UInt8) (index : Nat) : UInt32 :=
  let byte (i : Nat) : UInt32 := (bytes.getD (4 * index + i) 0).toUInt32
  byte 0 ||| (byte 1 <<< 8) ||| (byte 2 <<< 16) ||| (byte 3 <<< 24)

/-- Sixteen words from at most 64 bytes. -/
def blockOf (bytes : List UInt8) : Block := Vector.ofFn fun i : Fin 16 => word bytes i.val

/-- Cut bytes into pieces of a given positive size, the last one possibly shorter; no bytes
give one empty piece. -/
def pieces (size : Nat) : (fuel : Nat) → List UInt8 → List (List UInt8)
  | 0, bytes => [bytes]
  | fuel + 1, bytes =>
    if bytes.length ≤ size then [bytes] else bytes.take size :: pieces size fuel (bytes.drop size)

/-- Fold the blocks of one chunk; the last is left to be compressed. -/
def chunkFrom (counter : UInt64) (chain : Chain) (flags : UInt32) : List (List UInt8) → Node
  | [] => ⟨chain, blockOf [], counter, 0, flags ||| 2⟩
  | [last] => ⟨chain, blockOf last, counter, UInt32.ofNat last.length, flags ||| 2⟩
  | bytes :: rest =>
    chunkFrom counter (Node.value ⟨chain, blockOf bytes, counter, 64, flags⟩) 0 rest

/-- The leaf for one chunk of at most 1024 bytes. -/
def chunk (counter : UInt64) (bytes : List UInt8) : Node :=
  chunkFrom counter start 1 (pieces 64 bytes.length bytes)

/-- The inner node over two nodes. -/
def parent (left right : Node) : Node :=
  ⟨start, left.value ++ right.value, 0, 64, 4⟩

/-- Join neighbouring nodes; an odd last node is carried up. -/
def joinPairs : List Node → List Node
  | left :: right :: rest => parent left right :: joinPairs rest
  | nodes => nodes

/-- Join level by level until one node is left. -/
def root : (fuel : Nat) → Node → List Node → Node
  | 0, first, _ => first
  | fuel + 1, first, rest =>
    match joinPairs (first :: rest) with
    | [] => first
    | first :: rest => if rest.isEmpty then first else root fuel first rest

/-- The eight words of the hash. -/
def hashWords (bytes : List UInt8) : Chain :=
  let leaves := (pieces 1024 bytes.length bytes).mapIdx fun i piece => chunk (UInt64.ofNat i) piece
  match leaves with
  | [] => (chunk 0 []).compress 8
  | first :: rest => (root rest.length first rest).compress 8

/-- The four bytes of a word, least significant first. -/
def wordBytes (word : UInt32) : List UInt8 :=
  [word.toUInt8, (word >>> 8).toUInt8, (word >>> 16).toUInt8, (word >>> 24).toUInt8]

/-- The 32 bytes of the hash. -/
def hash (bytes : List UInt8) : List UInt8 :=
  (hashWords bytes).toList.flatMap wordBytes

/-- The hash as 64 lower-case hexadecimal digits. -/
def hashText (bytes : List UInt8) : String := Hex.ofBytes (hash bytes)

end Troupe.Blake3
