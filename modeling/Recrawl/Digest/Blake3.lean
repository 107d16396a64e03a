import Recrawl.Bytes

/-!
The BLAKE3 digest. Content is cut into chunks, each is compressed block by block,
and the results are combined in pairs until one is left. What is compressed last
is marked as the root.
-/
namespace Recrawl.Digest.Blake3

abbrev State := Vector UInt32 16

abbrev Chain := Vector UInt32 8

def initial : Chain :=
  #v[0x6A09E667, 0xBB67AE85, 0x3C6EF372, 0xA54FF53A, 0x510E527F, 0x9B05688C, 0x1F83D9AB, 0x5BE0CD19]

def rotateRight (word : UInt32) (count : UInt32) : UInt32 :=
  (word >>> count) ||| (word <<< (32 - count))

def mix (s : State) (a b c d : Fin 16) (x y : UInt32) : State :=
  let s := s.set a (s[a] + s[b] + x)
  let s := s.set d (rotateRight (s[d] ^^^ s[a]) 16)
  let s := s.set c (s[c] + s[d])
  let s := s.set b (rotateRight (s[b] ^^^ s[c]) 12)
  let s := s.set a (s[a] + s[b] + y)
  let s := s.set d (rotateRight (s[d] ^^^ s[a]) 8)
  let s := s.set c (s[c] + s[d])
  s.set b (rotateRight (s[b] ^^^ s[c]) 7)

def round (s m : State) : State :=
  let s := mix s 0 4 8 12 m[0] m[1]
  let s := mix s 1 5 9 13 m[2] m[3]
  let s := mix s 2 6 10 14 m[4] m[5]
  let s := mix s 3 7 11 15 m[6] m[7]
  let s := mix s 0 5 10 15 m[8] m[9]
  let s := mix s 1 6 11 12 m[10] m[11]
  let s := mix s 2 7 8 13 m[12] m[13]
  mix s 3 4 9 14 m[14] m[15]

/-- The words of the message in the order of the next round. -/
def permute (m : State) : State :=
  #v[m[2], m[6], m[3], m[10], m[7], m[0], m[4], m[13], m[1], m[11], m[12], m[5], m[9], m[14], m[15],
    m[8]]

def rounds : Nat → State → State → State
  | 0, s, _ => s
  | count + 1, s, m => rounds count (round s m) (permute m)

/-- What is to be compressed. -/
structure Node where
  chain : Chain
  block : State
  counter : Nat
  /-- The bytes of the block that count. -/
  size : Nat
  flags : UInt32

namespace Node

/-- Marks the first block of a chunk. -/
def chunkStart : UInt32 := 1

/-- Marks the last block of a chunk. -/
def chunkEnd : UInt32 := 2

/-- Marks the combination of two results. -/
def parent : UInt32 := 4

/-- Marks what is compressed last. -/
def root : UInt32 := 8

def compress (node : Node) : Chain :=
  let h := node.chain
  let s : State := #v[h[0], h[1], h[2], h[3], h[4], h[5], h[6], h[7], initial[0], initial[1],
    initial[2], initial[3], UInt32.ofNat node.counter, UInt32.ofNat (node.counter / 0x100000000),
    UInt32.ofNat node.size, node.flags]
  let r := rounds 7 s node.block
  #v[r[0] ^^^ r[8], r[1] ^^^ r[9], r[2] ^^^ r[10], r[3] ^^^ r[11], r[4] ^^^ r[12], r[5] ^^^ r[13],
    r[6] ^^^ r[14], r[7] ^^^ r[15]]

def combine (left right : Node) : Node :=
  ⟨initial, left.compress ++ right.compress, 0, 64, parent⟩

end Node

/-- The word at place `index` of some bytes, lowest byte first. What is missing is zero. -/
def wordAt (bytes : Array UInt8) (index : Nat) : UInt32 :=
  let byte (i : Nat) : UInt32 := (bytes.getD (4 * index + i) 0).toUInt32
  byte 0 ||| (byte 1 <<< 8) ||| (byte 2 <<< 16) ||| (byte 3 <<< 24)

def blockWords (bytes : Bytes) : State :=
  let bytes := bytes.toArray
  Vector.ofFn fun i => wordAt bytes i

/-- Cuts a list into pieces of the given size; the last may be shorter. The first argument bounds
their number. -/
def pieces {α : Type} (size : Nat) : Nat → List α → List (List α)
  | 0, _ => []
  | _, [] => []
  | bound + 1, items => items.take size :: pieces size bound (items.drop size)

/-- The node of a chunk with the given blocks; `chain` and `flags` are for the first of them. -/
def chunkNode (counter : Nat) : Chain → UInt32 → List Bytes → Node
  | chain, flags, [] => ⟨chain, blockWords [], counter, 0, flags ||| Node.chunkEnd⟩
  | chain, flags, [block] =>
    ⟨chain, blockWords block, counter, block.length, flags ||| Node.chunkEnd⟩
  | chain, flags, block :: rest =>
    chunkNode counter (Node.compress ⟨chain, blockWords block, counter, block.length, flags⟩) 0 rest

/-- The node of a chunk of at most 1024 bytes. -/
def ofChunk (bytes : Bytes) (counter : Nat) : Node :=
  chunkNode counter initial Node.chunkStart (pieces 64 16 bytes)

/-- Combines neighbours in pairs; an odd node at the end stays. -/
def combinePairs : List Node → List Node
  | left :: right :: rest => left.combine right :: combinePairs rest
  | few => few

/-- Combines nodes until one is left. The first argument bounds the number of levels. -/
def combineAll : Nat → List Node → Node
  | bound + 1, a :: b :: rest => combineAll bound (combinePairs (a :: b :: rest))
  | _, node :: _ => node
  | _, [] => ofChunk [] 0

/-- The node whose compression is the digest of some content. -/
def rootNode (content : Bytes) : Node :=
  let chunks := pieces 1024 (content.length + 1) content
  combineAll chunks.length (chunks.zipIdx.map fun (chunk, index) => ofChunk chunk index)

def wordBytes (word : UInt32) : Bytes :=
  [word.toUInt8, (word >>> 8).toUInt8, (word >>> 16).toUInt8, (word >>> 24).toUInt8]

def digest (content : Bytes) : String :=
  let node := rootNode content
  let words := Node.compress { node with flags := node.flags ||| Node.root }
  Bytes.hex (words.toList.flatMap wordBytes)

end Recrawl.Digest.Blake3
