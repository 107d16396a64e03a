import Recrawl.Gzip.Code

/-!
Decompression. The data comes in blocks: plain bytes, or words of two codes that
stand for single bytes and for copies of earlier output.
-/
namespace Recrawl.Gzip

/-- The farthest that a copy reaches back, and the amount of output that is completed at once. -/
def windowSize : Nat := 32768

/-- The least length of each length symbol, and how many bits follow to add to it. -/
def lengthSteps : List (Nat × Nat) := [
  (3, 0), (4, 0), (5, 0), (6, 0), (7, 0), (8, 0), (9, 0), (10, 0), (11, 1), (13, 1), (15, 1),
  (17, 1), (19, 2), (23, 2), (27, 2), (31, 2), (35, 3), (43, 3), (51, 3), (59, 3), (67, 4), (83, 4),
  (99, 4), (115, 4), (131, 5), (163, 5), (195, 5), (227, 5), (258, 0)]

/-- The least distance of each distance symbol, and how many bits follow to add to it. -/
def distanceSteps : List (Nat × Nat) := [
  (1, 0), (2, 0), (3, 0), (4, 0), (5, 1), (7, 1), (9, 2), (13, 2), (17, 3), (25, 3),
  (33, 4), (49, 4), (65, 5), (97, 5), (129, 6), (193, 6), (257, 7), (385, 7), (513, 8), (769, 8),
  (1025, 9), (1537, 9), (2049, 10), (3073, 10), (4097, 11), (6145, 11), (8193, 12), (12289, 12),
  (16385, 13), (24577, 13)]

/-- The number for a symbol, with the bits that follow it. -/
def readStep (steps : List (Nat × Nat)) (symbol : Nat) (source : BitSource) :
    Except Stop (Nat × BitSource) :=
  match steps[symbol]? with
  | none => .error .corrupt
  | some (least, extra) => do
    let (more, source) ← source.bits extra
    .ok (least + more, source)

/-- Appends a copy of `count` bytes from `distance` bytes back. What lies before all output counts
as zeros. -/
def copyBack : (count distance : Nat) → Array UInt8 → Array UInt8
  | 0, _, output => output
  | count + 1, distance, output =>
    let byte := if distance ≤ output.size then output.getD (output.size - distance) 0 else 0
    copyBack count distance (output.push byte)

/-- Reads words up to the end of a block. The first argument bounds the number of words. -/
def readWords (literals distances : Code) : Nat → BitSource → Array UInt8 →
    Array UInt8 × Except Stop BitSource
  | 0, _, output => (output, .error .cut)
  | bound + 1, source, output =>
    match literals.read source with
    | .error stop => (output, .error stop)
    | .ok (symbol, source) =>
      if symbol < 256 then
        readWords literals distances bound source (output.push (UInt8.ofNat symbol))
      else if symbol == 256 then (output, .ok source)
      else
        let copy : Except Stop (Nat × Nat × BitSource) := do
          let (count, source) ← readStep lengthSteps (symbol - 257) source
          let (symbol, source) ← distances.read source
          let (distance, source) ← readStep distanceSteps symbol source
          .ok (count, distance, source)
        match copy with
        | .error stop => (output, .error stop)
        | .ok (count, distance, source) =>
          readWords literals distances bound source (copyBack count distance output)

def fixedLengths : List Nat × List Nat :=
  (List.replicate 144 8 ++ List.replicate 112 9 ++ List.replicate 24 7 ++ List.replicate 8 8,
    List.replicate 32 5)

/-- The order in which the lengths of the words for lengths are given. -/
def lengthOrder : List Nat := [16, 17, 18, 0, 8, 7, 9, 6, 10, 5, 11, 4, 12, 3, 13, 2, 14, 1, 15]

def readTriples : Nat → BitSource → Except Stop (List Nat × BitSource)
  | 0, source => .ok ([], source)
  | count + 1, source => do
    let (n, source) ← source.bits 3
    let (more, source) ← readTriples count source
    .ok (n :: more, source)

/-- The run of lengths that a symbol of the code for lengths stands for: itself, a repetition of the
last length, or zeros. -/
def readRun (symbol : Nat) (last : Option Nat) (source : BitSource) :
    Except Stop (Nat × Nat × BitSource) :=
  if symbol < 16 then .ok (1, symbol, source)
  else if symbol == 16 then
    match last with
    | none => .error .corrupt
    | some last => do
      let (n, source) ← source.bits 2
      .ok (3 + n, last, source)
  else if symbol == 17 then do
    let (n, source) ← source.bits 3
    .ok (3 + n, 0, source)
  else do
    let (n, source) ← source.bits 7
    .ok (11 + n, 0, source)

/-- Reads exactly `total` lengths, behind those in `read` (latest first). The first argument bounds
the number of runs. -/
def readLengths (code : Code) (total : Nat) : Nat → List Nat → BitSource →
    Except Stop (List Nat × BitSource)
  | 0, _, _ => .error .corrupt
  | bound + 1, read, source =>
    if read.length == total then .ok (read.reverse, source)
    else if total < read.length then .error .corrupt
    else do
      let (symbol, source) ← code.read source
      let (count, length, source) ← readRun symbol read.head? source
      readLengths code total bound (List.replicate count length ++ read) source

def readCodes (source : BitSource) : Except Stop (Code × Code × BitSource) := do
  let (literals, source) ← source.bits 5
  let (distances, source) ← source.bits 5
  let (lengths, source) ← source.bits 4
  let literals := literals + 257
  let distances := distances + 1
  if 286 < literals || 30 < distances then throw .corrupt
  let (triples, source) ← readTriples (lengths + 4) source
  let given := lengthOrder.zip triples
  let code ← Code.ofLengths false ((List.range 19).map fun symbol => (given.lookup symbol).getD 0)
  let total := literals + distances
  let (lengths, source) ← readLengths code total (total + 1) [] source
  let distanceCode ← Code.ofLengths true (lengths.drop literals)
  let literalCode ← Code.ofLengths true (lengths.take literals)
  .ok (literalCode, distanceCode, source)

/-- Reads a block of plain bytes, which is preceded by their number and its complement. -/
def readPlain (source : BitSource) (output : Array UInt8) : Array UInt8 × Except Stop BitSource :=
  match source.aligned with
  | a :: b :: c :: d :: rest =>
    let count := a.toNat + 256 * b.toNat
    if count + (c.toNat + 256 * d.toNat) == 0xFFFF then
      let output := (rest.take count).foldl Array.push output
      if rest.length < count then (output, .error .cut)
      else (output, .ok { rest := rest.drop count })
    else (output, .error .corrupt)
  | _ => (output, .error .cut)

def readBlock (type : Nat) (source : BitSource) (output : Array UInt8) :
    Array UInt8 × Except Stop BitSource :=
  match type with
  | 0 => readPlain source output
  | 1 =>
    match Code.ofLengths true fixedLengths.1, Code.ofLengths true fixedLengths.2 with
    | .ok literals, .ok distances => readWords literals distances (source.size + 1) source output
    | _, _ => (output, .error .corrupt)
  | 2 =>
    match readCodes source with
    | .error stop => (output, .error stop)
    | .ok (literals, distances, source) =>
      readWords literals distances (source.size + 1) source output
  | _ => (output, .error .corrupt)

/-- Reads blocks up to the last one. The first argument bounds their number. -/
def readBlocks : Nat → BitSource → Array UInt8 → Array UInt8 × Except Stop BitSource
  | 0, _, output => (output, .error .cut)
  | bound + 1, source, output =>
    let head : Except Stop (Nat × Nat × BitSource) := do
      let (last, source) ← source.bits 1
      let (type, source) ← source.bits 2
      .ok (last, type, source)
    match head with
    | .error stop => (output, .error stop)
    | .ok (last, type, source) =>
      match readBlock type source output with
      | (output, .error stop) => (output, .error stop)
      | (output, .ok source) =>
        if last == 1 then (output, .ok source) else readBlocks bound source output

/-- Decompresses data. Gives the output, and the bytes behind the compressed data or why there are
none. -/
def inflate (bytes : Bytes) : Array UInt8 × Except Stop Bytes :=
  let source : BitSource := { rest := bytes }
  let (output, ending) := readBlocks (source.size + 1) source #[]
  (output, ending.map BitSource.aligned)

end Recrawl.Gzip
