import Recrawl.Gzip.Damage

/-!
Gzip: compressed data with a header in front and a checksum behind. What is
delivered before a fault is part of the result, so that the beginning of damaged
content can still be looked at.
-/
namespace Recrawl.Gzip

inductive Fault
  | badHeader
  | fieldTooLong
  | endOfFile
  | corruptData
  | incompleteData
  | badChecksum
  deriving DecidableEq, Repr

def Fault.message : Fault → String
  | badHeader => "invalid gzip header"
  | fieldTooLong => "gzip header field too long"
  | endOfFile => "unexpected end of file"
  | corruptData => "corrupt deflate stream"
  | incompleteData => "incomplete deflate stream"
  | badChecksum => "corrupt gzip stream does not have a matching checksum"

/-- One step of the checksum: a bit leaves at the low end, and if it is set the polynomial is
subtracted. -/
def checksumBit (sum : UInt32) : UInt32 :=
  if sum &&& 1 == 1 then (sum >>> 1) ^^^ 0xEDB88320 else sum >>> 1

def checksumByte (sum : UInt32) (byte : UInt8) : UInt32 :=
  (List.range 8).foldl (fun sum _ => checksumBit sum) (sum ^^^ byte.toUInt32)

def checksum (bytes : Bytes) : UInt32 :=
  bytes.foldl checksumByte 0xFFFFFFFF ^^^ 0xFFFFFFFF

/-- The number that bytes spell, lowest first. -/
def littleEndian (bytes : Bytes) : Nat :=
  bytes.foldr (fun byte high => byte.toNat + 256 * high) 0

/-- The longest name or comment in a header. -/
def fieldLimit : Nat := 65535

def skipBytes (count : Nat) (bytes : Bytes) : Except Fault Bytes :=
  if bytes.length < count then .error .endOfFile else .ok (bytes.drop count)

/-- The bytes behind a name or comment, which ends with a zero byte. -/
def skipText (bytes : Bytes) : Except Fault Bytes :=
  let text := (bytes.take (fieldLimit + 1)).takeWhile (· != 0)
  if fieldLimit < text.length then .error .fieldTooLong else skipBytes (text.length + 1) bytes

/-- The bytes behind a field with its length in front. -/
def skipExtra (bytes : Bytes) : Except Fault Bytes := do
  let rest ← skipBytes 2 bytes
  skipBytes (littleEndian (bytes.take 2)) rest

/-- The bytes behind the header. Its flags say which optional fields it has; a header with a
checksum has to match it. -/
def skipHeader (bytes : Bytes) : Except Fault Bytes := do
  let rest ← skipBytes 10 bytes
  let flags := (bytes.getD 3 0).toNat
  if bytes.take 3 != [0x1F, 0x8B, 8] || flags.testBit 5 || flags.testBit 6 || flags.testBit 7 then
    throw .badHeader
  let rest ← if flags.testBit 2 then skipExtra rest else pure rest
  let rest ← if flags.testBit 3 then skipText rest else pure rest
  let rest ← if flags.testBit 4 then skipText rest else pure rest
  if flags.testBit 1 then
    let behind ← skipBytes 2 rest
    let sum := checksum (bytes.take (bytes.length - rest.length))
    if littleEndian (rest.take 2) != sum.toNat % 65536 then throw .badChecksum
    pure behind
  else pure rest

/-- The checksum and the length behind the data, which both have to match. -/
def checkTrailer (output : Bytes) (bytes : Bytes) : Option Fault :=
  if bytes.length < 8 then some .endOfFile
  else if littleEndian (bytes.take 4) != (checksum output).toNat ||
      littleEndian ((bytes.drop 4).take 4) != output.length % 0x100000000 then some .badChecksum
  else none

/-- What is delivered of gzip content, and the fault that ends it early. -/
structure Delivery where
  output : Bytes
  fault : Option Fault
  deriving DecidableEq, Repr

/-- Decompresses the first member, up to its end or to a fault. -/
def decompress (content : Bytes) : Delivery :=
  match skipHeader content with
  | .error fault => ⟨[], some fault⟩
  | .ok data =>
    match inflate data with
    | (output, .ok rest) => ⟨output.toList, checkTrailer output.toList rest⟩
    | (output, .error .cut) => ⟨output.toList, some .incompleteData⟩
    | (output, .error .corrupt) => ⟨output.toList, some .corruptData⟩

/-- Content that starts with the two bytes of gzip. -/
def isGzip (content : Bytes) : Bool :=
  [0x1F, 0x8B].isPrefixOf content

/-- The most that is decompressed, in bytes. -/
def decompressedLimit : Nat := 50 * 1024 * 1024

/-- How much output is delivered in front of a fault, of what was decompressed. Corrupt data takes
some of it along. -/
def deliverable (limit : Nat) (content : Bytes) (delivery : Delivery) : Nat :=
  match delivery.fault, skipHeader content with
  | some .corruptData, .ok data => (Damage.find (content.length - data.length) data).deliver limit
  | _, _ => min limit delivery.output.length

/-- At most `limit` bytes of the content, decompressed if it is gzip, and the fault in front of that
limit. -/
def peek (limit : Nat) (content : Bytes) : Delivery :=
  if isGzip content then
    let delivery := decompress content
    let count := deliverable limit content delivery
    ⟨delivery.output.take count, if count < limit then delivery.fault else none⟩
  else ⟨content.take limit, none⟩

/-- The content, decompressed if it is gzip. A fault behind the limit does not count. -/
def decode (content : Bytes) : Except Fault Bytes :=
  if isGzip content then
    let delivery := peek decompressedLimit content
    match delivery.fault with
    | none => .ok delivery.output
    | some fault => .error fault
  else .ok content

end Recrawl.Gzip
