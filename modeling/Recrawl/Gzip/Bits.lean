import Recrawl.Bytes

/-!
Bytes as a source of bits, the lowest bit of each byte first. Reading stops where
the bytes end or where they make no sense.
-/
namespace Recrawl.Gzip

inductive Stop
  /-- The data ends too early. -/
  | cut
  /-- The data makes no sense. -/
  | corrupt
  deriving DecidableEq, Repr

/-- What is left of some data: bits of the byte that has been begun, and further bytes. -/
structure BitSource where
  held : List Bool := []
  rest : Bytes
  deriving DecidableEq, Repr

namespace BitSource

def bitsOf (byte : UInt8) : List Bool :=
  (List.range 8).map fun i => byte.toNat.testBit i

def size (source : BitSource) : Nat :=
  source.held.length + 8 * source.rest.length

def bit (source : BitSource) : Except Stop (Bool × BitSource) :=
  match source.held with
  | b :: held => .ok (b, { source with held })
  | [] =>
    match source.rest with
    | [] => .error .cut
    | byte :: rest => .ok (byte.toNat.testBit 0, ⟨(bitsOf byte).drop 1, rest⟩)

/-- The number of the next bits, lowest first. -/
def bits : Nat → BitSource → Except Stop (Nat × BitSource)
  | 0, source => .ok (0, source)
  | count + 1, source => do
    let (b, source) ← source.bit
    let (high, source) ← bits count source
    .ok (b.toNat + 2 * high, source)

/-- The bytes behind the byte that has been begun. -/
def aligned (source : BitSource) : Bytes := source.rest

end BitSource

end Recrawl.Gzip
