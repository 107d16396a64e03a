import Recrawl.Bytes

/-!
Reading bytes as UTF-8. The decoder is a machine that takes one byte at a time
and reports characters and ill-formed pieces; an ill-formed piece is a longest
sequence of bytes that begins a character but cannot be completed. Strict
reading stops at the first ill-formed piece, lossy reading writes a replacement
character for each.
-/
namespace Recrawl.Text.Utf8

inductive Piece
  /-- A character and the number of its bytes. -/
  | char (c : Char) (size : Nat)
  /-- Bytes that no character continues. -/
  | illFormed (size : Nat)
  /-- The beginning of a character that the end of the input cuts off. -/
  | cut (size : Nat)
  deriving DecidableEq, Repr

/-- A character of which `owed` bytes are missing, the next one between `low` and `high`. -/
structure Begun where
  owed : Nat
  low : UInt8
  high : UInt8
  code : Nat
  seen : Nat

/-- Between two characters, or inside one. -/
abbrev State := Option Begun

def start (byte : UInt8) : State × List Piece :=
  if byte < 0x80 then (none, [.char (Char.ofNat byte.toNat) 1])
  else if 0xC2 ≤ byte && byte ≤ 0xDF then (some ⟨1, 0x80, 0xBF, byte.toNat - 0xC0, 1⟩, [])
  else if byte == 0xE0 then (some ⟨2, 0xA0, 0xBF, 0, 1⟩, [])
  else if byte == 0xED then (some ⟨2, 0x80, 0x9F, 0x0D, 1⟩, [])
  else if 0xE1 ≤ byte && byte ≤ 0xEF then (some ⟨2, 0x80, 0xBF, byte.toNat - 0xE0, 1⟩, [])
  else if byte == 0xF0 then (some ⟨3, 0x90, 0xBF, 0, 1⟩, [])
  else if 0xF1 ≤ byte && byte ≤ 0xF3 then (some ⟨3, 0x80, 0xBF, byte.toNat - 0xF0, 1⟩, [])
  else if byte == 0xF4 then (some ⟨3, 0x80, 0x8F, 4, 1⟩, [])
  else (none, [.illFormed 1])

/-- The effect of a byte: a byte that does not continue a begun character ends it as ill-formed
and is then taken by itself. -/
def step (state : State) (byte : UInt8) : State × List Piece :=
  match state with
  | none => start byte
  | some begun =>
    if begun.low ≤ byte && byte ≤ begun.high then
      let code := begun.code * 64 + (byte.toNat - 0x80)
      if begun.owed ≤ 1 then (none, [.char (Char.ofNat code) (begun.seen + 1)])
      else (some ⟨begun.owed - 1, 0x80, 0xBF, code, begun.seen + 1⟩, [])
    else
      let (next, pieces) := start byte
      (next, .illFormed begun.seen :: pieces)

def finish : State → List Piece
  | none => []
  | some begun => [.cut begun.seen]

/-- The pieces of the bytes after `state`, behind the pieces in `reported` (latest first). -/
def run : State → List Piece → Bytes → List Piece
  | state, reported, [] => reported.reverse ++ finish state
  | state, reported, byte :: rest =>
    let (next, pieces) := step state byte
    run next (pieces.reverse ++ reported) rest

def pieces (bytes : Bytes) : List Piece :=
  run none [] bytes

def replacement : Char := Char.ofNat 0xFFFD

/-- The characters of a byte string, with a replacement character for each ill-formed piece. -/
def lossy (bytes : Bytes) : List Char :=
  (pieces bytes).map fun
    | .char c _ => c
    | .illFormed _ => replacement
    | .cut _ => replacement

/-- The text of a byte string, with a replacement character for each ill-formed piece. -/
def decodeLossy (bytes : Bytes) : String :=
  String.ofList (lossy bytes)

/-- Where and how a byte string stops being UTF-8. -/
inductive Fault
  | illFormed (offset size : Nat)
  | cut (offset : Nat)
  deriving DecidableEq, Repr

def Fault.message : Fault → String
  | illFormed offset size => s!"invalid utf-8 sequence of {size} bytes from index {offset}"
  | cut offset => s!"incomplete utf-8 byte sequence from index {offset}"

/-- The characters of the pieces after `offset` bytes, behind those in `read` (latest first). -/
def gather : Nat → List Char → List Piece → Except Fault (List Char)
  | _, read, [] => .ok read.reverse
  | offset, read, .char c size :: rest => gather (offset + size) (c :: read) rest
  | offset, _, .illFormed size :: _ => .error (.illFormed offset size)
  | offset, _, .cut _ :: _ => .error (.cut offset)

/-- The characters of a byte string, or the first place where it is not UTF-8. -/
def strict (bytes : Bytes) : Except Fault (List Char) :=
  gather 0 [] (pieces bytes)

/-- The text of a byte string, or the first place where it is not UTF-8. -/
def decode (bytes : Bytes) : Except Fault String :=
  (strict bytes).map String.ofList

end Recrawl.Text.Utf8
