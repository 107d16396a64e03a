import Recrawl.Gzip.Inflate

/-!
How much output is delivered in front of corrupt data. The content is given to
decompression in pieces, and the output is taken from it in portions that grow
with what was taken before. Decompression runs ahead of a portion to the end of
the window, and a portion during which the damage shows is lost as a whole.
-/
namespace Recrawl.Gzip

/-- How many bytes of the content are given at once. -/
def pieceSize : Nat := 32768

/-- Data with damage in it: the sizes of the output when each piece before the one with the damage
is used up, and the size of all output in front of the damage. -/
structure Damage where
  marks : List Nat
  total : Nat
  deriving DecidableEq, Repr

namespace Damage

/-- The size of the output of data, and whether it is damaged. -/
def measure (data : Bytes) : Nat × Bool :=
  match inflate data with
  | (output, .error .corrupt) => (output.size, true)
  | (output, _) => (output.size, false)

/-- Looks for the damage piece by piece. `given` counts the bytes of the pieces so far, a header of
`header` bytes included; the first argument bounds the number of pieces. -/
def findFrom (header : Nat) (data : Bytes) : (bound : Nat) → (given : Nat) → Damage
  | 0, _ => ⟨[], (measure data).1⟩
  | bound + 1, given =>
    let (size, isDamaged) := measure (data.take (given - header))
    if isDamaged then ⟨[], size⟩
    else
      let later := findFrom header data bound (given + pieceSize)
      ⟨size :: later.marks, later.total⟩

/-- The damage in data behind a header of the given size. -/
def find (header : Nat) (data : Bytes) : Damage :=
  findFrom header data ((header + data.length) / pieceSize + 1) pieceSize

/-- Decompresses on behind `size` bytes of output, for a portion that begins at `start` and has room
for `room` bytes. Gives the size of all output then, or none if the damage shows. The first
argument bounds the number of windows. -/
def advance (damage : Damage) (start room : Nat) : (bound : Nat) → (size : Nat) → Option Nat
  | 0, _ => none
  | bound + 1, size =>
    let windowEnd := (size / windowSize + 1) * windowSize
    match damage.marks.find? (start < ·) with
    | some mark =>
      if room ≤ min mark windowEnd - start || mark ≤ windowEnd then some (min mark windowEnd)
      else advance damage start room bound windowEnd
    | none =>
      if damage.total ≤ windowEnd then none
      else if room ≤ windowEnd - start then some windowEnd
      else advance damage start room bound windowEnd

/-- The taking of output: how much was taken, how much is decompressed, for how much there is space,
and the largest portion at present. -/
structure Taking where
  taken : Nat := 0
  size : Nat := 0
  space : Nat := 0
  portion : Nat := 8192

/-- The least space in front of a portion. -/
def leastSpace : Nat := 32

/-- Takes a portion of at most `room` bytes. Gives its size, or none if the damage shows. -/
def Taking.take (damage : Damage) (state : Taking) (room : Nat) : Option (Taking × Nat) :=
  if state.taken < state.size then
    let count := min room (state.size - state.taken)
    some ({ state with taken := state.taken + count }, count)
  else
    (damage.advance state.taken room (damage.total / windowSize + 2) state.size).map fun size =>
      let count := min room (size - state.taken)
      ({ state with taken := state.taken + count, size }, count)

/-- The space doubles if little of it is left. -/
def Taking.makeSpace (state : Taking) : Taking :=
  if state.space - state.taken < leastSpace then
    { state with space := max (2 * state.space) (state.taken + leastSpace) }
  else state

/-- Takes portions up to the limit or until the damage shows. The first argument bounds their
number. -/
def Taking.run (damage : Damage) (limit : Nat) : Nat → Taking → Nat
  | 0, state => state.taken
  | bound + 1, state =>
    if limit ≤ state.taken then state.taken
    else
      let state := state.makeSpace
      let room := min (state.space - state.taken) state.portion
      match state.take damage (min room (limit - state.taken)) with
      | none => state.taken
      | some (next, count) =>
        let portion :=
          if state.portion ≤ room && count == room then 2 * state.portion else state.portion
        run damage limit bound { next with portion }

/-- How much output is delivered of what comes before the damage, and at most `limit` bytes. The
first portion is taken before there is any space for it. -/
def deliver (damage : Damage) (limit : Nat) : Nat :=
  if limit == 0 then 0
  else
    match Taking.take damage {} (min leastSpace limit) with
    | none => 0
    | some (state, count) =>
      Taking.run damage limit (damage.total + 1) { state with space := max 8 count }

end Damage

end Recrawl.Gzip
