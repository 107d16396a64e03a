/-!
Tables of a character property: runs of consecutive code points with one value,
in ascending order, found by bisection. A table is written as a text of fields
separated by blanks. Each field gives hexadecimal numbers separated by dots: the
distance from the end of the run before, the length of the run, and its value.
-/
namespace Recrawl.Unicode

structure Run (α : Type) where
  first : Nat
  size : Nat
  value : α
  deriving DecidableEq, Repr

namespace Run

/-- The last run with an index in `[lo, hi)` that starts at or before `code`, else `best`. -/
def searchBetween {α : Type} (runs : Array (Run α)) (code lo hi : Nat)
    (best : Option (Run α)) : Option (Run α) :=
  if _h : lo < hi then
    let mid := (lo + hi) / 2
    match runs[mid]? with
    | none => best
    | some run =>
      if run.first ≤ code then searchBetween runs code (mid + 1) hi (some run)
      else searchBetween runs code lo mid best
  else best
termination_by hi - lo

/-- The run that holds `code`. -/
def find? {α : Type} (runs : Array (Run α)) (code : Nat) : Option (Run α) :=
  match searchBetween runs code 0 runs.size none with
  | some run => if code < run.first + run.size then some run else none
  | none => none

def holds {α : Type} (runs : Array (Run α)) (c : Char) : Bool :=
  (find? runs c.toNat).isSome

/-- The value of the character, or the given value outside all runs. -/
def valueOf {α : Type} (runs : Array (Run α)) (default : α) (c : Char) : α :=
  match find? runs c.toNat with
  | some run => run.value
  | none => default

end Run

/-- The non-empty stretches of a text between separators. -/
def fieldsOf (separator : Char → Bool) (chars : List Char) : List (List Char) :=
  (chars.splitOnP separator).filter fun part => !part.isEmpty

def hexNumber (digits : List Char) : Nat :=
  digits.foldl (fun acc c =>
    acc * 16 + (if c.toNat < 0x3A then c.toNat - 0x30 else c.toNat - 0x57)) 0

def tableFields (text : String) : List (List Char) :=
  fieldsOf (fun c => c == ' ' || c == '\n') text.toList

/-- The runs of the fields, behind those read so far. `place` gives the run of a field that is read
at a code point, and the code point at which the next field is read; a field without one ends the
table. -/
def readFields {α : Type} (place : Nat → List Char → Option (Run α × Nat)) :
    Nat → Array (Run α) → List (List Char) → Array (Run α)
  | _, runs, [] => runs
  | code, runs, field :: rest =>
    match place code field with
    | some (run, next) => readFields place next (runs.push run) rest
    | none => runs

/-- The run of a field with two numbers, and a third from which `value` reads its value. -/
def placeRun {α : Type} (value : List Char → α) (code : Nat) (field : List Char) :
    Option (Run α × Nat) :=
  match field.splitOnP (· == '.') with
  | gap :: size :: tail =>
    let first := code + hexNumber gap
    let length := hexNumber size
    some (⟨first, length, value (tail.headD [])⟩, first + length)
  | _ => none

/-- The runs of a table text, each with the value that `value` reads from its third number. -/
def runsOf {α : Type} (value : List Char → α) (text : String) : Array (Run α) :=
  readFields (placeRun value) 0 #[] (tableFields text)

def setOf (text : String) : Array (Run Unit) :=
  runsOf (fun _ => ()) text

end Recrawl.Unicode
