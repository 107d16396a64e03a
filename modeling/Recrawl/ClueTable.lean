import Recrawl.Bytes

/-!
Recognising content by literal byte strings near its beginning. A table lists
groups of clues; a group matches if all of its clues occur, and the first group
that matches decides.
-/
namespace Recrawl

/-- Groups of clues, in the order in which they are tried. -/
structure ClueTable where
  groups : List (List Bytes)
  deriving DecidableEq, Repr

namespace ClueTable

/-- The table in which every clue is a group of its own. -/
def ofClues (clues : List String) : ClueTable :=
  ⟨clues.map fun clue => [Bytes.ofString clue]⟩

def size (table : ClueTable) : Nat := table.groups.length

def matchesGroup (content : Bytes) (group : List Bytes) : Bool :=
  group.all fun clue => clue.occursIn content

/-- The index of the first group that matches within the first `limit` bytes. -/
def firstMatch? (table : ClueTable) (limit : Nat) (content : Bytes) : Option Nat :=
  table.groups.findIdx? (matchesGroup (content.take limit))

/-- Some group matches within the first `limit` bytes. -/
def anyMatch (table : ClueTable) (limit : Nat) (content : Bytes) : Bool :=
  (table.firstMatch? limit content).isSome

end ClueTable

end Recrawl
