import Recrawl.Gzip.Bits

/-!
Canonical codes of variable length. A code is given by the length of each
symbol's word: shorter words come first, words of one length are in the order of
the symbols, and each word is the one before plus one.
-/
namespace Recrawl.Gzip

/-- A canonical code: how many words have each length from one on, and the symbols in the order of
their words. -/
structure Code where
  counts : List Nat
  symbols : Array Nat
  deriving DecidableEq, Repr

namespace Code

def maxLength : Nat := 15

def wordLengths : List Nat := (List.range maxLength).map (· + 1)

def symbolsOfLength (lengths : List Nat) (length : Nat) : List Nat :=
  lengths.zipIdx.filterMap fun (l, symbol) => if l == length then some symbol else none

/-- The share of all words of the greatest length that the words take up. -/
def weight (lengths : List Nat) : Nat :=
  (lengths.map fun l => if l == 0 then 0 else Nat.pow 2 (maxLength - l)).foldl (· + ·) 0

/-- The lengths of a code with at most one word, of one bit. -/
def isSparse (lengths : List Nat) : Bool :=
  match lengths.filter (· != 0) with
  | [] => true
  | [length] => length == 1
  | _ => false

/-- The code of the given lengths, where zero is for a symbol without a word. All words have to be
used up, unless the code may be `sparse`. -/
def ofLengths (sparse : Bool) (lengths : List Nat) : Except Stop Code :=
  if weight lengths == Nat.pow 2 maxLength || (sparse && isSparse lengths) then
    let groups := wordLengths.map (symbolsOfLength lengths)
    .ok ⟨groups.map List.length, groups.flatten.toArray⟩
  else .error .corrupt

/-- Reads on in a word. `word` is what was read, doubled; `first` the first word of the present
length, and `index` the place of its symbol. -/
def readFrom (symbols : Array Nat) : (counts : List Nat) → (word first index : Nat) → BitSource →
    Except Stop (Nat × BitSource)
  | [], _, _, _, _ => .error .corrupt
  | count :: counts, word, first, index, source => do
    let (b, source) ← source.bit
    let word := word + b.toNat
    if word < first + count then .ok (symbols.getD (index + (word - first)) 0, source)
    else if symbols.size ≤ index + count then .error .corrupt
    else readFrom symbols counts (2 * word) (2 * (first + count)) (index + count) source

def read (code : Code) (source : BitSource) : Except Stop (Nat × BitSource) :=
  readFrom code.symbols code.counts 0 0 0 source

end Code

end Recrawl.Gzip
