/-!
How similar two words are: two characters correspond if they are equal and stand at
nearly the same place, and the similarity grows with the share of the characters of
each word that correspond and with how well their order agrees.
-/
namespace Recrawl.Text

/-- Takes the first occurrence of a character that is not taken yet, of those at the places from
`low` to `high`; the list begins at the place `at`. -/
def take? (c : Char) (low high : Nat) : (place : Nat) → List (Char × Bool) →
    Option (List (Char × Bool))
  | _, [] => none
  | place, (d, taken) :: rest =>
    if high < place then none
    else if low ≤ place && d == c && !taken then some ((d, true) :: rest)
    else (take? c low high (place + 1) rest).map ((d, taken) :: ·)

/-- The characters, from a place on, that correspond to one in the other word within a distance,
and the other word with those marked. -/
def correspondents (distance : Nat) : (place : Nat) → List Char → List (Char × Bool) →
    List Char × List (Char × Bool)
  | _, [], others => ([], others)
  | place, c :: rest, others =>
    match take? c (place - distance) (place + distance) 0 others with
    | some others =>
      let (found, others) := correspondents distance (place + 1) rest others
      (c :: found, others)
    | none => correspondents distance (place + 1) rest others

/-- The similarity of two words, from 0 to 1. -/
def similarity (s t : List Char) : Float :=
  if s.isEmpty && t.isEmpty then 1
  else
    let distance := max s.length t.length / 2 - 1
    let (found, others) := correspondents distance 0 s (t.map (·, false))
    let partners := (others.filter (·.2)).map (·.1)
    let misplaced := ((found.zip partners).filter fun (c, d) => c != d).length / 2
    let number (n : Nat) : Float := Float.ofNat n
    if found.isEmpty then 0
    else
      (number found.length / number s.length + number found.length / number t.length +
        number (found.length - misplaced) / number found.length) / 3

/-- The similarity above which one word may be meant by the other. -/
def similarityBound : Float := 0.7

/-- The words that may be meant by a word, the most similar one last. -/
def similarWords (word : String) (words : List String) : List String :=
  let rated := words.map fun w => (similarity word.toList w.toList, w)
  let near := rated.filter fun (rate, _) => similarityBound < rate
  (near.mergeSort fun a b => a.1 ≤ b.1).map (·.2)

end Recrawl.Text
