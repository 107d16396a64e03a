import Recrawl.ClueTable

/-!
Which group of clues is found. It is the first all of whose clues stand in the bytes that are
looked at. More content and a longer look keep what is found, and may only bring a group that
comes earlier in the table.
-/

namespace Recrawl.ClueTable

/-- The clue stands somewhere in the content, and ends within the first `limit` bytes. -/
def Occurs (clue : Bytes) (limit : Nat) (content : Bytes) : Prop :=
  ∃ start, start + clue.length ≤ min content.length limit ∧
    (content.drop start).take clue.length = clue

/-- All clues of the group stand in the first `limit` bytes. They may overlap. -/
def AllOccur (group : List Bytes) (limit : Nat) (content : Bytes) : Prop :=
  ∀ clue ∈ group, Occurs clue limit content

variable {clue content other : Bytes} {group : List Bytes} {limit : Nat}

theorem occursIn_take_iff :
    clue.occursIn (content.take limit) = true ↔ Occurs clue limit content := by
  rw [Bytes.occursIn_iff]
  constructor
  · rintro ⟨front, back, hsplit⟩
    have hlength := congrArg List.length hsplit
    simp only [List.length_append, List.length_take] at hlength
    have hcontent : content = front ++ (clue ++ (back ++ content.drop limit)) := by
      rw [← List.append_assoc, ← List.append_assoc, hsplit, List.take_append_drop]
    refine ⟨front.length, by omega, ?_⟩
    rw [hcontent, List.drop_left, List.take_left]
  · rintro ⟨start, hfits, hclue⟩
    -- What is looked at behind `start` begins with the clue.
    have hprefix : clue <+: (content.take limit).drop start := by
      rw [List.drop_take, ← hclue]
      apply List.take_prefix_take_left
      omega
    exact hprefix.isInfix.trans (List.drop_suffix start _).isInfix

theorem matchesGroup_take_iff :
    matchesGroup (content.take limit) group = true ↔ AllOccur group limit content := by
  unfold matchesGroup AllOccur
  rw [List.all_eq_true]
  constructor
  · intro h clue hclue
    exact occursIn_take_iff.mp (h clue hclue)
  · intro h clue hclue
    exact occursIn_take_iff.mpr (h clue hclue)

theorem Occurs.mono (h : Occurs clue limit content) {limit' : Nat} (hlimit : limit ≤ limit')
    (more : Bytes) : Occurs clue limit' (content ++ more) := by
  obtain ⟨start, hfits, hclue⟩ := h
  refine ⟨start, ?_, ?_⟩
  · rw [List.length_append]
    omega
  · rw [List.drop_append_of_le_length (by omega), List.take_append_of_le_length, hclue]
    rw [List.length_drop]
    omega

theorem AllOccur.mono (h : AllOccur group limit content) {limit' : Nat} (hlimit : limit ≤ limit')
    (more : Bytes) : AllOccur group limit' (content ++ more) := by
  intro clue hclue
  exact (h clue hclue).mono hlimit more

variable (table : ClueTable)

theorem firstMatch?_eq_some_iff {i : Nat} :
    table.firstMatch? limit content = some i ↔
      (∃ group, table.groups[i]? = some group ∧ AllOccur group limit content) ∧
        ∀ j < i, ∀ group, table.groups[j]? = some group → ¬ AllOccur group limit content := by
  unfold firstMatch?
  rw [List.findIdx?_eq_some_iff_getElem]
  constructor
  · rintro ⟨hi, hmatch, hbefore⟩
    refine ⟨⟨table.groups[i], List.getElem?_eq_getElem hi, matchesGroup_take_iff.mp hmatch⟩, ?_⟩
    intro j hj group hgroup hall
    obtain ⟨hlt, rfl⟩ := List.getElem?_eq_some_iff.mp hgroup
    exact hbefore j hj (matchesGroup_take_iff.mpr hall)
  · rintro ⟨⟨group, hgroup, hall⟩, hbefore⟩
    obtain ⟨hi, rfl⟩ := List.getElem?_eq_some_iff.mp hgroup
    refine ⟨hi, matchesGroup_take_iff.mpr hall, ?_⟩
    intro j hj hmatch
    have hlt : j < table.groups.length := Nat.lt_trans hj hi
    exact hbefore j hj _ (List.getElem?_eq_getElem hlt) (matchesGroup_take_iff.mp hmatch)

theorem firstMatch?_eq_none_iff :
    table.firstMatch? limit content = none ↔
      ∀ group ∈ table.groups, ¬ AllOccur group limit content := by
  unfold firstMatch?
  rw [List.findIdx?_eq_none_iff]
  constructor
  · intro h group hgroup hall
    have hfalse := h group hgroup
    rw [matchesGroup_take_iff.mpr hall] at hfalse
    cases hfalse
  · intro h group hgroup
    rw [← Bool.not_eq_true, matchesGroup_take_iff]
    exact h group hgroup

/-- Where a group occurs, that group or an earlier one is found. -/
theorem exists_firstMatch?_le {i : Nat} (hgroup : table.groups[i]? = some group)
    (hall : AllOccur group limit content) :
    ∃ j ≤ i, table.firstMatch? limit content = some j := by
  cases hfirst : table.firstMatch? limit content with
  | none =>
    have hnone := table.firstMatch?_eq_none_iff.mp hfirst
    exact absurd hall (hnone group (List.mem_of_getElem? hgroup))
  | some j =>
    refine ⟨j, ?_, rfl⟩
    apply Nat.le_of_not_lt
    intro hlt
    exact (table.firstMatch?_eq_some_iff.mp hfirst).2 i hlt group hgroup hall

theorem firstMatch?_congr (h : ∀ place < limit, content[place]? = other[place]?) :
    table.firstMatch? limit content = table.firstMatch? limit other := by
  have htake : content.take limit = other.take limit := by
    apply List.ext_getElem?
    intro place
    rw [List.getElem?_take, List.getElem?_take]
    split
    · rename_i hplace
      exact h place hplace
    · rfl
  unfold firstMatch?
  rw [htake]

theorem firstMatch?_mono {i limit' : Nat} (h : table.firstMatch? limit content = some i)
    (hlimit : limit ≤ limit') (more : Bytes) :
    ∃ j ≤ i, table.firstMatch? limit' (content ++ more) = some j := by
  obtain ⟨⟨group, hgroup, hall⟩, -⟩ := table.firstMatch?_eq_some_iff.mp h
  exact table.exists_firstMatch?_le hgroup (hall.mono hlimit more)

/-- The index that is found is that of the first group that occurs, and there is none exactly if no
group does. Only the bytes that are looked at count, and with more of them a match stays one and its
index does not rise. -/
theorem firstMatch?_first_and_monotone (limit : Nat) (content : Bytes) :
    (∀ i, table.firstMatch? limit content = some i ↔
      (∃ group, table.groups[i]? = some group ∧ AllOccur group limit content) ∧
        ∀ j < i, ∀ group, table.groups[j]? = some group → ¬ AllOccur group limit content) ∧
      (table.firstMatch? limit content = none ↔
        ∀ group ∈ table.groups, ¬ AllOccur group limit content) ∧
      (∀ other : Bytes, (∀ place < limit, content[place]? = other[place]?) →
        table.firstMatch? limit content = table.firstMatch? limit other) ∧
      ∀ limit' more i, limit ≤ limit' → table.firstMatch? limit content = some i →
        ∃ j ≤ i, table.firstMatch? limit' (content ++ more) = some j := by
  refine ⟨?_, table.firstMatch?_eq_none_iff, ?_, ?_⟩
  · intro i
    exact table.firstMatch?_eq_some_iff
  · intro other hagree
    exact table.firstMatch?_congr hagree
  · intro limit' more i hlimit hmatch
    exact table.firstMatch?_mono hmatch hlimit more

/-- The first group needs one byte more than is looked at, the clues of the second overlap, and the
third has none. -/
def overlappingTable : ClueTable :=
  ⟨[[Bytes.ofString "abcd"], [Bytes.ofString "ab", Bytes.ofString "bc"], []]⟩

theorem firstMatch?_overlappingTable :
    overlappingTable.firstMatch? 4 (Bytes.ofString "xabcd") = some 1 ∧
      overlappingTable.firstMatch? 4 (Bytes.ofString "xabc!") = some 1 ∧
      ∃ j ≤ 1, overlappingTable.firstMatch? 5 (Bytes.ofString "xabcd" ++ [0x21]) = some j := by
  obtain ⟨-, -, hagree, hmono⟩ :=
    firstMatch?_first_and_monotone overlappingTable 4 (Bytes.ofString "xabcd")
  have hfirst : overlappingTable.firstMatch? 4 (Bytes.ofString "xabcd") = some 1 := by
    decide +kernel
  have hother := hagree (Bytes.ofString "xabc!") (by decide +kernel)
  exact ⟨hfirst, hother.symm.trans hfirst, hmono 5 [0x21] 1 (by omega) hfirst⟩

end Recrawl.ClueTable
