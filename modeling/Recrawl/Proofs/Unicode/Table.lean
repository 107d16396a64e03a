import Recrawl.Unicode.Direction
import Recrawl.Unicode.Mapping
import Recrawl.Unicode.Normal

/-!
The runs of a table stand in the order of their first code points, so that bisection finds the one
that holds a code point. The runs that the fields in front give do not depend on the fields behind
them: for the Latin letters, only the first part of a table has to be read.
-/

namespace Recrawl.Unicode

section Reading

variable {α : Type} {place : Nat → List Char → Option (Run α × Nat)} {runs : Array (Run α)}
  {run next : Run α} {code index : Nat}

namespace Run

/-- No run starts before one in front of it. -/
def Ordered (runs : Array (Run α)) : Prop :=
  ∀ ⦃i j : Nat⦄ ⦃earlier later : Run α⦄, i < j → runs[i]? = some earlier → runs[j]? = some later →
    earlier.first ≤ later.first

/-- Bisection comes to the last run that starts at or before the code point. -/
theorem searchBetween_eq (hbelow : ∀ k ≤ index, ∀ run, runs[k]? = some run → run.first ≤ code)
    (habove : ∀ k, index < k → ∀ run, runs[k]? = some run → code < run.first) {lo hi : Nat}
    {best : Option (Run α)} (hlo : lo ≤ index + 1) (hhi : index < hi) (hsize : hi ≤ runs.size)
    (hbest : index < lo → best = runs[index]?) :
    searchBetween runs code lo hi best = runs[index]? := by
  fun_induction searchBetween runs code lo hi best with
  | case1 lo hi best hlt mid hnone =>
    -- The middle is an index of the table.
    rw [Array.getElem?_eq_none_iff] at hnone
    omega
  | case2 lo hi best hlt mid found hfound hstart ih =>
    have hmid : mid ≤ index := Nat.le_of_not_lt fun hover =>
      Nat.not_le.mpr (habove mid hover found hfound) hstart
    refine ih (by omega) hhi hsize fun hnext => ?_
    obtain rfl : mid = index := by omega
    exact hfound.symm
  | case3 lo hi best hlt mid found hfound hstart ih =>
    have hmid : index < mid := Nat.lt_of_not_le fun hunder =>
      hstart (hbelow mid hunder found hfound)
    exact ih hlo hmid (by omega) hbest
  | case4 lo hi best hdone => exact hbest (by omega)

/-- Between the starts of two runs, only the first of them can hold a code point. -/
theorem find?_eq (h : Ordered runs) (hrun : runs[index]? = some run)
    (hnext : runs[index + 1]? = some next) (hfirst : run.first ≤ code) (hlast : code < next.first) :
    find? runs code = if code < run.first + run.size then some run else none := by
  have hindex : index < runs.size := (Array.getElem?_eq_some_iff.mp hrun).1
  have hbelow (k : Nat) (hk : k ≤ index) (other : Run α) (hother : runs[k]? = some other) :
      other.first ≤ code := by
    rcases Nat.lt_or_eq_of_le hk with hk | rfl
    · exact Nat.le_trans (h hk hother hrun) hfirst
    · rw [hrun] at hother
      obtain rfl := Option.some.inj hother
      exact hfirst
  have habove (k : Nat) (hk : index < k) (other : Run α) (hother : runs[k]? = some other) :
      code < other.first := by
    rcases Nat.lt_or_eq_of_le (Nat.succ_le_of_lt hk) with hk | rfl
    · exact Nat.lt_of_lt_of_le hlast (h hk hnext hother)
    · rw [hnext] at hother
      obtain rfl := Option.some.inj hother
      exact hlast
  have hsearch : searchBetween runs code 0 runs.size none = runs[index]? :=
    searchBetween_eq hbelow habove (Nat.zero_le _) hindex (Nat.le_refl _) fun hneg =>
      absurd hneg (Nat.not_lt_zero _)
  rw [find?, hsearch, hrun]

end Run

theorem getElem?_readFields_of_getElem? {fields : List (List Char)} (h : runs[index]? = some run) :
    (readFields place code runs fields)[index]? = some run := by
  fun_induction readFields place code runs fields with
  | case1 => exact h
  | case2 code runs field rest placed next hplace ih =>
    have hindex : index < runs.size := (Array.getElem?_eq_some_iff.mp h).1
    exact ih (by rw [Array.getElem?_push_lt hindex, ← Array.getElem?_eq_getElem, h])
  | case3 => exact h

/-- The runs that fields give are there whatever fields follow. -/
theorem getElem?_readFields_append {front back : List (List Char)}
    (h : (readFields place code runs front)[index]? = some run) :
    (readFields place code runs (front ++ back))[index]? = some run := by
  fun_induction readFields place code runs front with
  | case1 => exact getElem?_readFields_of_getElem? h
  | case2 code runs field rest placed next hplace ih =>
    rw [List.cons_append, readFields, hplace]
    exact ih h
  | case3 code runs field rest hplace =>
    rw [List.cons_append, readFields, hplace]
    exact h

/-- A field is read behind its run, and its run does not start before the place where it is read. -/
def Advances (place : Nat → List Char → Option (Run α × Nat)) : Prop :=
  ∀ ⦃code field run next⦄, place code field = some (run, next) → code ≤ run.first ∧ run.first ≤ next

theorem ordered_readFields (hplace : Advances place) {fields : List (List Char)}
    (hruns : Run.Ordered runs) (hcode : ∀ run ∈ runs, run.first ≤ code) :
    Run.Ordered (readFields place code runs fields) := by
  fun_induction readFields place code runs fields with
  | case1 => exact hruns
  | case2 code runs field rest placed next hfield ih =>
    obtain ⟨hstart, hend⟩ := hplace hfield
    refine ih (fun i j earlier later hij hearlier hlater => ?_) fun run hrun => ?_
    · have hj := (Array.getElem?_eq_some_iff.mp hlater).1
      rw [Array.size_push] at hj
      rw [Array.getElem?_push_lt (by omega), ← Array.getElem?_eq_getElem] at hearlier
      rw [Array.getElem?_push] at hlater
      split at hlater
      · obtain rfl := Option.some.inj hlater
        exact Nat.le_trans (hcode earlier (Array.mem_of_getElem? hearlier)) hstart
      · exact hruns hij hearlier hlater
    · rcases Array.mem_push.mp hrun with hrun | rfl
      · exact Nat.le_trans (hcode run hrun) (Nat.le_trans hstart hend)
      · exact hend
  | case3 => exact hruns

theorem ordered_table (hplace : Advances place) (fields : List (List Char)) :
    Run.Ordered (readFields place 0 #[] fields) :=
  ordered_readFields hplace (fun _ _ _ _ _ h => by simp at h) fun _ h => by simp at h

theorem advances_placeRun (value : List Char → α) : Advances (placeRun value) := by
  intro code field run next h
  unfold placeRun at h
  split at h
  · cases h
    exact ⟨Nat.le_add_right _ _, Nat.le_add_right _ _⟩
  · cases h

/-- A code point of a run that the fields in front give is found there. -/
theorem find?_eq_some (hplace : Advances place) {front : List (List Char)}
    (hrun : (readFields place 0 #[] front)[index]? = some run)
    (hnext : (readFields place 0 #[] front)[index + 1]? = some next) (hfirst : run.first ≤ code)
    (hsize : code < run.first + run.size) (hlast : code < next.first) (back : List (List Char)) :
    Run.find? (readFields place 0 #[] (front ++ back)) code = some run := by
  rw [Run.find?_eq (ordered_table hplace _) (getElem?_readFields_append hrun)
    (getElem?_readFields_append hnext) hfirst hlast, if_pos hsize]

/-- A code point between two runs that the fields in front give is in no run. -/
theorem find?_eq_none (hplace : Advances place) {front : List (List Char)}
    (hrun : (readFields place 0 #[] front)[index]? = some run)
    (hnext : (readFields place 0 #[] front)[index + 1]? = some next)
    (hsize : run.first + run.size ≤ code) (hlast : code < next.first) (back : List (List Char)) :
    Run.find? (readFields place 0 #[] (front ++ back)) code = none := by
  have hfirst : run.first ≤ code := Nat.le_trans (Nat.le_add_right _ _) hsize
  rw [Run.find?_eq (ordered_table hplace _) (getElem?_readFields_append hrun)
    (getElem?_readFields_append hnext) hfirst hlast, if_neg (Nat.not_lt.mpr hsize)]

end Reading

theorem Mapping.advances_place : Advances Mapping.place := by
  intro code field run next h
  cases h
  exact ⟨Nat.le_refl _, Nat.le_add_right _ _⟩

theorem Decomposition.advances_place : Advances Decomposition.place := by
  intro code field run next h
  cases h
  exact ⟨Nat.le_add_right _ _, Nat.le_refl _⟩

namespace Direction

/-- The runs of the first part of the table. -/
def latinRuns : Array (Run Direction) := readFields (placeRun ofLetter) 0 #[] (tableFields latinText)

set_option maxRecDepth 4000 in
/-- The runs of the digits and of the two signs for arithmetic, and the run behind the digits. -/
theorem latinRuns_get : latinRuns[11]? = some ⟨0x30, 10, europeanNumber⟩ ∧
    latinRuns[12]? = some ⟨0x3A, 1, commonSeparator⟩ ∧
    latinRuns[32]? = some ⟨0xD7, 1, neutral⟩ ∧ latinRuns[33]? = some ⟨0xF7, 1, neutral⟩ := by
  -- A literal is not opened by its characters; the list of them is.
  have hchars : latinText = String.ofList _ := rfl
  rw [latinRuns, tableFields, hchars, String.toList_ofList]
  decide +kernel

end Direction

theorem direction_of_isDigit {c : Char} (h : c.isDigit = true) : direction c = .europeanNumber := by
  simp only [Char.isDigit, Bool.and_eq_true, decide_eq_true_eq] at h
  have hfirst : 0x30 ≤ c.toNat := h.1
  have hlast : c.toNat < 0x30 + 10 := Nat.lt_of_le_of_lt h.2 (by decide)
  have hfind := find?_eq_some (advances_placeRun _) Direction.latinRuns_get.1
    Direction.latinRuns_get.2.1 hfirst hlast hlast (tableFields Direction.otherText)
  rw [direction, Run.valueOf, Direction.runs, hfind]

/-- The letters of Latin-1 between the two signs are written from left to right. -/
theorem direction_of_latin {c : Char} (hfirst : 0xD8 ≤ c.toNat) (hlast : c.toNat < 0xF7) :
    direction c = .leftToRight := by
  have hfind := find?_eq_none (advances_placeRun _) Direction.latinRuns_get.2.2.1
    Direction.latinRuns_get.2.2.2 hfirst hlast (tableFields Direction.otherText)
  rw [direction, Run.valueOf, Direction.runs, hfind]

/-- The runs of the first part of the mapping. -/
def Mapping.latinRuns : Array (Run Mapping) :=
  readFields Mapping.place 0 #[] (tableFields Mapping.latinText)

set_option maxRecDepth 4000 in
/-- The run of the last small letters of Latin-1, and the run behind it. -/
theorem Mapping.latinRuns_get : latinRuns[30]? = some ⟨0xDF, 0x21, valid⟩ ∧
    latinRuns[31]? = some ⟨0x100, 0x30, paired⟩ := by
  have hchars : latinText = String.ofList _ := rfl
  rw [latinRuns, tableFields, hchars, String.toList_ofList]
  decide +kernel

/-- The small letters of Latin-1 beyond ASCII are mapped to themselves. -/
theorem mapChar?_of_latin {c : Char} (hfirst : 0xDF ≤ c.toNat) (hlast : c.toNat < 0x100) :
    mapChar? c = some [c] := by
  have hfind := find?_eq_some Mapping.advances_place Mapping.latinRuns_get.1
    Mapping.latinRuns_get.2 hfirst hlast hlast (tableFields Mapping.otherText)
  have hascii : ¬ c.toNat < 0x80 := by omega
  rw [mapChar?, if_neg hascii, Mapping.runs, hfind]

/-- The runs of the first part of the decompositions. -/
def Decomposition.latinRuns : Array (Run Decomposition) :=
  readFields Decomposition.place 0 #[] (tableFields Decomposition.latinText)

set_option maxRecDepth 4000 in
/-- The last capital letter of Latin-1 with a mark, and the first small one. -/
theorem Decomposition.latinRuns_get :
    latinRuns[25]? = some ⟨0xDD, 1, ⟨[0x59, 0x301], true⟩⟩ ∧
      latinRuns[26]? = some ⟨0xE0, 1, ⟨[0x61, 0x300], true⟩⟩ := by
  have hchars : latinText = String.ofList _ := rfl
  rw [latinRuns, tableFields, hchars, String.toList_ofList]
  decide +kernel

theorem expand_eq_self {parts? : Nat → Option (List Nat)} {code : Nat} (h : parts? code = none)
    (depth : Nat) : expand parts? depth code = [code] := by
  cases depth with
  | zero => rfl
  | succ depth => rw [expand, h]

/-- The two letters of Latin-1 between capital and small ones with a mark do not decompose. -/
theorem decompose_of_latin {c : Char} (hfirst : 0xDE ≤ c.toNat) (hlast : c.toNat < 0xE0) :
    decompose c = [c] := by
  have hfind := find?_eq_none Decomposition.advances_place Decomposition.latinRuns_get.1
    Decomposition.latinRuns_get.2 hfirst hlast (tableFields Decomposition.otherText)
  have hbelow : ¬ c.toNat < 0xC0 := by omega
  have hsyllable : Hangul.decompose? c.toNat = none := by
    refine if_neg ?_
    rw [Bool.and_eq_true, decide_eq_true_eq, Hangul.syllableBase]
    omega
  have hparts : parts? c.toNat = none := by
    rw [parts?, hsyllable, Decomposition.runs, hfind, Option.map_none]
  rw [decompose, if_neg hbelow, expand_eq_self hparts, List.map_singleton, Char.ofNat_toNat]

theorem composed_singleton {c : Char} (h : decompose c = [c]) : composed [c] = [c] := by
  have hmarks : orderMarks ([c].flatMap decompose) = [c] := by
    rw [List.flatMap_singleton, h]
    rfl
  rw [composed, hmarks, List.foldl_cons, List.foldl_nil]
  unfold Composing.step
  simp only [Option.bind_none]
  cases combiningClass c == 0
  · rfl
  · rfl

end Recrawl.Unicode
