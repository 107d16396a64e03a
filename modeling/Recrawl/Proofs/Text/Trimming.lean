import Recrawl.Text.Blank

/-!
What is left of a text without the blanks at its ends, and what a second removal of blanks inside
does to it.
-/

namespace Recrawl.Text

section Between

variable {α : Type}

/-- The elements from the first to the last one that is no gap. -/
def between (isGap : α → Bool) (xs : List α) : List α :=
  ((xs.dropWhile isGap).reverse.dropWhile isGap).reverse

variable {isGap : α → Bool} {xs front back : List α}

theorem head?_dropWhile {x : α} (h : (xs.dropWhile isGap).head? = some x) : isGap x = false := by
  induction xs with
  | nil => cases h
  | cons y rest ih =>
    rw [List.dropWhile_cons] at h
    split at h
    · exact ih h
    · rename_i hy
      obtain rfl : y = x := by simpa using h
      simpa using hy

theorem exists_append_dropWhile (isGap : α → Bool) (xs : List α) :
    ∃ front, xs = front ++ xs.dropWhile isGap ∧ ∀ x ∈ front, isGap x = true :=
  ⟨xs.takeWhile isGap, (List.takeWhile_append_dropWhile).symm,
    List.all_eq_true.mp List.all_takeWhile⟩

/-- In front of what is between and behind it there are gaps only. -/
theorem exists_append_between (isGap : α → Bool) (xs : List α) :
    ∃ front back, xs = front ++ between isGap xs ++ back ∧ (∀ x ∈ front, isGap x = true) ∧
      ∀ x ∈ back, isGap x = true := by
  obtain ⟨front, hfront, hfrontGap⟩ := exists_append_dropWhile isGap xs
  obtain ⟨back, hback, hbackGap⟩ := exists_append_dropWhile isGap (xs.dropWhile isGap).reverse
  refine ⟨front, back.reverse, ?_, hfrontGap, fun x hx => hbackGap x (List.mem_reverse.mp hx)⟩
  have hmiddle : xs.dropWhile isGap = between isGap xs ++ back.reverse := by
    rw [between, ← List.reverse_append, ← hback, List.reverse_reverse]
  rw [List.append_assoc, ← hmiddle, ← hfront]

theorem between_append (hfront : ∀ x ∈ front, isGap x = true) (hback : ∀ x ∈ back, isGap x = true) :
    between isGap (front ++ xs ++ back) = between isGap xs := by
  have hback' : ∀ x ∈ back.reverse, isGap x = true := fun x hx => hback x (List.mem_reverse.mp hx)
  unfold between
  rw [List.append_assoc, List.dropWhile_append_of_pos hfront, List.dropWhile_append]
  split
  -- With nothing but gaps in front, the gaps behind are dropped from the front as well.
  · rename_i hempty
    have hnil : xs.dropWhile isGap = [] := List.isEmpty_iff.mp hempty
    have hall : (back ++ []).dropWhile isGap = ([] : List α).dropWhile isGap :=
      List.dropWhile_append_of_pos hback
    rw [List.append_nil] at hall
    rw [hnil, hall]
    rfl
  · rw [List.reverse_append, List.dropWhile_append_of_pos hback']

theorem head?_between {x : α} (h : (between isGap xs).head? = some x) : isGap x = false := by
  obtain ⟨front, hfront, -⟩ := exists_append_dropWhile isGap (xs.dropWhile isGap).reverse
  have hmiddle : xs.dropWhile isGap = between isGap xs ++ front.reverse := by
    rw [between, ← List.reverse_append, ← hfront, List.reverse_reverse]
  have hhead : (xs.dropWhile isGap).head? = some x := by
    rw [hmiddle, List.head?_append, h]
    rfl
  exact head?_dropWhile hhead

theorem getLast?_between {x : α} (h : (between isGap xs).getLast? = some x) : isGap x = false := by
  rw [between, List.getLast?_reverse] at h
  exact head?_dropWhile h

/-- What has no gap at either end is kept as it is. -/
theorem between_eq_self (hhead : ∀ x, xs.head? = some x → isGap x = false)
    (hlast : ∀ x, xs.getLast? = some x → isGap x = false) : between isGap xs = xs := by
  have hdrop : ∀ {ys : List α}, (∀ y, ys.head? = some y → isGap y = false) →
      ys.dropWhile isGap = ys := by
    intro ys hys
    cases ys with
    | nil => rfl
    | cons y rest => rw [List.dropWhile_cons_of_neg (by simp [hys y rfl])]
  rw [between, hdrop hhead, hdrop (by simpa using hlast), List.reverse_reverse]

end Between

/-- A text that begins with no blank is kept as it is. -/
theorem trimStart_append {front : List Char} (h : front.head?.any (!isBlank ·) = true)
    (rest : List Char) : trimStart (front ++ rest) = front ++ rest := by
  cases front with
  | nil => cases h
  | cons c front =>
    rw [List.cons_append, trimStart, List.dropWhile_cons_of_neg]
    simpa using h

theorem trimChars_eq_between (chars : List Char) : trimChars chars = between isBlank chars := rfl

section Marks

-- Characters, each with whether it is kept or left out.
variable (marks : List (Char × Bool))

/-- All characters. -/
def charsOf : List Char := marks.map (·.1)

/-- The characters that are kept. -/
def keptOf : List Char := (marks.filter (·.2)).map (·.1)

/-- The character of a mark is blank. -/
def isBlankMark (mark : Char × Bool) : Bool := isBlank mark.1

/-- The characters from the first to the last that is not blank. -/
def trimMarks : List (Char × Bool) := between isBlankMark marks

theorem charsOf_trimMarks : charsOf (trimMarks marks) = trimChars (charsOf marks) := by
  have hdrop : ∀ marks, (charsOf marks).dropWhile isBlank =
      charsOf (marks.dropWhile isBlankMark) := by
    intro marks
    simp only [charsOf, List.dropWhile_map]
    rfl
  have hreverse : ∀ marks, (charsOf marks).reverse = charsOf marks.reverse := by
    intro marks
    simp only [charsOf, List.map_reverse]
  rw [trimChars_eq_between, trimMarks, between, between, hdrop, hreverse, hdrop, hreverse]

variable {marks}

theorem keptOf_append (front back : List (Char × Bool)) :
    keptOf (front ++ back) = keptOf front ++ keptOf back := by
  simp only [keptOf, List.filter_append, List.map_append]

theorem mem_of_mem_keptOf {c : Char} (h : c ∈ keptOf marks) : (c, true) ∈ marks := by
  obtain ⟨⟨c', kept⟩, hmark, rfl⟩ := List.mem_map.mp h
  obtain ⟨hmem, rfl⟩ := List.mem_filter.mp hmark
  exact hmem

/-- A character that is not blank is kept, and so is at the end of what is kept. -/
theorem head?_keptOf (h : ∀ mark ∈ marks, mark.2 = false → isBlankMark mark = true)
    (hhead : ∀ mark, marks.head? = some mark → isBlankMark mark = false) (c : Char)
    (hc : (keptOf marks).head? = some c) : isBlank c = false := by
  cases marks with
  | nil => cases hc
  | cons mark rest =>
    have hblank := hhead mark rfl
    have hkept : mark.2 = true := by
      rw [← Bool.not_eq_false]
      intro hleft
      rw [h mark List.mem_cons_self hleft] at hblank
      cases hblank
    have hcons : keptOf (mark :: rest) = mark.1 :: keptOf rest := by
      simp [keptOf, hkept]
    rw [hcons, List.head?_cons, Option.some.injEq] at hc
    rwa [← hc]

theorem keptOf_reverse : keptOf marks.reverse = (keptOf marks).reverse := by
  simp only [keptOf, List.filter_reverse, List.map_reverse]

/-- If only blanks are left out, the ends of what is kept are those of the whole. -/
theorem trimChars_keptOf (h : ∀ mark ∈ marks, mark.2 = false → isBlankMark mark = true) :
    trimChars (keptOf marks) = keptOf (trimMarks marks) := by
  obtain ⟨front, back, hsplit, hfront, hback⟩ :=
    exists_append_between isBlankMark marks
  have hmem : ∀ mark ∈ trimMarks marks, mark.2 = false → isBlankMark mark = true := by
    intro mark hmark
    refine h mark ?_
    rw [hsplit]
    exact List.mem_append_left _ (List.mem_append_right _ hmark)
  have hkept : keptOf marks = keptOf front ++ keptOf (trimMarks marks) ++ keptOf back := by
    rw [← keptOf_append, ← keptOf_append]
    exact congrArg keptOf hsplit
  rw [hkept, trimChars_eq_between, between_append]
  · have hhead : ∀ mark, (trimMarks marks).head? = some mark → isBlankMark mark = false :=
      fun mark hmark => head?_between hmark
    have hlast : ∀ mark, (trimMarks marks).reverse.head? = some mark → isBlankMark mark = false := by
      intro mark hmark
      rw [List.head?_reverse] at hmark
      exact getLast?_between hmark
    refine between_eq_self (head?_keptOf hmem hhead) ?_
    intro c hc
    rw [← List.head?_reverse, ← keptOf_reverse] at hc
    exact head?_keptOf (fun mark hmark => hmem mark (List.mem_reverse.mp hmark)) hlast c hc
  · intro c hc
    exact hfront (c, true) (mem_of_mem_keptOf hc)
  · intro c hc
    exact hback (c, true) (mem_of_mem_keptOf hc)

theorem keptOf_eq_charsOf_iff : keptOf marks = charsOf marks ↔ ∀ mark ∈ marks, mark.2 = true := by
  constructor
  · intro h
    have hlength : (marks.filter (·.2)).length = marks.length := by
      simpa [keptOf, charsOf] using congrArg List.length h
    exact List.length_filter_eq_length_iff.mp hlength
  · intro h
    simp only [keptOf, charsOf, List.filter_eq_self.mpr h]

/-- Blanks that are left out do not show exactly if they are at the ends. -/
theorem trimChars_keptOf_eq_iff (h : ∀ mark ∈ marks, mark.2 = false → isBlankMark mark = true) :
    trimChars (keptOf marks) = trimChars (charsOf marks) ↔ ∀ mark ∈ trimMarks marks, mark.2 = true := by
  rw [trimChars_keptOf h, ← charsOf_trimMarks]
  exact keptOf_eq_charsOf_iff

end Marks

end Recrawl.Text
