import Recrawl.Time.Calendar

/-!
The calendar counts days without gaps. Every number is that of exactly one valid date: the date
that it gives is valid and counts back to it, and a valid date is the one that its number gives.
-/

namespace Recrawl.Time

/-- The days of months of the given lengths. -/
def daysOf (lengths : List Nat) : Nat :=
  lengths.foldl (· + ·) 0

@[simp] theorem daysOf_nil : daysOf [] = 0 := rfl

@[simp] theorem daysOf_append (first later : List Nat) :
    daysOf (first ++ later) = daysOf first + daysOf later := by
  simp only [daysOf, ← List.sum_eq_foldl_nat, List.sum_append]

@[simp] theorem daysOf_cons (length : Nat) (rest : List Nat) :
    daysOf (length :: rest) = length + daysOf rest := by
  simp only [daysOf, ← List.sum_eq_foldl_nat, List.sum_cons]

/-- The days of a year. -/
def yearLength (year : Int) : Nat :=
  daysOf (monthLengths (isLeapYear year))

theorem daysBeforeYear_add_one (year : Int) :
    daysBeforeYear (year + 1) = daysBeforeYear year + yearLength year := by
  cases hleap : isLeapYear year with
  | true =>
    have hlength : yearLength year = 366 := by
      rw [yearLength, hleap]
      rfl
    simp only [isLeapYear, Bool.and_eq_true, Bool.or_eq_true, beq_iff_eq, bne_iff_ne] at hleap
    rw [hlength, daysBeforeYear, daysBeforeYear]
    omega
  | false =>
    have hlength : yearLength year = 365 := by
      rw [yearLength, hleap]
      rfl
    simp only [isLeapYear, Bool.and_eq_false_iff, Bool.or_eq_false_iff, beq_eq_false_iff_ne,
      bne_eq_false_iff_eq] at hleap
    rw [hlength, daysBeforeYear, daysBeforeYear]
    omega

theorem daysBeforeYear_mono {first later : Int} (h : first ≤ later) :
    daysBeforeYear first ≤ daysBeforeYear later := by
  simp only [daysBeforeYear]
  omega

namespace Date

/-- The year of a day is the one that has begun and not ended. -/
theorem day_mem_yearOfDay (day : Int) :
    daysBeforeYear (yearOfDay day) ≤ day ∧ day < daysBeforeYear (yearOfDay day + 1) := by
  -- The average year has 365.2425 days, so the guess is at most two years early.
  have hguess : daysBeforeYear (day * 400 / 146097) ≤ day ∧
      day < daysBeforeYear (day * 400 / 146097 + 3) := by
    simp only [daysBeforeYear]
    omega
  simp only [yearOfDay]
  split
  · rename_i hsecond
    exact ⟨hsecond, by rw [Int.add_assoc]; exact hguess.2⟩
  · rename_i hsecond
    split
    · rename_i hfirst
      exact ⟨hfirst, by rw [Int.add_assoc]; exact Int.not_le.mp hsecond⟩
    · rename_i hfirst
      exact ⟨hguess.1, Int.not_le.mp hfirst⟩

theorem yearOfDay_eq {year day : Int} (hbegun : daysBeforeYear year ≤ day)
    (hgoes : day < daysBeforeYear (year + 1)) : yearOfDay day = year := by
  obtain ⟨hlow, hhigh⟩ := day_mem_yearOfDay day
  have hearlier : ¬ yearOfDay day + 1 ≤ year := by
    intro h
    have := daysBeforeYear_mono h
    omega
  have hlater : ¬ year + 1 ≤ yearOfDay day := by
    intro h
    have := daysBeforeYear_mono h
    omega
  omega

/-- A day of the year that lies `day` days into a month. -/
theorem splitDayOfYear_of_getElem? (month : Nat) {lengths : List Nat} {index day length : Nat}
    (hindex : lengths[index]? = some length) (hday : day < length) :
    splitDayOfYear month lengths (daysOf (lengths.take index) + day) = (month + index, day + 1) := by
  induction lengths generalizing month index with
  | nil => cases hindex
  | cons first rest ih =>
    cases index with
    | zero =>
      cases hindex
      simp [splitDayOfYear, hday]
    | succ index =>
      have hpast : ¬ first + daysOf (rest.take index) + day < first := by omega
      have hrest : first + daysOf (rest.take index) + day - first =
          daysOf (rest.take index) + day := by omega
      rw [List.take_succ_cons, daysOf_cons, splitDayOfYear, if_neg hpast, hrest,
        ih (month + 1) hindex]
      simp only [Prod.mk.injEq, and_true]
      omega

/-- Every day of the year lies in some month. -/
theorem exists_month_of_lt {lengths : List Nat} {day : Nat} (h : day < daysOf lengths) :
    ∃ index inMonth length, lengths[index]? = some length ∧ inMonth < length ∧
      day = daysOf (lengths.take index) + inMonth := by
  induction lengths generalizing day with
  | nil => cases h
  | cons first rest ih =>
    by_cases hfirst : day < first
    · exact ⟨0, day, first, rfl, hfirst, by simp⟩
    · rw [daysOf_cons] at h
      have hrest : day - first < daysOf rest := by omega
      obtain ⟨index, inMonth, length, hindex, hday, hsum⟩ := ih hrest
      refine ⟨index + 1, inMonth, length, hindex, hday, ?_⟩
      rw [List.take_succ_cons, daysOf_cons]
      omega

/-- The days of the year before a date. -/
def dayOfYear (date : Date) : Nat :=
  daysOf ((monthLengths (isLeapYear date.year)).take (date.month - 1)) + (date.day - 1)

/-- A date is valid if its month is one of the twelve and its day one of the month. -/
theorem isValid_iff {date : Date} :
    date.isValid = true ↔ ∃ length,
      (monthLengths (isLeapYear date.year))[date.month - 1]? = some length ∧
        1 ≤ date.month ∧ 1 ≤ date.day ∧ date.day ≤ length := by
  unfold isValid
  split
  · rename_i length hlength
    simp [hlength, and_assoc]
  · rename_i hnone
    simp [hnone]

theorem bounds_of_isValid {date : Date} (h : date.isValid = true) :
    1 ≤ date.month ∧ date.month ≤ 12 ∧ 1 ≤ date.day ∧ date.day ≤ 31 := by
  obtain ⟨length, hlength, hmonth, hday, hlast⟩ := isValid_iff.mp h
  have hin : date.month - 1 < 12 := (List.getElem?_eq_some_iff.mp hlength).1
  have hlongest : ∀ leap, ∀ l ∈ monthLengths leap, l ≤ 31 := by decide
  have := hlongest _ length (List.mem_of_getElem? hlength)
  omega

theorem dayNumber_eq {date : Date} (h : date.isValid = true) :
    date.dayNumber = daysBeforeYear date.year + date.dayOfYear - epochDay := by
  obtain ⟨_, _, hday, _⟩ := bounds_of_isValid h
  simp only [dayNumber, dayOfYear, daysOf]
  omega

theorem dayOfYear_lt {date : Date} (h : date.isValid = true) :
    date.dayOfYear < yearLength date.year := by
  obtain ⟨length, hlength, hmonth, hday, hlast⟩ := isValid_iff.mp h
  have hsplit := congrArg daysOf (List.take_append_drop (date.month - 1)
    (monthLengths (isLeapYear date.year)))
  obtain ⟨hin, hget⟩ := List.getElem?_eq_some_iff.mp hlength
  rw [daysOf_append, List.drop_eq_getElem_cons hin, daysOf_cons, hget] at hsplit
  simp only [dayOfYear, yearLength]
  omega

/-- A valid date is the one that its number gives. -/
theorem ofDayNumber_dayNumber {date : Date} (h : date.isValid = true) :
    ofDayNumber date.dayNumber = date := by
  obtain ⟨length, hlength, hmonth, hday, hlast⟩ := isValid_iff.mp h
  have hlt := dayOfYear_lt h
  have hday' : date.dayNumber + epochDay = daysBeforeYear date.year + date.dayOfYear := by
    rw [dayNumber_eq h]
    omega
  have hyear : yearOfDay (daysBeforeYear date.year + date.dayOfYear) = date.year := by
    apply yearOfDay_eq
    · omega
    · rw [daysBeforeYear_add_one]
      omega
  have hinMonth : date.day - 1 < length := by omega
  have hsplit := splitDayOfYear_of_getElem? 1 hlength hinMonth
  have hoffset : (daysBeforeYear date.year + date.dayOfYear - daysBeforeYear date.year).toNat =
      date.dayOfYear := by omega
  simp only [ofDayNumber, hday', hyear, hoffset]
  rw [dayOfYear, hsplit]
  have hback : 1 + (date.month - 1) = date.month := by omega
  have hback' : date.day - 1 + 1 = date.day := by omega
  rw [hback, hback']

/-- Every number counts the days to some valid date. -/
theorem exists_dayNumber_eq (number : Int) :
    ∃ date : Date, date.isValid = true ∧ date.dayNumber = number := by
  obtain ⟨hlow, hhigh⟩ := day_mem_yearOfDay (number + epochDay)
  generalize yearOfDay (number + epochDay) = year at hlow hhigh
  rw [daysBeforeYear_add_one] at hhigh
  have hin : (number + epochDay - daysBeforeYear year).toNat <
      daysOf (monthLengths (isLeapYear year)) := by
    rw [← yearLength]
    omega
  obtain ⟨index, inMonth, length, hindex, hday, hsum⟩ := exists_month_of_lt hin
  have hvalid : (⟨year, index + 1, inMonth + 1⟩ : Date).isValid = true :=
    isValid_iff.mpr ⟨length, hindex, by simp, by simp, hday⟩
  refine ⟨_, hvalid, ?_⟩
  rw [dayNumber_eq hvalid]
  simp only [dayOfYear, Nat.add_sub_cancel]
  omega

/-- The date of a number is valid. -/
theorem isValid_ofDayNumber (number : Int) : (ofDayNumber number).isValid = true := by
  obtain ⟨date, hvalid, rfl⟩ := exists_dayNumber_eq number
  rwa [ofDayNumber_dayNumber hvalid]

/-- The date of a number counts back to it. -/
theorem dayNumber_ofDayNumber (number : Int) : (ofDayNumber number).dayNumber = number := by
  obtain ⟨date, hvalid, rfl⟩ := exists_dayNumber_eq number
  rw [ofDayNumber_dayNumber hvalid]

end Date

/-- The names of the weekdays go round from day zero on, a Thursday. -/
theorem Weekday.shortName_ofDayNumber (number : Int) :
    ["Thu", "Fri", "Sat", "Sun", "Mon", "Tue", "Wed"][(number % 7).toNat]? =
      some (ofDayNumber number).shortName := by
  have hshift : (number + 3) % 7 = (number % 7 + 3) % 7 := by omega
  have hrange : number % 7 = 0 ∨ number % 7 = 1 ∨ number % 7 = 2 ∨ number % 7 = 3 ∨
      number % 7 = 4 ∨ number % 7 = 5 ∨ number % 7 = 6 := by omega
  unfold ofDayNumber
  rw [hshift]
  rcases hrange with h | h | h | h | h | h | h <;> rw [h] <;> rfl

end Recrawl.Time
