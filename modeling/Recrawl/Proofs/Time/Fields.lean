import Recrawl.Proofs.Time.Calendar
import Recrawl.Proofs.Time.Shift
import Recrawl.Time.Field

/-!
The instant of written fields. Fields in range denote the local time that they spell minus the
offset, and fields out of range denote nothing.
-/

namespace Recrawl.Time

namespace Date

/-- A day strictly inside the range of years has a representable day before and behind it. -/
theorem dayNumber_mem {date : Date} (hvalid : date.isValid = true)
    (hyear : minYear < date.year ∧ date.year < maxYear) :
    minDay < date.dayNumber ∧ date.dayNumber < maxDay := by
  have hlt := dayOfYear_lt hvalid
  have hnext := daysBeforeYear_add_one date.year
  have hmin : daysBeforeYear (minYear + 1) ≤ daysBeforeYear date.year :=
    daysBeforeYear_mono (by omega)
  have hmax : daysBeforeYear (date.year + 1) ≤ daysBeforeYear maxYear :=
    daysBeforeYear_mono (by omega)
  have hfirst : minDay < daysBeforeYear (minYear + 1) - epochDay := by decide
  have hlast : daysBeforeYear maxYear - epochDay < maxDay := by decide
  rw [dayNumber_eq hvalid]
  omega

end Date

namespace Fields

variable {f : Fields}

/-- The day that is written. -/
def date (f : Fields) : Date := ⟨f.year, f.month, f.day⟩

/-- The seconds since midnight that are written. -/
def clock (f : Fields) : Nat := f.hour * 3600 + f.minute * 60 + f.second

/-- The month and the day exist in the year, and the hour and the minute in the day. -/
def InRange (f : Fields) : Prop :=
  f.date.isValid = true ∧ f.hour < 24 ∧ f.minute < 60

instance (f : Fields) : Decidable f.InRange :=
  inferInstanceAs (Decidable (_ ∧ _))

/-- The date is looked up, the rest is checked, and second 60 is taken into the leap second. -/
theorem toInstant?_eq (f : Fields) :
    f.toInstant? =
      (Date.of? f.year f.month f.day).bind fun date =>
        if f.hour < 24 ∧ f.minute < 60 ∧ f.second ≤ 60 ∧ f.offset.natAbs < secondsPerDay ∧
            ∀ day ∈ f.weekday, day = Weekday.ofDayNumber date.dayNumber then
          Instant.ofLocal? date.dayNumber
            (f.hour * 3600 + f.minute * 60 + if f.second = 60 then 59 else f.second)
            (f.nano + if f.second = 60 then nanosPerSecond else 0) f.offset
        else none := by
  unfold toInstant?
  cases hdate : Date.of? f.year f.month f.day with
  | none => rfl
  | some date =>
    rw [Option.bind_eq_bind, Option.bind_some, Option.bind_some]
    have hweekday : f.weekday.all (· == Weekday.ofDayNumber date.dayNumber) = true ↔
        ∀ day ∈ f.weekday, day = Weekday.ofDayNumber date.dayNumber := by
      cases f.weekday <;> simp
    simp only [Bool.and_eq_true, decide_eq_true_eq, hweekday, and_assoc, beq_iff_eq]
    by_cases hleap : f.second = 60
    · simp only [hleap, if_true]
    · simp only [hleap, if_false, Nat.add_zero]

/-- A date without a time is the midnight at its beginning. -/
theorem toInstant?_of_date (year : Int) (month day : Nat) :
    ({ year, month, day } : Fields).toInstant? =
      (Date.of? year month day).bind Instant.ofDate? := by
  rw [toInstant?_eq]
  congr 1
  funext date
  simp [Instant.ofLocal?, Instant.moved?, Instant.ofDate?, secondsPerDay]

theorem toInstant?_eq_none (h : ¬ f.InRange) : f.toInstant? = none := by
  rw [toInstant?_eq]
  by_cases hvalid : f.date.isValid = true
  · have hclock : ¬ (f.hour < 24 ∧ f.minute < 60) := fun hclock => h ⟨hvalid, hclock⟩
    cases Date.of? f.year f.month f.day with
    | none => rfl
    | some date =>
      rw [Option.bind_some, if_neg fun hall => hclock ⟨hall.1, hall.2.1⟩]
  · have hdate : Date.of? f.year f.month f.day = none := by
      refine if_neg fun hall => hvalid ?_
      rw [Bool.and_eq_true] at hall
      exact hall.2
    rw [hdate, Option.bind_none]

/-- Fields in range denote their local time minus the offset. -/
theorem toInstant?_of_inRange (h : f.InRange)
    (hyear : Date.minYear < f.year ∧ f.year < Date.maxYear) (hsecond : f.second < 60)
    (hnano : f.nano < nanosPerSecond) (hoffset : f.offset.natAbs < secondsPerDay)
    (hweekday : ∀ day ∈ f.weekday, day = Weekday.ofDayNumber f.date.dayNumber) :
    ∃ i, f.toInstant? = some i ∧
      i.epochSecond = f.date.dayNumber * secondsPerDay + f.clock - f.offset ∧
      i.nano = f.nano := by
  obtain ⟨hvalid, hhour, hminute⟩ := h
  have hdate : Date.of? f.year f.month f.day = some f.date := by
    refine if_pos ?_
    have hlow : Date.minYear ≤ f.year := by omega
    have hhigh : f.year ≤ Date.maxYear := by omega
    simp only [hlow, hhigh, decide_true, Bool.true_and]
    exact hvalid
  have hclock : f.clock < secondsPerDay := by
    simp only [clock, secondsPerDay]
    omega
  obtain ⟨hmin, hmax⟩ := Date.dayNumber_mem hvalid hyear
  have hsome : Instant.ofLocal? f.date.dayNumber f.clock f.nano f.offset ≠ none := by
    rw [Instant.ofLocal?, Ne, Instant.moved?_eq_none_iff (by omega), Representable, Classical.not_not]
    simp only [secondsPerDay] at hclock hoffset ⊢
    omega
  obtain ⟨i, hi⟩ := Option.ne_none_iff_exists'.mp hsome
  obtain ⟨hepoch, hfraction⟩ := Instant.epochSecond_of_moved? hi
  refine ⟨i, ?_, by rw [hepoch]; omega, hfraction⟩
  have hplain : ¬ f.second = 60 := by omega
  rw [toInstant?_eq, hdate, Option.bind_some, if_pos, if_neg hplain, if_neg hplain]
  · exact hi
  · exact ⟨hhour, hminute, by omega, hoffset, hweekday⟩

end Fields

end Recrawl.Time
