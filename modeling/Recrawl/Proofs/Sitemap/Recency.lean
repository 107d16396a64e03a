import Recrawl.Proofs.Time.Shift
import Recrawl.Sitemap.Recency

/-!
The window of recent entries. It begins a number of hours before the present, and an entry
is outside it exactly if it has a date in front of that instant; where there is no such
instant, or the number is negative, nothing is outside.
-/

namespace Recrawl

namespace Time.Instant

/-- `cutoff` is the instant exactly `hours` before `now`. What lies inside a leap second leaves it
as the second behind it. -/
def IsHoursBefore (now cutoff : Instant) (hours : Int) : Prop :=
  if now.inLeapSecond ∧ 0 < hours then
    cutoff.epochSecond = now.epochSecond + 1 - hours * 3600 ∧
      cutoff.nano = now.nano - nanosPerSecond
  else cutoff.epochSecond = now.epochSecond - hours * 3600 ∧ cutoff.nano = now.nano

/-- The clock finds that instant wherever there is one. -/
theorem addSeconds?_eq_some_iff (now cutoff : Instant) (hours : Int) (hhours : 0 ≤ hours) :
    now.addSeconds? (-(hours * 3600)) = some cutoff ↔ now.IsHoursBefore cutoff hours := by
  have hnano := now.nano_lt
  have hnow : now.epochSecond = now.day * secondsPerDay + now.second := rfl
  unfold addSeconds? IsHoursBefore
  rw [if_neg (show ¬ 0 < -(hours * 3600) by omega)]
  by_cases hleap : now.inLeapSecond = true
  · rw [if_pos hleap]
    by_cases hpos : 0 < hours
    · rw [if_pos (show -(hours * 3600) < 0 by omega), if_pos ⟨hleap, hpos⟩,
        moved?_eq_some_iff (by omega), hnow]
      have hspan : now.day * (secondsPerDay : Int) + (now.second + 1 + -(hours * 3600)) =
          now.day * secondsPerDay + now.second + 1 - hours * 3600 := by omega
      rw [hspan]
    · have hzero : hours = 0 := by omega
      subst hzero
      simp only [Int.zero_mul, Int.neg_zero, Int.lt_irrefl, if_false, and_false, Int.sub_zero,
        Option.some.injEq]
      constructor
      · rintro rfl
        exact ⟨rfl, rfl⟩
      · rintro ⟨hclock, hfraction⟩
        exact (eq_of_epochSecond_eq hclock hfraction).symm
  · rw [if_neg hleap, if_neg (fun hboth => hleap hboth.1), moved?_eq_some_iff hnano, hnow]
    have hspan : now.day * (secondsPerDay : Int) + (now.second + -(hours * 3600)) =
        now.day * secondsPerDay + now.second - hours * 3600 := by omega
    rw [hspan]

end Time.Instant

namespace Sitemap.Window

theorem contains_iff (window : Window) (date : Time.Instant) :
    window.contains date = true ↔ window.hours < 0 ∨
      ∀ cutoff, window.now.IsHoursBefore cutoff window.hours → cutoff.le date = true := by
  unfold contains cutoff?
  by_cases hneg : window.hours < 0
  · simp [hneg]
  · have hiff (cutoff : Time.Instant) :=
      window.now.addSeconds?_eq_some_iff cutoff window.hours (by omega)
    simp only [← hiff, hneg, false_or, if_false]
    cases window.now.addSeconds? (-(window.hours * 3600)) <;> simp

/-- A date that is given is recent if it is not before the beginning of the window. -/
theorem admits_iff (window : Window) (date : Option Time.Instant) :
    window.admits date = true ↔ window.hours < 0 ∨ date = none ∨
      ∃ d, date = some d ∧
        ∀ cutoff, window.now.IsHoursBefore cutoff window.hours → cutoff.le d = true := by
  cases date with
  | none => simp [admits]
  | some d => simp [admits, contains_iff]

/-- A window that refuses no date of an option admits it. -/
theorem filter_not_contains_eq_none_iff (window : Window) (date : Option Time.Instant) :
    (date.filter fun d => !window.contains d) = none ↔ window.admits date = true := by
  cases date with
  | none => simp [admits]
  | some d => simp [admits]

end Sitemap.Window

namespace Sitemap.Entry

/-- The date of the entry and all dates of its news are recent or not given. -/
def isRecent (entry : Entry) (window : Window) : Bool :=
  window.admits entry.modified && entry.news.all fun news => window.admits news.published

theorem staleness?_eq_none_iff (entry : Entry) (window : Window) :
    entry.staleness? window = none ↔ entry.isRecent window = true := by
  unfold staleness? isRecent
  rw [Bool.and_eq_true, ← Window.filter_not_contains_eq_none_iff]
  cases hmodified : entry.modified.filter fun date => !window.contains date with
  | some date => simp
  | none =>
    simp only [Option.map_eq_none_iff, List.find?_eq_none, List.mem_filterMap, true_and,
      List.all_eq_true]
    constructor
    · intro hnews news hmem
      cases hdate : news.published with
      | none => rfl
      | some date => simpa [Window.admits] using hnews date ⟨news, hmem, hdate⟩
    · rintro hnews date ⟨news, hmem, hdate⟩
      have hadmits := hnews news hmem
      rw [hdate] at hadmits
      simpa [Window.admits] using hadmits

end Sitemap.Entry

end Recrawl
