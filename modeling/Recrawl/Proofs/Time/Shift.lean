import Recrawl.Schedule.Baseline

/-!
Moving an instant forward. The clock of the result is that of the start plus the span,
and there is no result exactly when its day lies outside the representable ones.
-/

namespace Recrawl.Time

/-- A reading of the clock, in seconds from 1970-01-01, on a representable day. -/
def Representable (clock : Int) : Prop :=
  minDay ≤ clock / secondsPerDay ∧ clock / secondsPerDay ≤ maxDay

instance (clock : Int) : Decidable (Representable clock) :=
  inferInstanceAs (Decidable (_ ∧ _))

namespace Instant

/-- The clock of an instant: whole seconds from 1970-01-01 without leap seconds. -/
def epochSecond (i : Instant) : Int :=
  i.day * secondsPerDay + i.second

theorem epochSecond_div (i : Instant) : i.epochSecond / secondsPerDay = i.day := by
  have hsecond := i.second_lt
  simp only [epochSecond, secondsPerDay] at hsecond ⊢
  omega

theorem representable_epochSecond (i : Instant) : Representable i.epochSecond := by
  rw [Representable, epochSecond_div]
  exact i.day_mem

theorem moved?_eq_none_iff {day second : Int} {nano : Nat} (hnano : nano < 2 * nanosPerSecond) :
    moved? day second nano = none ↔ ¬ Representable (day * secondsPerDay + second) := by
  have hday : (day * secondsPerDay + second) / secondsPerDay = day + second / secondsPerDay := by
    simp only [secondsPerDay]
    omega
  have hsecond : (second % secondsPerDay).toNat < secondsPerDay := by
    simp only [secondsPerDay]
    omega
  unfold moved? of? Representable
  rw [hday]
  split
  · rename_i h
    simp [h.1]
  · rename_i h
    simp only [true_iff]
    intro hmem
    exact h ⟨hmem, hsecond, hnano⟩

theorem epochSecond_of_moved? {day second : Int} {nano : Nat} {moved : Instant}
    (h : moved? day second nano = some moved) :
    moved.epochSecond = day * secondsPerDay + second ∧ moved.nano = nano := by
  unfold moved? of? at h
  split at h
  · cases h
    constructor
    · simp only [epochSecond, secondsPerDay]
      omega
    · rfl
  · cases h

/-- Instants are told apart by their clocks and fractions. -/
theorem eq_of_epochSecond_eq {a b : Instant} (hclock : a.epochSecond = b.epochSecond)
    (hnano : a.nano = b.nano) : a = b := by
  have ha := a.second_lt
  have hb := b.second_lt
  simp only [epochSecond, secondsPerDay] at ha hb hclock
  have hday : a.day = b.day := by omega
  have hsecond : a.second = b.second := by omega
  cases a
  cases b
  simp_all

theorem moved?_eq_some_iff {day second : Int} {nano : Nat} (hnano : nano < 2 * nanosPerSecond)
    (moved : Instant) :
    moved? day second nano = some moved ↔
      moved.epochSecond = day * secondsPerDay + second ∧ moved.nano = nano := by
  refine ⟨epochSecond_of_moved?, ?_⟩
  rintro ⟨hclock, hfraction⟩
  cases hfound : moved? day second nano with
  | some found =>
    obtain ⟨hother, hsame⟩ := epochSecond_of_moved? hfound
    rw [eq_of_epochSecond_eq (hother.trans hclock.symm) (hsame.trans hfraction.symm)]
  | none =>
    rw [moved?_eq_none_iff hnano, ← hclock] at hfound
    exact absurd moved.representable_epochSecond hfound

/-- What lies inside a leap second leaves it when it moves, and keeps its fraction. -/
def nanoAfter (i : Instant) (span : Int) : Nat :=
  if i.inLeapSecond ∧ 0 < span then i.nano - nanosPerSecond else i.nano

theorem addSeconds?_eq_none_iff (i : Instant) {span : Int} (hspan : 0 ≤ span) :
    i.addSeconds? span = none ↔ ¬ Representable (i.epochSecond + span) := by
  have hnano := i.nano_lt
  have hclock : i.epochSecond + span = i.day * secondsPerDay + (i.second + span) := by
    simp only [epochSecond]
    omega
  unfold addSeconds?
  split
  · split
    · rw [moved?_eq_none_iff (by omega), hclock]
    · have hzero : span = 0 := by omega
      subst hzero
      simp [i.representable_epochSecond]
  · rw [moved?_eq_none_iff hnano, hclock]

theorem epochSecond_of_addSeconds? {i later : Instant} {span : Int} (hspan : 0 ≤ span)
    (h : i.addSeconds? span = some later) :
    later.epochSecond = i.epochSecond + span ∧ later.nano = i.nanoAfter span := by
  unfold addSeconds? at h
  unfold nanoAfter
  split at h
  · rename_i hleap
    split at h
    · rename_i hpos
      obtain ⟨hclock, hnano⟩ := epochSecond_of_moved? h
      rw [if_pos ⟨hleap, hpos⟩]
      refine ⟨?_, hnano⟩
      rw [hclock, epochSecond]
      omega
    · rename_i hpos
      have hzero : span = 0 := by omega
      subst hzero
      cases h
      simp
  · rename_i hleap
    obtain ⟨hclock, hnano⟩ := epochSecond_of_moved? h
    rw [if_neg (fun hboth => hleap hboth.1)]
    refine ⟨?_, hnano⟩
    rw [hclock, epochSecond]
    omega

/-- `later` is the instant exactly `minutes` after `now`. -/
def IsMinutesAfter (now later : Instant) (minutes : Int) : Prop :=
  later.epochSecond = now.epochSecond + minutes * 60 ∧ later.nano = now.nanoAfter (minutes * 60)

theorem isMinutesAfter_of_afterMinutes? {now later : Instant} {minutes : Int64}
    (h : now.afterMinutes? minutes = some later) : now.IsMinutesAfter later minutes.toInt := by
  unfold afterMinutes? at h
  split at h
  · cases h
  · rename_i hneg
    rw [Int64.lt_iff_toInt_lt] at hneg
    exact epochSecond_of_addSeconds? (by simp at hneg; omega) h

theorem afterMinutes?_eq_none_iff (now : Instant) {minutes : Int64} (h : 0 ≤ minutes.toInt) :
    now.afterMinutes? minutes = none ↔ ¬ Representable (now.epochSecond + minutes.toInt * 60) := by
  have hneg : ¬ minutes < 0 := by
    rw [Int64.lt_iff_toInt_lt]
    simpa using h
  unfold afterMinutes?
  rw [if_neg hneg, addSeconds?_eq_none_iff now (by omega)]

/-- Minutes that have passed are counted again. From inside a leap second the count may be one
short. -/
theorem minutesFrom_of_isMinutesAfter {now later : Instant} {minutes : Int}
    (h : now.IsMinutesAfter later minutes) (hnonneg : 0 ≤ minutes) :
    now.minutesFrom later = minutes ∨
      (now.inLeapSecond = true ∧ 0 < minutes ∧ now.minutesFrom later = minutes - 1) := by
  obtain ⟨hclock, hnano⟩ := h
  have hseconds : (later.day - now.day) * (secondsPerDay : Int) +
      ((later.second : Int) - now.second) = minutes * 60 := by
    simp only [epochSecond, secondsPerDay] at hclock ⊢
    omega
  by_cases hleap : now.inLeapSecond = true ∧ 0 < minutes * 60
  · rw [nanoAfter, if_pos hleap] at hnano
    obtain ⟨hnow, hpos⟩ := hleap
    have hbound := now.nano_lt
    have hfull : nanosPerSecond ≤ now.nano := by simpa [inLeapSecond] using hnow
    have hlater : later.inLeapSecond = false := by
      simp only [inLeapSecond, decide_eq_false_iff_not]
      omega
    have hnanos : (later.nano : Int) - now.nano = -nanosPerSecond := by omega
    -- The second that is left is made up for only where the clock of the day goes forward.
    have hminutes : now.minutesFrom later =
        (minutes * 60 + (if now.second < later.second then 1 else 0) + -1).tdiv 60 := by
      unfold minutesFrom
      rw [hseconds, hnanos, hnow, hlater]
      simp [nanosPerSecond]
    rw [hminutes, Int.tdiv_eq_ediv_of_nonneg (by split <;> omega)]
    split
    · left
      omega
    · right
      exact ⟨hnow, by omega, by omega⟩
  · left
    have hsame : later.nano = now.nano := by rw [hnano, nanoAfter, if_neg hleap]
    rcases Int.lt_or_eq_of_le hnonneg with hpos | rfl
    · have hnow : now.inLeapSecond = false := by
        rw [Bool.eq_false_iff]
        intro hin
        exact hleap ⟨hin, by omega⟩
      have hlater : later.inLeapSecond = false := by
        rw [← hnow, inLeapSecond, inLeapSecond, hsame]
      unfold minutesFrom
      rw [hseconds, hsame, hnow, hlater]
      simp
    · obtain rfl : later = now := eq_of_epochSecond_eq (by simpa using hclock) hsame
      simp [minutesFrom]
end Instant

end Recrawl.Time
