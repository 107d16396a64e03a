import Recrawl.Proofs.Text.Integer
import Recrawl.Proofs.Time.Shift
import Recrawl.Schedule.Adaptive

/-!
The interval that a visit starts from. It is the one that the metadata tell if they tell one, or
else the time to the date of the baseline, or else the default.
-/

namespace Recrawl

/-- The first value of the interval spells this number of minutes, and a word holds it. -/
def Metadata.TellsInterval (m : Metadata) (minutes : Int) : Prop :=
  ∃ text, (m.values Key.fetchInterval).head? = some text ∧
    Text.Spells (Text.trimChars text.toList) minutes ∧
    -0x8000000000000000 ≤ minutes ∧ minutes < 0x8000000000000000

namespace ScheduleSettings

/-- A visit starts from this interval. The minutes to a date count whole minutes that pass, and from
inside a leap second the count may be one short. -/
inductive StartsFrom (s : ScheduleSettings) (m : Metadata) (now : Time.Instant) : Int → Prop
  | told {minutes : Int} (htold : m.TellsInterval minutes) : StartsFrom s m now minutes
  | baseline {due : Time.Instant} {minutes : Int} (huntold : ∀ other, ¬ m.TellsInterval other)
      (hdue : s.baseline? .fetched m now = some due) (hminutes : minutes = now.minutesFrom due)
      (hpassed : now.IsMinutesAfter due minutes ∨
        now.inLeapSecond = true ∧ now.IsMinutesAfter due (minutes + 1)) :
      StartsFrom s m now minutes
  | default (huntold : ∀ other, ¬ m.TellsInterval other)
      (hnever : s.baseline? .fetched m now = none) :
      StartsFrom s m now s.defaultInterval.toInt

theorem tellsInterval_iff {m : Metadata} {minutes : Int} :
    m.TellsInterval minutes ↔ ∃ text word, m.first? Key.fetchInterval = some text ∧
      readMinutes text = .ok word ∧ word.toInt = minutes := by
  unfold Metadata.TellsInterval Metadata.first?
  constructor
  · rintro ⟨text, hfirst, hspells, hlow, hhigh⟩
    have hword : (Int64.ofInt minutes).toInt = minutes := Int64.toInt_ofInt_of_le hlow hhigh
    refine ⟨text, Int64.ofInt minutes, hfirst, ?_, hword⟩
    rwa [readMinutes_eq_ok_iff, hword]
  · rintro ⟨text, word, hfirst, hread, rfl⟩
    have hlow := word.le_toInt
    have hhigh := word.toInt_lt
    exact ⟨text, hfirst, readMinutes_eq_ok_iff.mp hread, by omega, by omega⟩

variable {s : ScheduleSettings} {m : Metadata} {now : Time.Instant}

theorem value_currentInterval_of_ok {stored : String} {minutes : Int64}
    (hfirst : m.first? Key.fetchInterval = some stored)
    (hread : readMinutes stored = .ok minutes) :
    (s.currentInterval m now).value = minutes := by
  simp only [currentInterval, hfirst, hread, Logged.value_pure]

theorem value_currentInterval_of_untold (huntold : ∀ other, ¬ m.TellsInterval other) :
    (s.currentInterval m now).value = currentInterval.bootstrap s m now := by
  unfold currentInterval
  cases hfirst : m.first? Key.fetchInterval with
  | none => rfl
  | some stored =>
    cases hread : readMinutes stored with
    | ok minutes =>
      exact absurd (tellsInterval_iff.mpr ⟨stored, minutes, hfirst, hread, rfl⟩) (huntold _)
    | error fault => simp only [hread, Logged.value_bind, Logged.value_pure]

/-- The minutes to a date of the baseline are those that led to it, as far as they are counted. -/
theorem bootstrap_of_baseline? {due : Time.Instant} (hdue : s.baseline? .fetched m now = some due) :
    (currentInterval.bootstrap s m now).toInt = now.minutesFrom due ∧
      (now.IsMinutesAfter due (now.minutesFrom due) ∨
        now.inLeapSecond = true ∧ now.IsMinutesAfter due (now.minutesFrom due + 1)) := by
  have hnever : ¬ s.interval .fetched m < 0 := by
    intro hnegative
    simp [baseline?, Time.Instant.afterMinutes?, hnegative] at hdue
  have hnonneg : 0 ≤ (s.interval .fetched m).toInt := by
    simpa [Int64.lt_iff_toInt_lt] using hnever
  have htop := (s.interval .fetched m).toInt_lt
  have hafter := Time.Instant.isMinutesAfter_of_afterMinutes? hdue
  have hminutes := Time.Instant.minutesFrom_of_isMinutesAfter hafter hnonneg
  constructor
  · simp only [currentInterval.bootstrap, hdue]
    exact Int64.toInt_ofInt_of_le (by omega) (by omega)
  · rcases hminutes with hminutes | ⟨hleap, -, hminutes⟩
    · left
      rwa [hminutes]
    · right
      rw [hminutes, Int.sub_add_cancel]
      exact ⟨hleap, hafter⟩

/-- The schedule goes on from the interval that a visit starts from, and there is no other. -/
theorem startsFrom_iff {minutes : Int} :
    s.StartsFrom m now minutes ↔ minutes = (s.currentInterval m now).value.toInt := by
  constructor
  · intro h
    cases h with
    | told htold =>
      obtain ⟨stored, word, hfirst, hread, rfl⟩ := tellsInterval_iff.mp htold
      rw [value_currentInterval_of_ok hfirst hread]
    | baseline huntold hdue hminutes =>
      rw [value_currentInterval_of_untold huntold, (bootstrap_of_baseline? hdue).1, hminutes]
    | default huntold hnever =>
      rw [value_currentInterval_of_untold huntold, currentInterval.bootstrap, hnever]
  · rintro rfl
    by_cases htold : ∃ minutes, m.TellsInterval minutes
    · obtain ⟨minutes, htells⟩ := htold
      obtain ⟨stored, word, hfirst, hread, rfl⟩ := tellsInterval_iff.mp htells
      rw [value_currentInterval_of_ok hfirst hread]
      exact .told htells
    · have huntold : ∀ other, ¬ m.TellsInterval other := fun other h => htold ⟨other, h⟩
      rw [value_currentInterval_of_untold huntold]
      cases hdue : s.baseline? .fetched m now with
      | some due =>
        obtain ⟨hword, hpassed⟩ := bootstrap_of_baseline? hdue
        rw [hword]
        exact .baseline huntold hdue rfl hpassed
      | none =>
        rw [currentInterval.bootstrap, hdue]
        exact .default huntold hdue

end ScheduleSettings

end Recrawl
