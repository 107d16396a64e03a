import Recrawl.Proofs.Schedule.Current
import Recrawl.Proofs.Schedule.Next

/-!
Runs of the schedule. Between two calls anyone may edit the metadata. Once a call has
written an interval, the interval stays readable and within the bounds for as long as
the edits leave its key alone.
-/

namespace Recrawl

namespace ScheduleSettings

/-- What happens to the metadata of an item: a call of the schedule, or an edit of one key. -/
inductive Turn
  | call (status : Status) (now : Time.Instant)
  | edit (key : String) (values : List String)

namespace Turn

/-- The metadata after a turn. -/
def apply (s : ScheduleSettings) (m : Metadata) : Turn → Metadata
  | call status now => (s.next status m now).value.1
  | edit key values => m.setAll key values

/-- An edit leaves a key alone. -/
def Spares (key : String) : Turn → Prop
  | call _ _ => True
  | edit edited _ => edited ≠ key

end Turn

/-- The metadata after turns in order. -/
def run (s : ScheduleSettings) (m : Metadata) (turns : List Turn) : Metadata :=
  turns.foldl (Turn.apply s) m

/-- The stored interval is one number, and it lies within the bounds. -/
def IntervalWithin (s : ScheduleSettings) (m : Metadata) : Prop :=
  ∃ minutes : Int64, m.values Key.fetchInterval = [toString minutes.toInt] ∧
    (IntervalBounds.ofSettings s).low.toInt ≤ minutes.toInt ∧
    minutes.toInt ≤ (IntervalBounds.ofSettings s).high.toInt

theorem intervalWithin_adapted (s : ScheduleSettings) (comparison : Comparison) (m : Metadata)
    (now : Time.Instant) :
    s.IntervalWithin (s.adapted comparison m now (s.previous m now)).1 :=
  ⟨s.following comparison m now, s.values_fetchInterval_adapted comparison m now,
    s.following_mem comparison m now⟩

/-- A call either keeps the metadata or writes an interval within the bounds. -/
theorem intervalWithin_call (s : ScheduleSettings) (status : Status) (m : Metadata)
    (now : Time.Instant) (h : s.IntervalWithin m) :
    s.IntervalWithin (s.next status m now).value.1 := by
  by_cases hstatus : status = .fetched
  · subst hstatus
    by_cases hunknown : Comparison.ofMetadata m = .unknown
    · rw [s.value_next_of_unknown m now hunknown]
      exact h
    · rw [s.value_next_of_ne_unknown m now rfl hunknown]
      exact s.intervalWithin_adapted _ m now
  · rw [s.value_next_of_ne_fetched hstatus]
    exact h

theorem intervalWithin_apply (s : ScheduleSettings) (m : Metadata) (turn : Turn)
    (hspares : turn.Spares Key.fetchInterval) (h : s.IntervalWithin m) :
    s.IntervalWithin (turn.apply s m) := by
  cases turn with
  | call status now => exact s.intervalWithin_call status m now h
  | edit key values =>
    obtain ⟨minutes, hvalues, hmem⟩ := h
    have hne : Key.fetchInterval ≠ key := fun e => hspares e.symm
    refine ⟨minutes, ?_, hmem⟩
    rw [Turn.apply, Metadata.values_setAll, if_neg hne, hvalues]

theorem intervalWithin_run (s : ScheduleSettings) (m : Metadata) (turns : List Turn)
    (hspares : ∀ turn ∈ turns, turn.Spares Key.fetchInterval) (h : s.IntervalWithin m) :
    s.IntervalWithin (s.run m turns) := by
  induction turns generalizing m with
  | nil => exact h
  | cons turn rest ih =>
    have hstep := s.intervalWithin_apply m turn (hspares turn (by simp)) h
    exact ih (turn.apply s m) (fun t ht => hspares t (by simp [ht])) hstep

/-- A fetch that can be compared with the visit before starts from one interval, brought within the
bounds, and writes the one that integer arithmetic gives, with no word wrapping around on the way.
It is due exactly that many minutes later. From then on the stored interval can be read and lies
within the bounds, whatever else happens. -/
theorem next_interval_of_isComparable (s : ScheduleSettings) (m : Metadata) (now : Time.Instant)
    (h : m.IsComparable) :
    let low := max s.minInterval.toInt 0
    let high := max s.maxInterval.toInt low
    let result := (s.next .fetched m now).value
    ∃ current : Int, (∀ minutes, s.StartsFrom m now minutes ↔ minutes = current) ∧
      let before := max low (min current high)
      (s.previous m now).toInt = before ∧
      (IntervalBounds.ofSettings s).Exact (s.previous m now) ∧ ∃ after : Int64,
      result.1.values Key.fetchInterval = [toString after.toInt] ∧
      (m.SignaturesDiffer → after.toInt = (before + low) / 2 ∧ after.toInt ≤ before) ∧
      (¬ m.SignaturesDiffer →
        after.toInt = min (before + before / 10) high ∧ before ≤ after.toInt) ∧
      (result.2 = none ↔ ¬ Time.Representable (now.epochSecond + after.toInt * 60)) ∧
      (∀ due, result.2 = some due → now.IsMinutesAfter due after.toInt) ∧
      ∀ turns : List Turn, (∀ turn ∈ turns, turn.Spares Key.fetchInterval) →
        ∃ text minutes, (s.run result.1 turns).values Key.fetchInterval = [text] ∧
          readMinutes text = .ok minutes ∧ low ≤ minutes.toInt ∧ minutes.toInt ≤ high := by
  intro low high result
  refine ⟨(s.currentInterval m now).value.toInt, fun minutes => startsFrom_iff, ?_⟩
  intro before
  have hlow : (IntervalBounds.ofSettings s).low.toInt = low :=
    IntervalBounds.toInt_low_ofSettings s
  have hhigh : (IntervalBounds.ofSettings s).high.toInt = high :=
    IntervalBounds.toInt_high_ofSettings s
  have hbefore : (s.previous m now).toInt = before := by
    rw [toInt_previous, hlow, hhigh]
  have hmem : low ≤ before ∧ before ≤ high := by
    have := s.previous_mem m now
    rwa [hlow, hhigh, hbefore] at this
  have hnonneg : 0 ≤ low := by omega
  generalize hcomparison : Comparison.ofMetadata m = comparison
  have hdiffer : m.SignaturesDiffer ↔ comparison = .changed := by
    rw [← Comparison.ofMetadata_eq_changed_iff, hcomparison]
  have hunknown : comparison ≠ .unknown := by
    rw [← hcomparison]
    exact (Comparison.ofMetadata_ne_unknown_iff m).mpr h
  have hresult : result = s.adapted comparison m now (s.previous m now) :=
    s.value_next_of_ne_unknown m now hcomparison hunknown
  have hafter := s.toInt_following comparison m now
  rw [hlow, hhigh, hbefore] at hafter
  have hafterNonneg : 0 ≤ (s.following comparison m now).toInt := by
    have := (s.following_mem comparison m now).1
    omega
  rw [hresult]
  refine ⟨hbefore, IntervalBounds.exact_of_low_le _ (IntervalBounds.ordered_ofSettings s)
    (s.previous_mem m now).1, s.following comparison m now,
    s.values_fetchInterval_adapted comparison m now, ?_, ?_, ?_, ?_, ?_⟩
  · intro hchanged
    obtain rfl := hdiffer.mp hchanged
    rw [hafter]
    exact ⟨rfl, Comparison.target_changed_le hmem.1⟩
  · intro hsame
    have hne : comparison ≠ .changed := fun e => hsame (hdiffer.mpr e)
    rw [hafter]
    refine ⟨?_, Comparison.le_target_of_ne_changed hne (by omega) hmem.2⟩
    cases comparison with
    | changed => exact absurd rfl hne
    | same => rfl
    | notModified => rfl
    | unknown => rfl
  · rw [snd_adapted]
    exact now.afterMinutes?_eq_none_iff hafterNonneg
  · intro due hdue
    rw [snd_adapted] at hdue
    exact Time.Instant.isMinutesAfter_of_afterMinutes? hdue
  · intro turns hspares
    obtain ⟨minutes, hvalues, hwithin⟩ :=
      s.intervalWithin_run _ turns hspares (s.intervalWithin_adapted comparison m now)
    rw [hlow, hhigh] at hwithin
    exact ⟨_, minutes, hvalues, readMinutes_toString minutes, hwithin⟩

/-- The first instant of 1970. -/
def epoch : Time.Instant := ⟨0, 0, 0, by decide, by decide, by decide⟩

/-- From an interval next to the greatest word the sum saturates, and there is no date so far away.
A stored interval may have a sign and blanks around it; one that is no number gives way to the rule
for feeds. -/
theorem next_interval_from_each_start :
    let s : ScheduleSettings :=
      { maxInterval := Int64.maxValue, custom := [⟨Key.isFeed, "true", 90, none⟩] }
    let same := [(Key.signature, "a"), (Key.signatureOld, "a")]
    let greatest := Metadata.ofPairs ((Key.fetchInterval, "9223372036854775797") :: same)
    let daily := Metadata.ofPairs
      [(Key.fetchInterval, " +1440 "), (Key.signature, "b"), (Key.signatureOld, "a")]
    let feed := Metadata.ofPairs ((Key.fetchInterval, "soon") :: (Key.isFeed, "true") :: same)
    let interval (m : Metadata) := (s.next .fetched m epoch).value.1.values Key.fetchInterval
    let due (m : Metadata) := (s.next .fetched m epoch).value.2
    greatest.IsComparable ∧ daily.IsComparable ∧ feed.IsComparable ∧
      interval greatest = ["9223372036854775807"] ∧ due greatest = none ∧
      s.StartsFrom daily epoch 1440 ∧ interval daily = ["750"] ∧
      due daily = some ⟨0, 45000, 0, by decide, by decide, by decide⟩ ∧
      s.StartsFrom feed epoch 90 ∧ interval feed = ["99"] := by
  intro s same greatest daily feed interval due
  have hgreatest : greatest.IsComparable := by decide
  have hdaily : daily.IsComparable := by decide
  have hfeed : feed.IsComparable := by decide
  have hnumber : s.StartsFrom greatest epoch 9223372036854775797 := by
    rw [startsFrom_iff]
    decide +kernel
  have hday : s.StartsFrom daily epoch 1440 := by
    rw [startsFrom_iff]
    decide +kernel
  have hrule : s.StartsFrom feed epoch 90 := by
    rw [startsFrom_iff]
    decide +kernel
  obtain ⟨_, hstart, -, -, most, hmost, -, hkept, hnone, -⟩ :=
    next_interval_of_isComparable s greatest epoch hgreatest
  obtain rfl := (hstart _).mp hnumber
  have hmostMinutes : most.toInt = 9223372036854775807 := by
    rw [(hkept (by decide)).1]
    decide
  obtain ⟨_, hstart, -, -, half, hhalf, hchanged, -, hhalfNone, hhalfDue, -⟩ :=
    next_interval_of_isComparable s daily epoch hdaily
  obtain rfl := (hstart _).mp hday
  have hhalfMinutes : half.toInt = 750 := by
    rw [(hchanged (by decide)).1]
    decide
  obtain ⟨_, hstart, -, -, longer, hlonger, -, hkept, -⟩ :=
    next_interval_of_isComparable s feed epoch hfeed
  obtain rfl := (hstart _).mp hrule
  have hlongerMinutes : longer.toInt = 99 := by
    rw [(hkept (by decide)).1]
    decide
  refine ⟨hgreatest, hdaily, hfeed, ?_, ?_, hday, ?_, ?_, hrule, ?_⟩
  · exact hmost.trans (by rw [hmostMinutes]; rfl)
  · exact hnone.mpr (by rw [hmostMinutes]; decide)
  · exact hhalf.trans (by rw [hhalfMinutes]; rfl)
  · cases hfound : due daily with
    | none =>
      have hout := hhalfNone.mp hfound
      rw [hhalfMinutes] at hout
      exact absurd (by decide) hout
    | some found =>
      obtain ⟨hclock, hnano⟩ := hhalfDue found hfound
      rw [hhalfMinutes] at hclock hnano
      exact congrArg some (Time.Instant.eq_of_epochSecond_eq hclock hnano)
  · exact hlonger.trans (by rw [hlongerMinutes]; rfl)

end ScheduleSettings

end Recrawl
