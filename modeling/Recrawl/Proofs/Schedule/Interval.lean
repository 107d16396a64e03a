import Recrawl.Schedule.Adaptive

/-!
The interval between two visits as an integer. The words in which it is computed hold
every intermediate result, so that shortening and lengthening are the plain arithmetic
of integers, and the result stays within the bounds.
-/

namespace Recrawl

namespace IntervalBounds

/-- The bounds have the order that the settings are brought into. -/
structure Ordered (b : IntervalBounds) : Prop where
  low_nonneg : 0 ≤ b.low.toInt
  low_le_high : b.low.toInt ≤ b.high.toInt

theorem toInt_max (x y : Int64) : (max x y).toInt = max x.toInt y.toInt := by
  have hmax : max x y = if x ≤ y then y else x := rfl
  rw [hmax]
  split
  · rename_i h
    rw [Int64.le_iff_toInt_le] at h
    omega
  · rename_i h
    rw [Int64.le_iff_toInt_le] at h
    omega

theorem toInt_min (x y : Int64) : (min x y).toInt = min x.toInt y.toInt := by
  have hmin : min x y = if x ≤ y then x else y := rfl
  rw [hmin]
  split
  · rename_i h
    rw [Int64.le_iff_toInt_le] at h
    omega
  · rename_i h
    rw [Int64.le_iff_toInt_le] at h
    omega

theorem toInt_low_ofSettings (s : ScheduleSettings) :
    (ofSettings s).low.toInt = max s.minInterval.toInt 0 := by
  simp [ofSettings, toInt_max]

theorem toInt_high_ofSettings (s : ScheduleSettings) :
    (ofSettings s).high.toInt = max s.maxInterval.toInt (max s.minInterval.toInt 0) := by
  simp [ofSettings, toInt_max]

theorem ordered_ofSettings (s : ScheduleSettings) : (ofSettings s).Ordered := by
  constructor
  · rw [toInt_low_ofSettings]
    omega
  · rw [toInt_low_ofSettings, toInt_high_ofSettings]
    omega

theorem toInt_clamp (b : IntervalBounds) (h : b.Ordered) (minutes : Int64) :
    (b.clamp minutes).toInt = max b.low.toInt (min minutes.toInt b.high.toInt) := by
  have horder := h.low_le_high
  unfold clamp
  simp only [Int64.lt_iff_toInt_lt]
  split
  · omega
  · split <;> omega

/-- A difference that is not negative does not wrap around. -/
theorem toInt_sub_of_nonneg {x y : Int64} (hy : 0 ≤ y.toInt) (h : y.toInt ≤ x.toInt) :
    (x - y).toInt = x.toInt - y.toInt := by
  have hx := x.toInt_lt
  rw [Int64.toInt_sub, Int.bmod_eq_of_le] <;> omega

theorem toInt_add_of_lt {x y : Int64} (hx : 0 ≤ x.toInt) (hy : 0 ≤ y.toInt)
    (h : x.toInt + y.toInt < 0x8000000000000000) : (x + y).toInt = x.toInt + y.toInt := by
  rw [Int64.toInt_add, Int.bmod_eq_of_le] <;> omega

theorem toInt_div_of_nonneg {x y : Int64} (hx : 0 ≤ x.toInt) (hy : 0 < y.toInt) :
    (x / y).toInt = x.toInt / y.toInt := by
  have hne : y ≠ -1 := by
    rintro rfl
    exact absurd hy (by decide)
  rw [Int64.toInt_div_of_ne_right x y hne, Int.tdiv_eq_ediv_of_nonneg hx]

/-- Every word on the way to the interval after a visit has the value that the same operation has
over the integers; a sum that would not has been told beforehand. -/
structure Exact (b : IntervalBounds) (minutes : Int64) : Prop where
  distance : (minutes - b.low).toInt = minutes.toInt - b.low.toInt
  half : ((minutes - b.low) / 2).toInt = (minutes.toInt - b.low.toInt) / 2
  shortened : (b.low + (minutes - b.low) / 2).toInt =
    b.low.toInt + (minutes.toInt - b.low.toInt) / 2
  tenth : (minutes / 10).toInt = minutes.toInt / 10
  room : (Int64.maxValue - minutes / 10).toInt = 0x8000000000000000 - 1 - minutes.toInt / 10
  lengthened : ¬ Int64.maxValue - minutes / 10 < minutes →
    (minutes + minutes / 10).toInt = minutes.toInt + minutes.toInt / 10

theorem toInt_tenth {minutes : Int64} (h : 0 ≤ minutes.toInt) :
    (minutes / 10).toInt = minutes.toInt / 10 := by
  have hten : (10 : Int64).toInt = 10 := rfl
  rw [toInt_div_of_nonneg h (by omega), hten]

theorem toInt_room {minutes : Int64} (h : 0 ≤ minutes.toInt) :
    (Int64.maxValue - minutes / 10).toInt = 0x8000000000000000 - 1 - minutes.toInt / 10 := by
  have htop := minutes.toInt_lt
  have htenth := toInt_tenth h
  have hmax : Int64.maxValue.toInt = 0x8000000000000000 - 1 := by decide
  rw [toInt_sub_of_nonneg (by omega) (by omega), htenth, hmax]

theorem exact_of_low_le (b : IntervalBounds) (h : b.Ordered) {minutes : Int64}
    (hlow : b.low.toInt ≤ minutes.toInt) : b.Exact minutes := by
  have hnonneg := h.low_nonneg
  have htop := minutes.toInt_lt
  have hminutes : 0 ≤ minutes.toInt := by omega
  have hdistance : (minutes - b.low).toInt = minutes.toInt - b.low.toInt :=
    toInt_sub_of_nonneg hnonneg hlow
  have htwo : (2 : Int64).toInt = 2 := rfl
  have hhalf : ((minutes - b.low) / 2).toInt = (minutes.toInt - b.low.toInt) / 2 := by
    rw [toInt_div_of_nonneg (by omega) (by omega), hdistance, htwo]
  have hshortened : (b.low + (minutes - b.low) / 2).toInt =
      b.low.toInt + (minutes.toInt - b.low.toInt) / 2 := by
    rw [toInt_add_of_lt hnonneg (by omega) (by omega), hhalf]
  refine ⟨hdistance, hhalf, hshortened, toInt_tenth hminutes, toInt_room hminutes, ?_⟩
  intro hfits
  have htenth := toInt_tenth hminutes
  rw [Int64.lt_iff_toInt_lt, toInt_room hminutes] at hfits
  rw [toInt_add_of_lt hminutes (by omega) (by omega), htenth]

theorem toInt_shorten (b : IntervalBounds) {minutes : Int64} (h : b.Exact minutes) :
    (b.shorten minutes).toInt = (minutes.toInt + b.low.toInt) / 2 := by
  unfold shorten
  rw [h.shortened]
  omega

theorem toInt_lengthen (b : IntervalBounds) {minutes : Int64} (h : b.Exact minutes) :
    (b.lengthen minutes).toInt = min (minutes.toInt + minutes.toInt / 10) b.high.toInt := by
  have hhigh := b.high.toInt_lt
  simp only [lengthen]
  split
  · rename_i hfull
    rw [Int64.lt_iff_toInt_lt, h.room] at hfull
    omega
  · rename_i hfits
    rw [toInt_min, h.lengthened hfits]

end IntervalBounds

namespace Comparison

/-- The interval after a visit over the unbounded integers: half the way to the lower bound if the
document changed, else a tenth more, up to the upper bound. -/
def target (low high before : Int) : Comparison → Int
  | changed => (before + low) / 2
  | _ => min (before + before / 10) high

theorem toInt_adapt (comparison : Comparison) (b : IntervalBounds) (h : b.Ordered)
    {minutes : Int64} (hlow : b.low.toInt ≤ minutes.toInt) :
    (comparison.adapt b minutes).toInt =
      comparison.target b.low.toInt b.high.toInt minutes.toInt := by
  have hexact := b.exact_of_low_le h hlow
  cases comparison with
  | changed => exact b.toInt_shorten hexact
  | same => exact b.toInt_lengthen hexact
  | notModified => exact b.toInt_lengthen hexact
  | unknown => exact b.toInt_lengthen hexact

theorem target_mem (comparison : Comparison) {low high before : Int} (hlow : 0 ≤ low)
    (hbefore : low ≤ before) (hhigh : before ≤ high) :
    low ≤ comparison.target low high before ∧ comparison.target low high before ≤ high := by
  cases comparison <;> simp only [target] <;> omega

/-- A change never makes the interval longer. -/
theorem target_changed_le {low high before : Int} (hbefore : low ≤ before) :
    changed.target low high before ≤ before := by
  simp only [target]
  omega

/-- Without a change the interval never gets shorter. -/
theorem le_target_of_ne_changed {comparison : Comparison} (h : comparison ≠ changed)
    {low high before : Int} (hnonneg : 0 ≤ before) (hhigh : before ≤ high) :
    before ≤ comparison.target low high before := by
  cases comparison with
  | changed => exact absurd rfl h
  | same => simp only [target]; omega
  | notModified => simp only [target]; omega
  | unknown => simp only [target]; omega

end Comparison

end Recrawl
