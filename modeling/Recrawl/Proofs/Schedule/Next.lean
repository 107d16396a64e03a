import Recrawl.Proofs.Schedule.Interval

/-!
What one call of the schedule does. Only a fetch that can be compared with the visit
before changes metadata, and it writes no other keys than those of the interval, the
date of the last change, the signature of the visit before and the last modification.
-/

namespace Recrawl

/-- The keys that the schedule writes. -/
def Key.scheduled : List String :=
  [fetchInterval, signatureChangeDate, signatureOld, lastModified]

namespace Metadata

/-- Both signatures are there, or one is missing and the server said that nothing was modified. -/
def IsComparable (m : Metadata) : Prop :=
  (m.contains Key.signature ∧ m.contains Key.signatureOld) ∨
    (¬ (m.contains Key.signature ∧ m.contains Key.signatureOld) ∧
      m.first? Key.statusCode = some "304")

/-- Both signatures are there, and they are not the same. -/
def SignaturesDiffer (m : Metadata) : Prop :=
  ∃ signature old, m.first? Key.signature = some signature ∧
    m.first? Key.signatureOld = some old ∧ signature ≠ old

instance (m : Metadata) : Decidable m.IsComparable :=
  inferInstanceAs (Decidable (_ ∨ _))

end Metadata

namespace Comparison

theorem ofMetadata_of_both {m : Metadata} {signature old : String}
    (hsignature : m.first? Key.signature = some signature)
    (hold : m.first? Key.signatureOld = some old) :
    ofMetadata m = if signature = old then same else changed := by
  simp [ofMetadata, hsignature, hold]

theorem ofMetadata_of_missing {m : Metadata}
    (h : m.first? Key.signature = none ∨ m.first? Key.signatureOld = none) :
    ofMetadata m = if m.first? Key.statusCode = some "304" then notModified else unknown := by
  unfold ofMetadata
  rcases h with h | h
  · simp [h]
  · cases hsignature : m.first? Key.signature <;> simp [h]

theorem ofMetadata_eq_changed_iff (m : Metadata) :
    ofMetadata m = changed ↔ m.SignaturesDiffer := by
  unfold Metadata.SignaturesDiffer
  cases hsignature : m.first? Key.signature with
  | none =>
    rw [ofMetadata_of_missing (.inl hsignature)]
    split <;> simp
  | some signature =>
    cases hold : m.first? Key.signatureOld with
    | none =>
      rw [ofMetadata_of_missing (.inr hold)]
      split <;> simp
    | some old =>
      rw [ofMetadata_of_both hsignature hold]
      by_cases h : signature = old <;> simp [h]

instance (m : Metadata) : Decidable m.SignaturesDiffer :=
  decidable_of_iff (ofMetadata m = changed) (ofMetadata_eq_changed_iff m)

theorem ofMetadata_ne_unknown_iff (m : Metadata) :
    ofMetadata m ≠ unknown ↔ m.IsComparable := by
  unfold Metadata.IsComparable
  rw [Metadata.contains_eq_isSome, Metadata.contains_eq_isSome]
  cases hsignature : m.first? Key.signature with
  | none =>
    rw [ofMetadata_of_missing (.inl hsignature)]
    split <;> simp [*]
  | some signature =>
    cases hold : m.first? Key.signatureOld with
    | none =>
      rw [ofMetadata_of_missing (.inr hold)]
      split <;> simp [*]
    | some old =>
      rw [ofMetadata_of_both hsignature hold]
      by_cases h : signature = old <;> simp [h]

@[simp] theorem values_consume_of_ne (comparison : Comparison) (setsLastModified : Bool)
    (date : String) (m : Metadata) {key : String} (hold : key ≠ Key.signatureOld)
    (hmodified : key ≠ Key.lastModified) :
    (comparison.consume setsLastModified date m).values key = m.values key := by
  cases comparison with
  | same => simp [consume, hold]
  | changed => cases setsLastModified <;> simp [consume, hmodified]
  | notModified => rfl
  | unknown => rfl

theorem values_signatureOld_consume (comparison : Comparison) (setsLastModified : Bool)
    (date : String) (m : Metadata) :
    (comparison.consume setsLastModified date m).values Key.signatureOld =
      if comparison = same then [] else m.values Key.signatureOld := by
  cases comparison with
  | same => simp [consume]
  | changed =>
    have hne : Key.signatureOld ≠ Key.lastModified := by decide
    cases setsLastModified <;> simp [consume, hne]
  | notModified => rfl
  | unknown => rfl

theorem values_lastModified_consume (comparison : Comparison) (setsLastModified : Bool)
    (date : String) (m : Metadata) :
    (comparison.consume setsLastModified date m).values Key.lastModified =
      if setsLastModified = true ∧ comparison = changed then [date]
      else m.values Key.lastModified := by
  cases comparison with
  | same =>
    have hne : Key.lastModified ≠ Key.signatureOld := by decide
    simp [consume, hne]
  | changed => cases setsLastModified <;> simp [consume]
  | notModified => simp [consume]
  | unknown => simp [consume]

end Comparison

namespace ScheduleSettings

theorem values_fetchInterval_store (minutes : Int64) (changeDate : Option String)
    (m : Metadata) :
    (store minutes changeDate m).values Key.fetchInterval = [toString minutes.toInt] := by
  have hne : Key.fetchInterval ≠ Key.signatureChangeDate := by decide
  cases changeDate <;> simp [store, hne]

theorem values_changeDate_store (minutes : Int64) (date : String) (m : Metadata) :
    (store minutes (some date) m).values Key.signatureChangeDate = [date] := by
  simp [store]

theorem values_store_of_ne (minutes : Int64) (changeDate : Option String) (m : Metadata)
    {key : String} (hinterval : key ≠ Key.fetchInterval) (hdate : key ≠ Key.signatureChangeDate) :
    (store minutes changeDate m).values key = m.values key := by
  cases changeDate <;> simp [store, hinterval, hdate]

/-- The interval before a visit: what is stored or derived, brought into the bounds. -/
def previous (s : ScheduleSettings) (m : Metadata) (now : Time.Instant) : Int64 :=
  (IntervalBounds.ofSettings s).clamp (s.currentInterval m now).value

theorem toInt_previous (s : ScheduleSettings) (m : Metadata) (now : Time.Instant) :
    (s.previous m now).toInt =
      max (IntervalBounds.ofSettings s).low.toInt
        (min (s.currentInterval m now).value.toInt (IntervalBounds.ofSettings s).high.toInt) :=
  IntervalBounds.toInt_clamp _ (IntervalBounds.ordered_ofSettings s) _

/-- The interval after a visit that compared as given. -/
def following (s : ScheduleSettings) (comparison : Comparison) (m : Metadata)
    (now : Time.Instant) : Int64 :=
  comparison.adapt (IntervalBounds.ofSettings s) (s.previous m now)

theorem value_next_of_ne_fetched (s : ScheduleSettings) {status : Status}
    (h : status ≠ .fetched) (m : Metadata) (now : Time.Instant) :
    (s.next status m now).value = (m, s.baseline? status m now) := by
  cases status with
  | fetched => exact absurd rfl h
  | discovered => rfl
  | fetchError => rfl
  | redirection => rfl
  | error => rfl

/-- A fetch that cannot be compared leaves the metadata as it is and falls back to the baseline. -/
theorem value_next_of_unknown (s : ScheduleSettings) (m : Metadata) (now : Time.Instant)
    (h : Comparison.ofMetadata m = .unknown) :
    (s.next .fetched m now).value = (m, s.baseline? .fetched m now) := by
  simp [next, h]

theorem value_next_of_ne_unknown (s : ScheduleSettings) (m : Metadata) (now : Time.Instant)
    {comparison : Comparison} (h : Comparison.ofMetadata m = comparison)
    (hne : comparison ≠ .unknown) :
    (s.next .fetched m now).value = s.adapted comparison m now (s.previous m now) := by
  cases comparison with
  | unknown => exact absurd rfl hne
  | same => simp [next, h, previous]
  | changed => simp [next, h, previous]
  | notModified => simp [next, h, previous]

theorem values_fetchInterval_adapted (s : ScheduleSettings) (comparison : Comparison)
    (m : Metadata) (now : Time.Instant) :
    (s.adapted comparison m now (s.previous m now)).1.values Key.fetchInterval =
      [toString (s.following comparison m now).toInt] :=
  values_fetchInterval_store _ _ _

theorem snd_adapted (s : ScheduleSettings) (comparison : Comparison) (m : Metadata)
    (now : Time.Instant) :
    (s.adapted comparison m now (s.previous m now)).2 =
      now.afterMinutes? (s.following comparison m now) :=
  rfl

theorem values_signature_adapted (s : ScheduleSettings) (comparison : Comparison)
    (m : Metadata) (now : Time.Instant) (before : Int64) :
    (s.adapted comparison m now before).1.values Key.signature = m.values Key.signature := by
  unfold adapted
  rw [values_store_of_ne _ _ _ (by decide) (by decide),
    Comparison.values_consume_of_ne _ _ _ _ (by decide) (by decide)]

theorem values_signatureOld_adapted (s : ScheduleSettings) (comparison : Comparison)
    (m : Metadata) (now : Time.Instant) (before : Int64) :
    (s.adapted comparison m now before).1.values Key.signatureOld =
      if comparison = .same then [] else m.values Key.signatureOld := by
  unfold adapted
  rw [values_store_of_ne _ _ _ (by decide) (by decide), Comparison.values_signatureOld_consume]

/-- The date of the last change is a single value, and absent where none is known. -/
theorem values_changeDate_adapted (s : ScheduleSettings) (comparison : Comparison)
    (m : Metadata) (now : Time.Instant) (before : Int64) :
    (s.adapted comparison m now before).1.values Key.signatureChangeDate =
      (comparison.changeDate? now.toHttp (m.first? Key.signatureChangeDate)).toList := by
  simp only [adapted]
  cases hdate : comparison.changeDate? now.toHttp (m.first? Key.signatureChangeDate) with
  | some date => exact values_changeDate_store _ date _
  | none =>
    have hnone : m.first? Key.signatureChangeDate = none := by
      cases comparison with
      | same => cases hdate
      | changed => cases hdate
      | notModified => exact hdate
      | unknown => exact hdate
    have hne : Key.signatureChangeDate ≠ Key.fetchInterval := by decide
    rw [store, Metadata.values_set, if_neg hne,
      Comparison.values_consume_of_ne _ _ _ _ (by decide) (by decide)]
    exact (Metadata.first?_eq_none_iff _ _).mp hnone

theorem values_lastModified_adapted (s : ScheduleSettings) (comparison : Comparison)
    (m : Metadata) (now : Time.Instant) (before : Int64) :
    (s.adapted comparison m now before).1.values Key.lastModified =
      if s.setsLastModified = true ∧ comparison = .changed then [now.toHttp]
      else m.values Key.lastModified := by
  unfold adapted
  rw [values_store_of_ne _ _ _ (by decide) (by decide), Comparison.values_lastModified_consume]

/-- A call keeps the values of every key that is not one of the schedule. -/
theorem values_next (s : ScheduleSettings) (status : Status) (m : Metadata)
    (now : Time.Instant) {key : String} (h : key ∉ Key.scheduled) :
    (s.next status m now).value.1.values key = m.values key := by
  simp only [Key.scheduled, List.mem_cons, List.not_mem_nil, or_false, not_or] at h
  obtain ⟨hinterval, hdate, hold, hmodified⟩ := h
  by_cases hstatus : status = .fetched
  · subst hstatus
    by_cases hunknown : Comparison.ofMetadata m = .unknown
    · rw [s.value_next_of_unknown m now hunknown]
    · rw [s.value_next_of_ne_unknown m now rfl hunknown, adapted,
        values_store_of_ne _ _ _ hinterval hdate, Comparison.values_consume_of_ne _ _ _ _ hold
          hmodified]
  · rw [s.value_next_of_ne_fetched hstatus]

theorem previous_mem (s : ScheduleSettings) (m : Metadata) (now : Time.Instant) :
    (IntervalBounds.ofSettings s).low.toInt ≤ (s.previous m now).toInt ∧
      (s.previous m now).toInt ≤ (IntervalBounds.ofSettings s).high.toInt := by
  have horder := (IntervalBounds.ordered_ofSettings s).low_le_high
  rw [toInt_previous]
  omega

theorem toInt_following (s : ScheduleSettings) (comparison : Comparison) (m : Metadata)
    (now : Time.Instant) :
    (s.following comparison m now).toInt =
      comparison.target (IntervalBounds.ofSettings s).low.toInt
        (IntervalBounds.ofSettings s).high.toInt (s.previous m now).toInt :=
  comparison.toInt_adapt _ (IntervalBounds.ordered_ofSettings s) (s.previous_mem m now).1

theorem following_mem (s : ScheduleSettings) (comparison : Comparison) (m : Metadata)
    (now : Time.Instant) :
    (IntervalBounds.ofSettings s).low.toInt ≤ (s.following comparison m now).toInt ∧
      (s.following comparison m now).toInt ≤ (IntervalBounds.ofSettings s).high.toInt := by
  have hbefore := s.previous_mem m now
  rw [toInt_following]
  exact comparison.target_mem (IntervalBounds.ordered_ofSettings s).low_nonneg hbefore.1 hbefore.2

end ScheduleSettings

end Recrawl
