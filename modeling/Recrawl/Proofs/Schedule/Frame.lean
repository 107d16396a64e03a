import Recrawl.Proofs.Metadata.Entries
import Recrawl.Proofs.Schedule.Next

/-!
What the schedule leaves alone. Where it falls back to the baseline, it answers as the baseline does
and touches nothing; elsewhere the entries at other keys than its own stay as they are, in their
order.
-/

namespace Recrawl

namespace Comparison

theorem rest_consume (comparison : Comparison) (setsLastModified : Bool) (date : String)
    (m : Metadata) :
    (comparison.consume setsLastModified date m).rest Key.scheduled = m.rest Key.scheduled := by
  cases comparison with
  | same => exact m.rest_erase (by decide)
  | changed =>
    cases setsLastModified with
    | true => exact m.rest_set (by decide) date
    | false => rfl
  | notModified => rfl
  | unknown => rfl

end Comparison

namespace ScheduleSettings

theorem rest_store (minutes : Int64) (changeDate : Option String) (m : Metadata) :
    (store minutes changeDate m).rest Key.scheduled = m.rest Key.scheduled := by
  have hinterval : (m.set Key.fetchInterval (toString minutes.toInt)).rest Key.scheduled =
      m.rest Key.scheduled :=
    m.rest_set (by decide) _
  cases changeDate with
  | none => exact hinterval
  | some date => exact (Metadata.rest_set _ (by decide) date).trans hinterval

theorem rest_adapted (s : ScheduleSettings) (comparison : Comparison) (m : Metadata)
    (now : Time.Instant) (before : Int64) :
    (s.adapted comparison m now before).1.rest Key.scheduled = m.rest Key.scheduled := by
  rw [adapted, rest_store, Comparison.rest_consume]

/-- The status is not that of a fetch, or a signature is missing and the server did not say that
nothing was modified. -/
def FallsBack (status : Status) (m : Metadata) : Prop :=
  status ≠ .fetched ∨
    ((m.first? Key.signature = none ∨ m.first? Key.signatureOld = none) ∧
      m.first? Key.statusCode ≠ some "304")

theorem ofMetadata_eq_unknown_iff (m : Metadata) :
    Comparison.ofMetadata m = .unknown ↔
      (m.first? Key.signature = none ∨ m.first? Key.signatureOld = none) ∧
        m.first? Key.statusCode ≠ some "304" := by
  by_cases hmissing : m.first? Key.signature = none ∨ m.first? Key.signatureOld = none
  · rw [Comparison.ofMetadata_of_missing hmissing]
    by_cases hcode : m.first? Key.statusCode = some "304" <;> simp [hcode, hmissing]
  · have hboth := hmissing
    simp only [not_or, Option.ne_none_iff_exists'] at hboth
    obtain ⟨⟨signature, hsignature⟩, old, hold⟩ := hboth
    rw [Comparison.ofMetadata_of_both hsignature hold]
    by_cases hsame : signature = old <;> simp [hsame, hmissing]

theorem value_next_of_fallsBack (s : ScheduleSettings) {status : Status} {m : Metadata}
    (h : FallsBack status m) (now : Time.Instant) :
    (s.next status m now).value = (m, s.baseline? status m now) := by
  by_cases hstatus : status = .fetched
  · subst hstatus
    have hmissing := h.resolve_left (by simp)
    exact s.value_next_of_unknown m now ((ofMetadata_eq_unknown_iff m).mpr hmissing)
  · exact s.value_next_of_ne_fetched hstatus m now

theorem value_next_of_not_fallsBack (s : ScheduleSettings) {status : Status} {m : Metadata}
    (h : ¬ FallsBack status m) (now : Time.Instant) :
    (s.next status m now).value =
      s.adapted (Comparison.ofMetadata m) m now (s.previous m now) := by
  simp only [FallsBack, not_or, ne_eq, Decidable.not_not] at h
  obtain ⟨rfl, hfound⟩ := h
  have hknown : Comparison.ofMetadata m ≠ .unknown :=
    fun e => hfound ((ofMetadata_eq_unknown_iff m).mp e)
  exact s.value_next_of_ne_unknown m now rfl hknown

/-- Where the schedule falls back, the metadata stays as it is and the item is due when the baseline
says. Elsewhere the keys that it does not write keep their values and their order; the signature is
not among those it writes, and the one of the visit before is at most taken away. -/
theorem next_frame (s : ScheduleSettings) (status : Status) (m : Metadata) (now : Time.Instant) :
    let result := (s.next status m now).value
    (FallsBack status m → result = (m, s.baseline? status m now)) ∧
      (¬ FallsBack status m →
        result.1.rest Key.scheduled = m.rest Key.scheduled ∧
        (∀ key, key ∉ Key.scheduled → result.1.values key = m.values key) ∧
        result.1.values Key.signature = m.values Key.signature ∧
        (result.1.values Key.signatureOld = m.values Key.signatureOld ∨
          result.1.values Key.signatureOld = [])) := by
  intro result
  refine ⟨fun h => s.value_next_of_fallsBack h now, ?_⟩
  intro h
  have hresult : result = s.adapted (Comparison.ofMetadata m) m now (s.previous m now) :=
    s.value_next_of_not_fallsBack h now
  have hrest : result.1.rest Key.scheduled = m.rest Key.scheduled := by
    rw [hresult]
    exact s.rest_adapted _ m now _
  refine ⟨hrest, fun key hkey => Metadata.values_eq_of_rest_eq hrest hkey,
    Metadata.values_eq_of_rest_eq hrest (by decide), ?_⟩
  rw [hresult, values_signatureOld_adapted]
  split
  · exact .inr rfl
  · exact .inl rfl

/-- A change between entries of other keys, where everything that may be written is written, and a
fetch without the signature of the visit before, whose interval is read in vain. -/
theorem next_frame_changed_and_unsigned :
    let s : ScheduleSettings := { setsLastModified := true }
    let m := Metadata.ofPairs [("a", "1"), (Key.fetchInterval, "9"), ("b", "2"), ("a", "3"),
      (Key.signature, "x"), (Key.signatureOld, "y"), (Key.signatureOld, "z"), ("c", "4")]
    let unsigned := m.erase Key.signatureOld
    let now : Time.Instant := ⟨0, 0, 0, by decide, by decide, by decide⟩
    let result := (s.next .fetched m now).value.1
    ¬ FallsBack .fetched m ∧ FallsBack .fetched unsigned ∧
      (s.next .fetched unsigned now).value = (unsigned, s.baseline? .fetched unsigned now) ∧
      result.rest Key.scheduled =
        [("a", ["1", "3"]), ("b", ["2"]), (Key.signature, ["x"]), ("c", ["4"])] ∧
      result ≠ m := by
  intro s m unsigned now result
  have hsigned : ¬ FallsBack .fetched m := by
    simp only [FallsBack, not_or, not_and]
    exact ⟨by simp, fun h => absurd h (by decide)⟩
  have hunsigned : FallsBack .fetched unsigned := .inr ⟨.inr (by decide), by decide⟩
  have hfallback := (s.next_frame .fetched unsigned now).1 hunsigned
  obtain ⟨hrest, -, -, -⟩ := (s.next_frame .fetched m now).2 hsigned
  refine ⟨hsigned, hunsigned, hfallback, hrest.trans (by decide), ?_⟩
  intro hsame
  have hmodified : result.values Key.lastModified = m.values Key.lastModified :=
    congrArg (Metadata.values · Key.lastModified) hsame
  revert hmodified
  decide +kernel

end ScheduleSettings

end Recrawl
