import Recrawl.Proofs.Schedule.ChangeDate
import Recrawl.Proofs.Time.Http

/-!
The dates that the schedule writes. Under its two keys for dates a run leaves what was there before,
what an edit put there, and the HTTP forms of the instants of its calls; these read back as the
seconds that they were written in.
-/

namespace Recrawl

namespace ScheduleSettings

/-- The keys under which the schedule writes dates. -/
def dateKeys : List String := [Key.signatureChangeDate, Key.lastModified]

/-- A turn may put a value under a key: an edit its values, and a call the date that it is made. -/
def Turn.Gives (key value : String) : Turn → Prop
  | call _ now => value = now.toHttp
  | edit edited values => edited = key ∧ value ∈ values

variable {key value : String}

/-- The date of the last change is the one before or the one of the visit. -/
theorem mem_changeDate? {comparison : Comparison} {date : String} {m : Metadata}
    (h : value ∈ (comparison.changeDate? date (m.first? key)).toList) :
    value ∈ m.values key ∨ value = date := by
  have hfirst : ∀ {before}, m.first? key = some before → before ∈ m.values key :=
    fun hbefore => List.mem_of_head? hbefore
  cases comparison with
  | same =>
    cases hbefore : m.first? key with
    | none =>
      right
      simpa [Comparison.changeDate?, hbefore] using h
    | some before =>
      left
      obtain rfl : value = before := by simpa [Comparison.changeDate?, hbefore] using h
      exact hfirst hbefore
  | changed =>
    right
    simpa [Comparison.changeDate?] using h
  | notModified | unknown =>
    left
    exact hfirst (by simpa [Comparison.changeDate?] using h)

theorem mem_values_call (s : ScheduleSettings) {m : Metadata} {status : Status}
    {now : Time.Instant} (hkey : key ∈ dateKeys)
    (h : value ∈ (s.next status m now).value.1.values key) :
    value ∈ m.values key ∨ value = now.toHttp := by
  by_cases hstatus : status = .fetched
  · subst hstatus
    by_cases hunknown : Comparison.ofMetadata m = .unknown
    · rw [s.value_next_of_unknown m now hunknown] at h
      exact .inl h
    · rw [s.value_next_of_ne_unknown m now rfl hunknown] at h
      simp only [dateKeys, List.mem_cons, List.not_mem_nil, or_false] at hkey
      rcases hkey with rfl | rfl
      · rw [values_changeDate_adapted] at h
        exact mem_changeDate? h
      · rw [values_lastModified_adapted] at h
        split at h
        · exact .inr (List.mem_singleton.mp h)
        · exact .inl h
  · rw [s.value_next_of_ne_fetched hstatus] at h
    exact .inl h

theorem mem_values_apply (s : ScheduleSettings) {m : Metadata} {turn : Turn}
    (hkey : key ∈ dateKeys) (h : value ∈ (turn.apply s m).values key) :
    value ∈ m.values key ∨ turn.Gives key value := by
  cases turn with
  | call status now => exact s.mem_values_call hkey h
  | edit edited values =>
    rw [Turn.apply, Metadata.values_setAll] at h
    split at h
    · rename_i hedited
      exact .inr ⟨hedited.symm, h⟩
    · exact .inl h

/-- What a run leaves under a key for dates was there before, or one of its turns put it there. -/
theorem mem_values_run (s : ScheduleSettings) {m : Metadata} {turns : List Turn}
    (hkey : key ∈ dateKeys) (h : value ∈ (s.run m turns).values key) :
    value ∈ m.values key ∨ ∃ turn ∈ turns, turn.Gives key value := by
  induction turns generalizing m with
  | nil => exact .inl h
  | cons turn rest ih =>
    rcases ih h with hkept | ⟨given, hgiven, hgives⟩
    · rcases s.mem_values_apply hkey hkept with hbefore | hgives
      · exact .inl hbefore
      · exact .inr ⟨turn, by simp, hgives⟩
    · exact .inr ⟨given, by simp [hgiven], hgives⟩

/-- The HTTP form of an instant with a year of four digits outside leap seconds begins with its
weekday, reads back as the instant cut to its second, and is the form of that second as well. The
weekdays go round from day zero, the first of January of 1970, which was a Thursday. So in
a run with calls at such instants, what stands under a key for dates and comes neither from the
start nor from an edit is the form of the instant of a call and reads back as its second. -/
theorem writtenDates_readBack :
    (∀ i : Time.Instant, i.IsPlain →
      Time.parseW3c? i.toHttp = some i.wholeSecond ∧
      (∃ weekday, ["Thu", "Fri", "Sat", "Sun", "Mon", "Tue", "Wed"][(i.day % 7).toNat]? =
          some weekday ∧ (weekday ++ ", ").toList <+: i.toHttp.toList) ∧
      i.wholeSecond.toHttp = i.toHttp) ∧
    ∀ (s : ScheduleSettings) (m : Metadata) (turns : List Turn),
      (∀ status now, Turn.call status now ∈ turns → now.IsPlain) →
      ∀ key ∈ dateKeys, ∀ value ∈ (s.run m turns).values key,
        value ∈ m.values key ∨
        (∃ values, Turn.edit key values ∈ turns ∧ value ∈ values) ∨
        ∃ status now, Turn.call status now ∈ turns ∧ value = now.toHttp ∧
          Time.parseW3c? value = some now.wholeSecond := by
  constructor
  · intro i hplain
    refine ⟨Time.Instant.parseW3c?_toHttp hplain, ⟨i.weekday.shortName, ?_, ?_⟩,
      Time.Instant.toHttp_wholeSecond hplain.notLeap⟩
    · exact Time.Weekday.shortName_ofDayNumber i.day
    · rw [Time.Instant.toList_toHttp hplain, String.toList_append, List.prefix_append_right_inj]
      exact ⟨_, rfl⟩
  · intro s m turns hplain key hkey value hvalue
    rcases s.mem_values_run hkey hvalue with hbefore | ⟨turn, hturn, hgives⟩
    · exact .inl hbefore
    · cases turn with
      | call status now =>
        obtain rfl : value = now.toHttp := hgives
        have hread := Time.Instant.parseW3c?_toHttp (hplain status now hturn)
        exact .inr (.inr ⟨status, now, hturn, rfl, hread⟩)
      | edit edited values =>
        obtain ⟨rfl, hmem⟩ := hgives
        exact .inr (.inl ⟨values, hturn, hmem⟩)

theorem writtenDates_readBack_leapDay :
    let i : Time.Instant := ⟨11016, 37800, 500000000, by decide, by decide, by decide⟩
    let s : ScheduleSettings := { setsLastModified := true }
    let m := Metadata.ofPairs [(Key.signature, "b"), (Key.signatureOld, "a")]
    let turns := [Turn.call .fetched i]
    let text := "Tue, 29 Feb 2000 10:30:00 GMT"
    i.IsPlain ∧ i.toHttp = text ∧ Time.parseW3c? text = some i.wholeSecond ∧
      "Tue, ".toList <+: i.toHttp.toList ∧
      (∀ status now, Turn.call status now ∈ turns → now.IsPlain) ∧
      Key.lastModified ∈ dateKeys ∧ text ∈ (s.run m turns).values Key.lastModified ∧
      ∃ status now, Turn.call status now ∈ turns ∧ text = now.toHttp ∧
        Time.parseW3c? text = some now.wholeSecond := by
  intro i s m turns text
  have hplain : i.IsPlain := ⟨by decide +kernel, by decide⟩
  have htext : i.toHttp = text := by decide +kernel
  have hcalls : ∀ status now, Turn.call status now ∈ turns → now.IsPlain := by
    intro status now hturn
    cases List.mem_singleton.mp hturn
    exact hplain
  have hkey : Key.lastModified ∈ dateKeys := by decide
  have hvalue : text ∈ (s.run m turns).values Key.lastModified := by decide +kernel
  have hnone : m.values Key.lastModified = [] := by decide +kernel
  obtain ⟨hread, ⟨weekday, hweekday, hbegins⟩, -⟩ := writtenDates_readBack.1 i hplain
  obtain rfl : "Tue" = weekday := Option.some.inj hweekday
  rw [htext] at hread
  refine ⟨hplain, htext, hread, hbegins, hcalls, hkey, hvalue, ?_⟩
  rcases writtenDates_readBack.2 s m turns hcalls Key.lastModified hkey text hvalue with
    hbefore | ⟨values, hedit, -⟩ | hwritten
  · rw [hnone] at hbefore
    cases hbefore
  · cases List.mem_singleton.mp hedit
  · exact hwritten

end ScheduleSettings

end Recrawl
