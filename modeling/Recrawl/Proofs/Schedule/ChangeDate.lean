import Recrawl.Proofs.Schedule.Run

/-!
When the content last changed. The date in the metadata is that of the last comparison that found
a change, or of the first comparison while none has; calls that compare no signatures never touch
it, and only a change counts as a modification.
-/

namespace Recrawl

namespace ScheduleSettings

/-- A comparison of two signatures: whether they differ, and when they were compared. -/
structure Compared where
  differ : Bool
  now : Time.Instant
  deriving DecidableEq

/-- The signatures that a turn compares: those of a fetch that finds both. -/
def Turn.compared? (m : Metadata) : Turn → Option Compared
  | call .fetched now =>
    match m.first? Key.signature, m.first? Key.signatureOld with
    | some signature, some old => some ⟨signature != old, now⟩
    | _, _ => none
  | _ => none

/-- The comparisons of a run, in order. -/
def compared (s : ScheduleSettings) : Metadata → List Turn → List Compared
  | _, [] => []
  | m, turn :: rest => (turn.compared? m).toList ++ s.compared (turn.apply s m) rest

/-- The last comparison that found a change, or else the first one. -/
def deciding? (history : List Compared) : Option Compared :=
  (history.filter Compared.differ).getLast?.or history.head?

/-- The metadata holds the date of the deciding comparison as its only value, and no date if there
is none. -/
def IsDated (m : Metadata) (history : List Compared) : Prop :=
  m.values Key.signatureChangeDate = ((deciding? history).map fun last => last.now.toHttp).toList

theorem deciding?_snoc (history : List Compared) (last : Compared) :
    deciding? (history ++ [last]) =
      if last.differ then some last else (deciding? history).or (some last) := by
  unfold deciding?
  rw [List.filter_append, List.head?_append]
  cases hdiffer : last.differ with
  | true => simp [hdiffer]
  | false => simp [hdiffer]

theorem compared?_call_of_ne_fetched {status : Status} (h : status ≠ .fetched) (m : Metadata)
    (now : Time.Instant) : (Turn.call status now).compared? m = none := by
  cases status with
  | fetched => exact absurd rfl h
  | discovered => rfl
  | fetchError => rfl
  | redirection => rfl
  | error => rfl

theorem compared?_of_missing {m : Metadata}
    (h : m.first? Key.signature = none ∨ m.first? Key.signatureOld = none)
    (now : Time.Instant) : (Turn.call .fetched now).compared? m = none := by
  unfold Turn.compared?
  rcases h with h | h
  · simp [h]
  · cases hsignature : m.first? Key.signature <;> simp [h]

/-- A fetch compares two signatures exactly if it counts as the same or as changed. -/
theorem compared?_call_fetched (m : Metadata) (now : Time.Instant) :
    (Turn.call .fetched now).compared? m =
      match Comparison.ofMetadata m with
      | .same => some ⟨false, now⟩
      | .changed => some ⟨true, now⟩
      | .notModified => none
      | .unknown => none := by
  by_cases hmissing : m.first? Key.signature = none ∨ m.first? Key.signatureOld = none
  · rw [compared?_of_missing hmissing, Comparison.ofMetadata_of_missing hmissing]
    by_cases hcode : m.first? Key.statusCode = some "304" <;> simp [hcode]
  · simp only [not_or, Option.ne_none_iff_exists'] at hmissing
    obtain ⟨⟨signature, hsignature⟩, old, hold⟩ := hmissing
    rw [Comparison.ofMetadata_of_both hsignature hold]
    by_cases hsame : signature = old <;> simp [Turn.compared?, hsignature, hold, hsame]

theorem isDated_apply (s : ScheduleSettings) {m : Metadata} {history : List Compared}
    (turn : Turn) (hspares : turn.Spares Key.signatureChangeDate) (h : IsDated m history) :
    IsDated (turn.apply s m) (history ++ (turn.compared? m).toList) := by
  cases turn with
  | edit key values =>
    have hne : Key.signatureChangeDate ≠ key := fun e => hspares e.symm
    rw [IsDated, Turn.apply, Metadata.values_setAll, if_neg hne, h]
    simp [Turn.compared?]
  | call status now =>
    by_cases hstatus : status = .fetched
    · subst hstatus
      have hcompared := compared?_call_fetched m now
      by_cases hunknown : Comparison.ofMetadata m = .unknown
      · rw [Turn.apply, s.value_next_of_unknown m now hunknown, hcompared, hunknown]
        simpa using h
      · have hfirst : m.first? Key.signatureChangeDate =
            (deciding? history).map fun last => last.now.toHttp := by
          rw [Metadata.first?, h]
          cases deciding? history <;> rfl
        rw [IsDated, Turn.apply, s.value_next_of_ne_unknown m now rfl hunknown,
          values_changeDate_adapted, hfirst, hcompared]
        cases hcomparison : Comparison.ofMetadata m with
        | same =>
          rw [Option.toList_some, deciding?_snoc]
          cases deciding? history <;> rfl
        | changed =>
          rw [Option.toList_some, deciding?_snoc]
          rfl
        | notModified => simp [Comparison.changeDate?]
        | unknown => exact absurd hcomparison hunknown
    · rw [Turn.apply, s.value_next_of_ne_fetched hstatus, compared?_call_of_ne_fetched hstatus]
      simpa using h

theorem isDated_run (s : ScheduleSettings) {m : Metadata} {history : List Compared}
    (turns : List Turn) (hspares : ∀ turn ∈ turns, turn.Spares Key.signatureChangeDate)
    (h : IsDated m history) : IsDated (s.run m turns) (history ++ s.compared m turns) := by
  induction turns generalizing m history with
  | nil =>
    rw [compared, List.append_nil]
    exact h
  | cons turn rest ih =>
    have hstep := s.isDated_apply turn (hspares turn (by simp)) h
    have hrest := ih (fun t ht => hspares t (by simp [ht])) hstep
    rw [List.append_assoc] at hrest
    exact hrest

/-- Among the calls, exactly those that find a change rewrite the last modification, if the settings
want that. -/
theorem values_lastModified_call (s : ScheduleSettings) (m : Metadata) (status : Status)
    (now : Time.Instant) :
    ((Turn.call status now).apply s m).values Key.lastModified =
      if s.setsLastModified = true ∧ ((Turn.call status now).compared? m).any Compared.differ = true
      then [now.toHttp] else m.values Key.lastModified := by
  by_cases hstatus : status = .fetched
  · subst hstatus
    rw [compared?_call_fetched, Turn.apply]
    by_cases hunknown : Comparison.ofMetadata m = .unknown
    · rw [s.value_next_of_unknown m now hunknown, hunknown]
      simp
    · rw [s.value_next_of_ne_unknown m now rfl hunknown, values_lastModified_adapted]
      cases Comparison.ofMetadata m <;> simp
  · rw [Turn.apply, s.value_next_of_ne_fetched hstatus, compared?_call_of_ne_fetched hstatus]
    simp

/-- From metadata without a date of the last change, and with that key left alone between the calls,
a run leaves the date of its last comparison that found a change, or of its first comparison while
none has, as a single value, and none without any comparison. A further call that compares no
signatures keeps the date; the last modification is rewritten exactly where a change is found and
the settings want that. -/
theorem changeDate_of_run (s : ScheduleSettings) (m : Metadata) (turns : List Turn)
    (hstart : m.values Key.signatureChangeDate = [])
    (hspares : ∀ turn ∈ turns, turn.Spares Key.signatureChangeDate) :
    let after := s.run m turns
    let history := s.compared m turns
    let changes := history.filter Compared.differ
    let dates := after.values Key.signatureChangeDate
    (history = [] → dates = []) ∧
    (∀ last, changes.getLast? = some last → dates = [last.now.toHttp]) ∧
    (∀ first, changes = [] → history.head? = some first → dates = [first.now.toHttp]) ∧
    ∀ status now,
      let call := Turn.call status now
      (call.compared? after = none →
        (call.apply s after).values Key.signatureChangeDate = dates) ∧
      (call.apply s after).values Key.lastModified =
        if s.setsLastModified = true ∧ (call.compared? after).any Compared.differ = true
        then [now.toHttp] else after.values Key.lastModified := by
  intro after history changes dates
  have hempty : IsDated m [] := hstart
  have hdated : IsDated after history := s.isDated_run turns hspares hempty
  have hdates : dates = ((deciding? history).map fun last => last.now.toHttp).toList := hdated
  refine ⟨?_, ?_, ?_, ?_⟩
  · intro hnone
    rw [hdates, hnone]
    rfl
  · intro last hlast
    rw [hdates, deciding?, show (history.filter Compared.differ).getLast? = _ from hlast]
    rfl
  · intro first hsame hfirst
    rw [hdates, deciding?, show history.filter Compared.differ = _ from hsame, hfirst]
    rfl
  · intro status now call
    refine ⟨?_, s.values_lastModified_call after status now⟩
    intro hnone
    have hcall := s.isDated_apply call trivial hdated
    rw [hnone, Option.toList_none, List.append_nil] at hcall
    rw [hdates]
    exact hcall

/-- Calls of every kind around one change: the first comparison finds none, the second one does,
and neither a later comparison nor a 304 nor a failed fetch takes its date away. -/
def mixedTurns (now : Fin 86400 → Time.Instant) : List Turn :=
  [.call .fetched (now 0),
    .edit Key.signatureOld ["a"], .call .fetched (now 1),
    .edit Key.signatureOld ["b", "a"], .call .fetched (now 2),
    .edit Key.signature ["b"], .call .fetched (now 3),
    .edit Key.statusCode ["304"], .call .fetched (now 4),
    .call .fetchError (now 5), .edit Key.signatureOld ["c"]]

theorem changeDate_of_run_mixedTurns :
    let s : ScheduleSettings := { setsLastModified := true }
    let m := Metadata.ofPairs [(Key.signature, "a"), (Key.lastModified, "then")]
    let now (second : Fin 86400) : Time.Instant :=
      ⟨0, second, 0, by decide, second.isLt, by decide⟩
    let after := s.run m (mixedTurns now)
    m.values Key.signatureChangeDate = [] ∧
      (∀ turn ∈ mixedTurns now, turn.Spares Key.signatureChangeDate) ∧
      after.values Key.signatureChangeDate = ["Thu, 01 Jan 1970 00:00:02 GMT"] ∧
      ((Turn.call .fetched (now 6)).apply s after).values Key.lastModified =
        ["Thu, 01 Jan 1970 00:00:06 GMT"] := by
  intro s m now after
  have hspares : ∀ turn ∈ mixedTurns now, turn.Spares Key.signatureChangeDate := by
    intro turn hturn
    simp only [mixedTurns, List.mem_cons, List.not_mem_nil, or_false] at hturn
    rcases hturn with rfl | rfl | rfl | rfl | rfl | rfl | rfl | rfl | rfl | rfl | rfl <;>
      simp [Turn.Spares, Key.signatureChangeDate, Key.signatureOld, Key.signature, Key.statusCode]
  have hstart : m.values Key.signatureChangeDate = [] := by decide +kernel
  obtain ⟨-, hlast, -, hcall⟩ := s.changeDate_of_run m (mixedTurns now) hstart hspares
  have hrun : ((s.compared m (mixedTurns now)).filter Compared.differ).getLast? =
      some ⟨true, now 2⟩ := by
    decide +kernel
  have hfinds : ((Turn.call .fetched (now 6)).compared? after).any Compared.differ = true := by
    decide +kernel
  have hsecond : (now 2).toHttp = "Thu, 01 Jan 1970 00:00:02 GMT" := by decide +kernel
  have hsixth : (now 6).toHttp = "Thu, 01 Jan 1970 00:00:06 GMT" := by decide +kernel
  have hdates := hlast _ hrun
  have hmodified := (hcall .fetched (now 6)).2
  rw [hsecond] at hdates
  rw [if_pos ⟨rfl, hfinds⟩, hsixth] at hmodified
  exact ⟨hstart, hspares, hdates, hmodified⟩

end ScheduleSettings

end Recrawl
