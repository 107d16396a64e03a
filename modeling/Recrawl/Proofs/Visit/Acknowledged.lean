import Recrawl.Proofs.Sitemap.Resolution
import Recrawl.Proofs.Visit.Change

/-!
Visits that end at an acknowledged sitemap. No filter runs on them, so that the schedule
compares the signatures that an earlier visit left behind: the outcome of the last visit
that was signed counts again at every such visit, whatever was fetched.
-/

namespace Recrawl

namespace Course

/-- The item is a sitemap that is not read. -/
def isAcknowledged : Course → Bool
  | acknowledged _ => true
  | _ => false

theorem exists_of_isAcknowledged {course : Course} (h : course.isAcknowledged = true) :
    ∃ metadata, course = .acknowledged metadata := by
  cases course with
  | acknowledged metadata => exact ⟨metadata, rfl⟩
  | page metadata => cases h
  | unreadable metadata reason => cases h
  | sitemap flags kind found => cases h
  | feed metadata => cases h

/-- An item that gets to no filter keeps its metadata, but for the keys of failures. -/
theorem values_record_of_not_isFiltered (p : Pipeline) (item : WorkItem) {course : Course}
    (h : course.isFiltered = false) {key : String} (hsource : key ≠ Key.errorSource)
    (hmessage : key ≠ Key.errorMessage) (hlinks : key ≠ Key.numLinks) :
    (course.outcome p item).record.metadata.values key = course.metadata.values key := by
  cases course with
  | page metadata => rfl
  | acknowledged metadata => rfl
  | unreadable metadata reason =>
    exact (record_of_isUnreadable p item rfl).2 key hsource hmessage hlinks
  | sitemap flags kind found => cases h
  | feed metadata => cases h

end Course

theorem Metadata.signaturesDiffer_congr {m m' : Metadata}
    (hsignature : m'.values Key.signature = m.values Key.signature)
    (hold : m'.values Key.signatureOld = m.values Key.signatureOld) :
    m'.SignaturesDiffer ↔ m.SignaturesDiffer := by
  unfold SignaturesDiffer
  rw [first?_congr hsignature, first?_congr hold]

namespace ScheduleSettings

/-- The schedule takes only equal signatures apart: a pair that differs is still there after a call,
and none appears. -/
theorem signaturesDiffer_next (s : ScheduleSettings) (status : Status) (m : Metadata)
    (now : Time.Instant) :
    (s.next status m now).value.1.SignaturesDiffer ↔ m.SignaturesDiffer := by
  by_cases hstatus : status = .fetched
  · subst hstatus
    by_cases hunknown : Comparison.ofMetadata m = .unknown
    · rw [s.value_next_of_unknown m now hunknown]
    · rw [s.value_next_of_ne_unknown m now rfl hunknown]
      have hold := s.values_signatureOld_adapted (Comparison.ofMetadata m) m now (s.previous m now)
      by_cases hsame : Comparison.ofMetadata m = .same
      · rw [if_pos hsame] at hold
        have hbefore : ¬ m.SignaturesDiffer := by
          rw [← Comparison.ofMetadata_eq_changed_iff, hsame]
          decide
        refine iff_of_false ?_ hbefore
        rintro ⟨signature, old, -, hfirst, -⟩
        rw [(Metadata.first?_eq_none_iff _ _).mpr hold] at hfirst
        cases hfirst
      · rw [if_neg hsame] at hold
        exact Metadata.signaturesDiffer_congr (s.values_signature_adapted _ m now _) hold
  · rw [s.value_next_of_ne_fetched hstatus]

/-- Without a change the date of the last one stays. -/
theorem first?_changeDate_adapted (s : ScheduleSettings) {comparison : Comparison}
    (h : comparison ≠ .changed) {m : Metadata} {now : Time.Instant} {before : Int64}
    {date : String} (hdate : m.first? Key.signatureChangeDate = some date) :
    (s.adapted comparison m now before).1.first? Key.signatureChangeDate = some date := by
  have hstored : comparison.changeDate? now.toHttp (m.first? Key.signatureChangeDate) =
      some date := by
    rw [hdate]
    cases comparison with
    | changed => exact absurd rfl h
    | same => rfl
    | notModified => rfl
    | unknown => rfl
  apply Metadata.first?_of_values
  rw [values_changeDate_adapted, hstored]
  rfl

end ScheduleSettings

namespace Pipeline

/-- An item that gets to no filter keeps what does not classify it, but for the keys of failures. -/
theorem values_record_of_not_isFiltered (p : Pipeline) (item : WorkItem) (now : Time.Instant)
    (h : (p.course item now).isFiltered = false) {key : String} (hkey : key ∉ Key.classifying)
    (hsource : key ≠ Key.errorSource) (hmessage : key ≠ Key.errorMessage)
    (hlinks : key ≠ Key.numLinks) :
    (p.process item now).value.record.metadata.values key = item.metadata.values key := by
  rw [value_process, Course.values_record_of_not_isFiltered p item h hsource hmessage hlinks,
    values_course _ _ _ hkey]

end Pipeline

namespace Crawl

namespace Turn

/-- How a visit that reaches the filters compares with what was signed before. -/
def comparison? (c : Crawl) (url : String) (m : Metadata) : Turn → Option Comparison
  | visit content now =>
    if (c.pipeline.course ⟨url, content, m⟩ now).isFiltered then
      some (Comparison.ofMetadata
        (c.pipeline.process ⟨url, content, m⟩ now).value.record.metadata)
    else none
  | between _ => none

/-- An edit between visits leaves the signatures alone. -/
def SparesSignatures : Turn → Prop
  | visit _ _ => True
  | between turn => turn.Spares Key.signature ∧ turn.Spares Key.signatureOld

end Turn

/-- How the visits of a run that reach the filters compare, in order. -/
def comparisons (c : Crawl) (url : String) : Metadata → List Turn → List Comparison
  | _, [] => []
  | m, turn :: rest =>
    (turn.comparison? c url m).toList ++ c.comparisons url (turn.apply c url m) rest

/-- The last of some comparisons was a change; without any it is what the metadata says. -/
def LastChanged (m : Metadata) : Option Comparison → Prop
  | none => m.SignaturesDiffer
  | some comparison => comparison = .changed

variable (c : Crawl) (url : String)

theorem signaturesDiffer_visit (item : WorkItem) (now : Time.Instant) :
    (c.visit item now).value.record.metadata.SignaturesDiffer ↔
      (c.pipeline.process item now).value.record.metadata.SignaturesDiffer := by
  rw [(c.record_visit item now).1, ← Pipeline.value_process]
  exact c.schedule.signaturesDiffer_next _ _ now

theorem signaturesDiffer_apply (m : Metadata) (turn : Turn) (hspares : turn.SparesSignatures) :
    (turn.apply c url m).SignaturesDiffer ↔ LastChanged m (turn.comparison? c url m) := by
  cases turn with
  | visit content now =>
    simp only [Turn.apply, Turn.comparison?, signaturesDiffer_visit]
    by_cases hfiltered : (c.pipeline.course ⟨url, content, m⟩ now).isFiltered = true
    · rw [if_pos hfiltered]
      exact (Comparison.ofMetadata_eq_changed_iff _).symm
    · rw [if_neg hfiltered]
      rw [Bool.not_eq_true] at hfiltered
      have hkept (key : String) (hkey : key ∉ Key.classifying) :=
        c.pipeline.values_record_of_not_isFiltered ⟨url, content, m⟩ now hfiltered hkey
      exact Metadata.signaturesDiffer_congr
        (hkept _ (by decide) (by decide) (by decide) (by decide))
        (hkept _ (by decide) (by decide) (by decide) (by decide))
  | between turn =>
    cases turn with
    | call status now => exact c.schedule.signaturesDiffer_next status m now
    | edit key values =>
      have hsignature : Key.signature ≠ key := fun e => hspares.1 e.symm
      have hold : Key.signatureOld ≠ key := fun e => hspares.2 e.symm
      apply Metadata.signaturesDiffer_congr
      · simp [Turn.apply, ScheduleSettings.Turn.apply, hsignature]
      · simp [Turn.apply, ScheduleSettings.Turn.apply, hold]

/-- After a run the two signatures differ exactly if the last visit that was signed counted as a
change. -/
theorem signaturesDiffer_run (m : Metadata) (turns : List Turn)
    (hspares : ∀ turn ∈ turns, turn.SparesSignatures) :
    (c.run url m turns).SignaturesDiffer ↔ LastChanged m (c.comparisons url m turns).getLast? := by
  induction turns generalizing m with
  | nil => exact Iff.rfl
  | cons turn rest ih =>
    have hstep := c.signaturesDiffer_apply url m turn (hspares turn (by simp))
    have hrest := ih (turn.apply c url m) (fun t ht => hspares t (by simp [ht]))
    change (c.run url (turn.apply c url m) rest).SignaturesDiffer ↔ _
    rw [hrest, comparisons, getLast?_toList_append]
    cases hlast : (c.comparisons url (turn.apply c url m) rest).getLast? with
    | some comparison => exact Iff.rfl
    | none => exact hstep

/-- An acknowledged sitemap is fetched, and nothing is found in it. -/
theorem process_of_isAcknowledged (item : WorkItem) (now : Time.Instant)
    (h : (c.pipeline.course item now).isAcknowledged = true) :
    (c.pipeline.course item now).isFiltered = false ∧ ∃ metadata,
      (c.pipeline.process item now).value = .handled ⟨item.url, .fetched, metadata⟩ [] := by
  obtain ⟨metadata, hmetadata⟩ := Course.exists_of_isAcknowledged h
  rw [Pipeline.value_process, hmetadata]
  exact ⟨rfl, metadata, rfl⟩

/-- Whatever its content, a visit to an acknowledged sitemap counts as changed exactly if the last
visit that was signed did. Then the interval is shortened, the date of the last change is that of
this visit, and the signatures stay apart, so that the next such visit counts as changed as well.
Otherwise the interval is not shortened, and a date that is there stays. -/
theorem visit_acknowledged_changed_iff (m : Metadata) (turns : List Turn)
    (hspares : ∀ turn ∈ turns, turn.SparesSignatures) (content : Bytes) (now : Time.Instant)
    (hcourse : (c.pipeline.course ⟨url, content, c.run url m turns⟩ now).isAcknowledged = true) :
    let item : WorkItem := ⟨url, content, c.run url m turns⟩
    let record := (c.pipeline.process item now).value.record
    let visit := (c.visit item now).value
    let low := (IntervalBounds.ofSettings c.schedule).low.toInt
    let before := (c.schedule.previous record.metadata now).toInt
    let counts := LastChanged m (c.comparisons url m turns).getLast?
    record.status = .fetched ∧ visit.links = [] ∧
      (Comparison.ofMetadata record.metadata = .changed ↔ counts) ∧
      (visit.record.metadata.SignaturesDiffer ↔ counts) ∧
      (counts → visit.record.metadata.values Key.signatureChangeDate = [now.toHttp] ∧
        ∃ after : Int64, visit.record.metadata.values Key.fetchInterval = [toString after.toInt] ∧
          after.toInt = (before + low) / 2) ∧
      (¬ counts →
        (∀ date, item.metadata.first? Key.signatureChangeDate = some date →
          visit.record.metadata.first? Key.signatureChangeDate = some date) ∧
        (visit.record.metadata.values Key.fetchInterval =
            record.metadata.values Key.fetchInterval ∨
          ∃ after : Int64, visit.record.metadata.values Key.fetchInterval =
              [toString after.toInt] ∧ before ≤ after.toInt)) := by
  intro item record visit low before counts
  obtain ⟨hfiltered, metadata, hprocess⟩ := c.process_of_isAcknowledged item now hcourse
  have hkept (key : String) (hkey : key ∉ Key.classifying) :=
    c.pipeline.values_record_of_not_isFiltered item now hfiltered hkey
  have hstatus : record.status = .fetched := by
    simp only [record, hprocess]
    rfl
  have hchanged : Comparison.ofMetadata record.metadata = .changed ↔ counts := by
    have hpair : record.metadata.SignaturesDiffer ↔ item.metadata.SignaturesDiffer :=
      Metadata.signaturesDiffer_congr
        (hkept _ (by decide) (by decide) (by decide) (by decide))
        (hkept _ (by decide) (by decide) (by decide) (by decide))
    rw [Comparison.ofMetadata_eq_changed_iff, hpair]
    exact c.signaturesDiffer_run url m turns hspares
  have hdate : record.metadata.first? Key.signatureChangeDate =
      item.metadata.first? Key.signatureChangeDate :=
    Metadata.first?_congr (hkept _ (by decide) (by decide) (by decide) (by decide))
  have hvisit : visit.record.metadata = (c.schedule.next .fetched record.metadata now).value.1 := by
    rw [← hstatus]
    rfl
  have hmem := c.schedule.previous_mem record.metadata now
  have hlow := (IntervalBounds.ordered_ofSettings c.schedule).low_nonneg
  refine ⟨hstatus, ?_, hchanged, ?_, ?_, ?_⟩
  · change (c.pipeline.process item now).value.links = []
    rw [hprocess]
    rfl
  · rw [c.signaturesDiffer_visit item now, ← hchanged, Comparison.ofMetadata_eq_changed_iff]
  · intro hcounts
    have hcomparison := hchanged.mpr hcounts
    rw [hvisit, c.schedule.value_next_of_ne_unknown _ now hcomparison (by decide)]
    refine ⟨ScheduleSettings.values_changeDate_store _ _ _, _,
      c.schedule.values_fetchInterval_adapted _ _ now, ?_⟩
    exact c.schedule.toInt_following .changed record.metadata now
  · intro hcounts
    generalize hcomparison : Comparison.ofMetadata record.metadata = comparison at hchanged
    have hne : comparison ≠ .changed := fun e => hcounts (hchanged.mp e)
    by_cases hunknown : comparison = .unknown
    · rw [hvisit, c.schedule.value_next_of_unknown _ now (hcomparison.trans hunknown)]
      exact ⟨fun date h => hdate.trans h, .inl rfl⟩
    · rw [hvisit, c.schedule.value_next_of_ne_unknown _ now hcomparison hunknown]
      refine ⟨?_, .inr ⟨_, c.schedule.values_fetchInterval_adapted _ _ now, ?_⟩⟩
      · intro date h
        exact c.schedule.first?_changeDate_adapted hne (hdate.trans h)
      · rw [c.schedule.toInt_following]
        exact Comparison.le_target_of_ne_changed hne (by omega) hmem.2

/-- A crawl with the default settings, but for a look at the content of sitemaps. -/
def sniffingCrawl : Crawl :=
  { pipeline := Sitemap.Resolver.standardPipeline { sniffsContent := true } }

/-- A changed index gives way to a plain sitemap. The sitemap is fetched again as it was, and still
the interval is shortened and the date of the last change is set anew. -/
theorem visit_acknowledged_counted_again :
    let c := sniffingCrawl
    let url := "http://[::1]/"
    let now (second : Fin 86400) : Time.Instant :=
      ⟨0, second, 0, by decide, second.isLt, by decide⟩
    let plain := Bytes.ofString
      "<urlset xmlns=\x22http://www.sitemaps.org/schemas/sitemap/0.9\x22/>"
    let turns : List Turn := [.visit (Bytes.ofString "<sitemapindex/>") (now 0),
      .visit (Bytes.ofString "<sitemapindex></sitemapindex>") (now 1), .visit plain (now 2)]
    let item : WorkItem := ⟨url, plain, c.run url .empty turns⟩
    let visit := (c.visit item (now 3)).value
    (c.pipeline.course item (now 3)).isAcknowledged = true ∧
      (c.pipeline.process item (now 3)).value.record.status = .fetched ∧
      item.metadata.values Key.fetchInterval = ["405"] ∧
      visit.record.metadata.values Key.fetchInterval = ["232"] ∧
      item.metadata.values Key.signatureChangeDate = [(now 2).toHttp] ∧
      visit.record.metadata.values Key.signatureChangeDate = [(now 3).toHttp] := by
  intro c url now plain turns item visit
  -- One evaluation of the run gives everything that is said about it.
  have hrun : (c.pipeline.course item (now 3)).isAcknowledged = true ∧
      c.comparisons url .empty turns = [.unknown, .changed] ∧
      item.metadata.values Key.fetchInterval = ["405"] ∧
      item.metadata.values Key.signatureChangeDate = [(now 2).toHttp] ∧
      (c.schedule.previous (c.pipeline.process item (now 3)).value.record.metadata
        (now 3)).toInt = 405 := by
    decide +kernel
  obtain ⟨hcourse, hcomparisons, hbefore, hdated, hprevious⟩ := hrun
  have hcounts : LastChanged .empty (c.comparisons url .empty turns).getLast? := by
    rw [hcomparisons]
    rfl
  have hspares : ∀ turn ∈ turns, turn.SparesSignatures := by
    simp [turns, Turn.SparesSignatures]
  obtain ⟨hstatus, -, -, -, hchanged, -⟩ :=
    c.visit_acknowledged_changed_iff url .empty turns hspares plain (now 3) hcourse
  obtain ⟨hdate, after, hinterval, hafter⟩ := hchanged hcounts
  rw [hprevious] at hafter
  have htext : toString after.toInt = "232" := by
    rw [hafter]
    decide
  rw [htext] at hinterval
  exact ⟨hcourse, hstatus, hbefore, hinterval, hdated, hdate⟩

end Crawl

end Recrawl
