import Recrawl.Proofs.Sitemap.Discovery
import Recrawl.Proofs.Visit.Acknowledged

/-!
The number of links that a record tells. It is written where a sitemap is read and taken
away where that fails. At every other end of a visit it stays as it came: the record of a
feed, of a page or of an acknowledged sitemap tells the number of an earlier visit.
-/

namespace Recrawl

theorem Outcome.status_record (outcome : Outcome) :
    outcome.record.status = outcome.status?.getD .fetched := by
  cases outcome with
  | passThrough item => rfl
  | handled record links => rfl

namespace Course

/-- The number of links that a course writes, if it writes one: a failure writes that there is
none. -/
def count? (course : Course) : Option (List String) :=
  match course with
  | sitemap _ _ _ => some [toString course.links.length]
  | unreadable _ _ => some []
  | _ => none

theorem count_of_count? {course : Course} {count : List String} (h : course.count? = some count) :
    count = [] ∨ count = [toString course.links.length] := by
  cases course with
  | sitemap flags kind found =>
    cases h
    exact .inr rfl
  | unreadable m reason =>
    cases h
    exact .inl rfl
  | page m => cases h
  | acknowledged m => cases h
  | feed m => cases h

/-- Where no number is written, there are no links and no failure. -/
theorem status?_and_links_of_count? {course : Course} (h : course.count? = none) :
    course.status?.getD .fetched = .fetched ∧ course.links = [] := by
  cases course with
  | page m => exact ⟨rfl, rfl⟩
  | acknowledged m => exact ⟨rfl, rfl⟩
  | feed m => exact ⟨rfl, rfl⟩
  | unreadable m reason => cases h
  | sitemap flags kind found => cases h

theorem values_numLinks_outcome {sitemaps : SitemapSettings} {feeds : FeedSettings}
    {links : LinkSettings} {filters : FilterSettings} {p : Pipeline}
    (hp : Pipeline.ofSettings sitemaps feeds links filters = .ok p)
    (hsignature : Key.numLinks ≠ filters.signatureKey) (hcopy : Key.numLinks ≠ filters.copyKey)
    (course : Course) (item : WorkItem) :
    (course.outcome p item).record.metadata.values Key.numLinks =
      course.count?.getD (course.metadata.values Key.numLinks) := by
  obtain ⟨chain, rules, hchain, -, rfl⟩ := Pipeline.parts_of_ofSettings hp
  cases course with
  | page m => rfl
  | acknowledged m => rfl
  | unreadable m reason => simp [outcome, Outcome.record, Record.failure, count?]
  | feed m =>
    obtain ⟨after, hrun, hkept⟩ :=
      ParseFilter.runAll_of_ofSettings hchain item.url item.content ⟨m, []⟩
    rw [outcome, hrun]
    exact hkept _ hsignature hcopy
  | sitemap flags kind found =>
    -- The number is written behind the filters, so that it is not theirs to keep.
    obtain ⟨after, hrun, -⟩ :=
      ParseFilter.runAll_of_ofSettings hchain item.url item.content found
    rw [outcome, hrun]
    cases kind with
    | index => simp [Sitemap.Resolver.finish, Outcome.record, count?, Course.links]
    | urlSet => simp [Sitemap.Resolver.finish, Outcome.record, count?, Course.links]

end Course

namespace Crawl

namespace Turn

/-- The number of links that a turn writes, if it writes one. -/
def count? (c : Crawl) (url : String) (m : Metadata) : Turn → Option (List String)
  | visit content now => (c.pipeline.course ⟨url, content, m⟩ now).count?
  | between _ => none

/-- An edit between visits leaves a key alone. -/
def Spares (key : String) : Turn → Prop
  | visit _ _ => True
  | between turn => turn.Spares key

end Turn

/-- The numbers of links that a run writes, in order. -/
def counts (c : Crawl) (url : String) : Metadata → List Turn → List (List String)
  | _, [] => []
  | m, turn :: rest => (turn.count? c url m).toList ++ c.counts url (turn.apply c url m) rest

variable (c : Crawl) (url : String)

theorem values_numLinks_visit (item : WorkItem) (now : Time.Instant) :
    (c.visit item now).value.record.metadata.values Key.numLinks =
      (c.pipeline.process item now).value.record.metadata.values Key.numLinks :=
  c.schedule.values_next _ _ now (by decide)

section

variable {sitemaps : SitemapSettings} {feeds : FeedSettings} {links : LinkSettings}
  {filters : FilterSettings}
  (hp : Pipeline.ofSettings sitemaps feeds links filters = .ok c.pipeline)
  (hsignature : Key.numLinks ≠ filters.signatureKey) (hcopy : Key.numLinks ≠ filters.copyKey)

include hp hsignature hcopy

theorem values_numLinks_process (item : WorkItem) (now : Time.Instant) :
    (c.pipeline.process item now).value.record.metadata.values Key.numLinks =
      (c.pipeline.course item now).count?.getD (item.metadata.values Key.numLinks) := by
  rw [Pipeline.value_process, Course.values_numLinks_outcome hp hsignature hcopy,
    Pipeline.values_course _ _ _ (by decide)]

theorem values_numLinks_apply (m : Metadata) (turn : Turn) (hspares : turn.Spares Key.numLinks) :
    (turn.apply c url m).values Key.numLinks =
      (turn.count? c url m).getD (m.values Key.numLinks) := by
  cases turn with
  | visit content now =>
    simp only [Turn.apply, Turn.count?, values_numLinks_visit]
    exact c.values_numLinks_process hp hsignature hcopy ⟨url, content, m⟩ now
  | between turn =>
    cases turn with
    | call status now => exact c.schedule.values_next status m now (by decide)
    | edit key values =>
      have hne : Key.numLinks ≠ key := fun e => hspares e.symm
      simp [Turn.apply, ScheduleSettings.Turn.apply, Turn.count?, hne]

/-- After a run the number of links is the one that was written last. -/
theorem values_numLinks_run (m : Metadata) (turns : List Turn)
    (hspares : ∀ turn ∈ turns, turn.Spares Key.numLinks) :
    (c.run url m turns).values Key.numLinks =
      (c.counts url m turns).getLast?.getD (m.values Key.numLinks) := by
  induction turns generalizing m with
  | nil => rfl
  | cons turn rest ih =>
    have hstep := c.values_numLinks_apply url hp hsignature hcopy m turn (hspares turn (by simp))
    have hrest := ih (turn.apply c url m) (fun t ht => hspares t (by simp [ht]))
    change (c.run url (turn.apply c url m) rest).values Key.numLinks = _
    -- The last number of the rest counts; only a rest that writes none leaves that of the turn.
    rw [hrest, hstep, counts, getLast?_toList_append, Option.getD_or]

/-- Whatever happened before, a visit that reads a sitemap tells the number of its own links, and
one that fails to read it tells none. Every other visit finds no links, and tells the number that
was written last, in an earlier visit: its record is wrong about its links exactly if that number
was another one than zero. -/
theorem numLinks_visit (m : Metadata) (turns : List Turn)
    (hspares : ∀ turn ∈ turns, turn.Spares Key.numLinks) (content : Bytes) (now : Time.Instant) :
    let item : WorkItem := ⟨url, content, c.run url m turns⟩
    let course := c.pipeline.course item now
    let outcome := (c.pipeline.process item now).value
    let told := outcome.record.metadata.values Key.numLinks
    let earlier := (c.counts url m turns).getLast?.getD (m.values Key.numLinks)
    (∀ flags kind found, course = .sitemap flags kind found →
      outcome.record.status = .fetched ∧ told = [toString outcome.links.length]) ∧
    (∀ metadata reason, course = .unreadable metadata reason →
      outcome.record.status = .error ∧ outcome.links = [] ∧ told = []) ∧
    (course.count? = none →
      outcome.record.status = .fetched ∧ outcome.links = [] ∧ told = earlier) ∧
    ((told = [] ∨ told = [toString outcome.links.length]) ↔
      course.count? ≠ none ∨ earlier = [] ∨ earlier = ["0"]) ∧
    (c.visit item now).value.record.metadata.values Key.numLinks = told ∧
    (c.visit item now).value.links = outcome.links := by
  intro item course outcome told earlier
  obtain ⟨hstatus?, hlinks⟩ : outcome.status? = course.status? ∧ outcome.links = course.links := by
    have hcourse := Course.status?_and_links_outcome hp course item
    rwa [← Pipeline.value_process] at hcourse
  have hstatus : outcome.record.status = course.status?.getD .fetched := by
    rw [Outcome.status_record, hstatus?]
  have htold : told = course.count?.getD earlier := by
    have hprocess := c.values_numLinks_process hp hsignature hcopy item now
    have hrun := c.values_numLinks_run url hp hsignature hcopy m turns hspares
    exact hprocess.trans (congrArg _ hrun)
  refine ⟨?_, ?_, ?_, ?_, c.values_numLinks_visit item now, rfl⟩
  · intro flags kind found h
    rw [hstatus, htold, hlinks, h]
    exact ⟨rfl, rfl⟩
  · intro metadata reason h
    rw [hstatus, htold, hlinks, h]
    exact ⟨rfl, rfl, rfl⟩
  · intro h
    obtain ⟨hfetched, hnone⟩ := Course.status?_and_links_of_count? h
    rw [hstatus, htold, hlinks, h]
    exact ⟨hfetched, hnone, rfl⟩
  · rw [htold, hlinks]
    cases hcount : course.count? with
    | none =>
      have hzero : toString ([] : List Link).length = "0" := rfl
      rw [(Course.status?_and_links_of_count? hcount).2, hzero]
      simp
    | some count =>
      apply iff_of_true
      · exact Course.count_of_count? hcount
      · exact .inl (by simp)

end

/-- An index with a link gives way to a plain sitemap, whose record tells that link again. -/
theorem numLinks_visit_told_again :
    let c := sniffingCrawl
    let url := "http://[::1]/"
    let now : Time.Instant := ⟨0, 0, 0, by decide, by decide, by decide⟩
    let index := Bytes.ofString <|
      "<sitemapindex><sitemap><loc>http://[::1]/a</loc></sitemap></sitemapindex>"
    let plain := Bytes.ofString
      "<urlset xmlns=\x22http://www.sitemaps.org/schemas/sitemap/0.9\x22/>"
    let item : WorkItem := ⟨url, plain, c.run url .empty [.visit index now]⟩
    let outcome := (c.pipeline.process item now).value
    outcome.record.status = .fetched ∧ outcome.links = [] ∧
      outcome.record.metadata.values Key.numLinks = ["1"] ∧
      (c.visit item now).value.record.metadata.values Key.numLinks = ["1"] := by
  intro c url now index plain item outcome
  have hp : Pipeline.ofSettings { sniffsContent := true } {} {} {} = .ok c.pipeline := rfl
  have hrun : (c.pipeline.course item now).count? = none ∧
      c.counts url .empty [.visit index now] = [["1"]] := by
    decide +kernel
  obtain ⟨hcount, hcounts⟩ := hrun
  obtain ⟨-, -, hkept, -, hvisit, -⟩ :=
    c.numLinks_visit url hp (by decide) (by decide) .empty [.visit index now]
      (by simp [Turn.Spares]) plain now
  obtain ⟨hstatus, hlinks, htold⟩ := hkept hcount
  rw [hcounts] at htold
  exact ⟨hstatus, hlinks, htold, hvisit.trans htold⟩

end Crawl

end Recrawl
