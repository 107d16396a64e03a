import Recrawl.Pipeline
import Recrawl.Proofs.Sitemap.Recognition
import Recrawl.Visit

/-!
The course of an item through the pipeline, apart from the filters that run at its end.
Every outcome follows from the course, and up to the filters no metadata changes but the
flags that classify the item.
-/

namespace Recrawl

/-- How far an item gets in the pipeline, with its metadata there. -/
inductive Course
  /-- It is left alone. -/
  | page (metadata : Metadata)
  /-- It is a sitemap that is not read. -/
  | acknowledged (metadata : Metadata)
  /-- It should be read as a sitemap, but cannot be. -/
  | unreadable (metadata : Metadata) (reason : String)
  /-- It was read as a sitemap of the given kind, and the filters get what was found in it. -/
  | sitemap (flags : Sitemap.Flags) (kind : Sitemap.Kind) (found : Parsed)
  /-- It is a feed, and the filters get its metadata. -/
  | feed (metadata : Metadata)

namespace Course

/-- The metadata in front of the filters. -/
def metadata : Course → Metadata
  | page m => m
  | acknowledged m => m
  | unreadable m _ => m
  | sitemap _ _ found => found.metadata
  | feed m => m

/-- The filters run: the item is a feed or a sitemap that was read. -/
def isFiltered : Course → Bool
  | sitemap _ _ _ => true
  | feed _ => true
  | _ => false

/-- The item ends in a failure in front of the filters. -/
def isUnreadable : Course → Bool
  | unreadable _ _ => true
  | _ => false

/-- An item that cannot be read gets to no filter. -/
theorem isFiltered_of_isUnreadable {course : Course} (h : course.isUnreadable = true) :
    course.isFiltered = false := by
  cases course with
  | unreadable metadata reason => rfl
  | page metadata => cases h
  | acknowledged metadata => cases h
  | sitemap flags kind found => cases h
  | feed metadata => cases h

/-- The message about an item that cannot be read. -/
def failureText (url reason : String) : String :=
  s!"Exception while parsing {url}: {reason}"

/-- The outcome of a course: filters run at the end of two of them. -/
def outcome (p : Pipeline) (item : WorkItem) : Course → Outcome
  | page m => .passThrough { item with metadata := m }
  | acknowledged m => .handled ⟨item.url, .fetched, m⟩ []
  | unreadable m reason =>
    .handled (Record.failure item.url m .sitemapParsing (failureText item.url reason)) []
  | sitemap flags kind found =>
    match ParseFilter.runAll item.url item.content p.sitemaps.filters found with
    | (parsed, some failure) =>
      (Sitemap.Resolver.filterFailure .sitemapResolver item.url parsed.metadata failure).value
    | (parsed, none) => Sitemap.Resolver.finish kind flags item.url parsed
  | feed m =>
    match ParseFilter.runAll item.url item.content p.feeds.filters ⟨m, []⟩ with
    | (parsed, some failure) =>
      (Sitemap.Resolver.filterFailure .feed item.url parsed.metadata failure).value
    | (parsed, none) => .handled ⟨item.url, .fetched, parsed.metadata⟩ []

end Course

/-- The course of an item that has to be read. -/
def Sitemap.Resolver.courseOfRead (r : Sitemap.Resolver) (flags : Sitemap.Flags)
    (item : WorkItem) (now : Time.Instant) : Course :=
  let metadata := item.metadata.erase Key.isSitemap
  match Url.parse item.url with
  | .error fault => .unreadable metadata fault.message
  | .ok source =>
    let contentType := metadata.first? Key.contentType
    match (Sitemap.read r.settings.allowPartial item.url item.content contentType).value with
    | .error fault => .unreadable metadata fault.message
    | .ok sitemap =>
      .sitemap flags sitemap.kind ⟨metadata, r.linksOf source metadata now sitemap⟩

/-- The course of an item at the given time. -/
def Pipeline.course (p : Pipeline) (item : WorkItem) (now : Time.Instant) : Course :=
  let seen := (p.sitemaps.recognise item).value
  let item : WorkItem := { item with metadata := seen.2 }
  if seen.1.needsReading then p.sitemaps.courseOfRead seen.1 item now
  else if seen.1.sitemap then .acknowledged seen.2
  else
    match (p.feeds.classify item).value with
    | some marked => .feed marked
    | none => .page seen.2

namespace Course

/-- An outcome reads of the item only its address and its content. -/
theorem outcome_withMetadata (p : Pipeline) (item : WorkItem) (m : Metadata)
    (course : Course) : course.outcome p { item with metadata := m } = course.outcome p item := by
  cases course <;> rfl

end Course

theorem Sitemap.Resolver.value_resolve (p : Pipeline) (flags : Sitemap.Flags)
    (item : WorkItem) (now : Time.Instant) :
    (p.sitemaps.resolve flags item now).value =
      (p.sitemaps.courseOfRead flags item now).outcome p item := by
  unfold resolve courseOfRead
  cases hurl : Url.parse item.url with
  | error fault => rfl
  | ok source =>
    simp only [Logged.value_bind]
    cases hread : (Sitemap.read p.sitemaps.settings.allowPartial item.url item.content
        ((item.metadata.erase Key.isSitemap).first? Key.contentType)).value with
    | error fault => rfl
    | ok sitemap =>
      simp only [Logged.value_bind, Course.outcome]
      generalize ParseFilter.runAll item.url item.content p.sitemaps.filters _ = filtered
      obtain ⟨parsed, failure⟩ := filtered
      cases failure with
      | none => rfl
      | some failure => rfl

/-- Reading an item always handles it. -/
theorem Sitemap.Resolver.exists_outcome_courseOfRead (p : Pipeline) (flags : Sitemap.Flags)
    (item : WorkItem) (now : Time.Instant) :
    ∃ record links,
      (p.sitemaps.courseOfRead flags item now).outcome p item = .handled record links := by
  unfold courseOfRead
  cases hurl : Url.parse item.url with
  | error fault => exact ⟨_, _, rfl⟩
  | ok source =>
    simp only
    split
    · exact ⟨_, _, rfl⟩
    · simp only [Course.outcome]
      split
      · exact ⟨_, _, rfl⟩
      · exact ⟨_, _, rfl⟩

/-- The course of an item through the resolver, which tells no feeds. -/
def Sitemap.Resolver.course (r : Sitemap.Resolver) (item : WorkItem) (now : Time.Instant) :
    Course :=
  let seen := (r.recognise item).value
  if seen.1.needsReading then r.courseOfRead seen.1 { item with metadata := seen.2 } now
  else if seen.1.sitemap then .acknowledged seen.2
  else .page seen.2

/-- The course of an item decides what the resolver makes of it. -/
theorem Sitemap.Resolver.value_process (p : Pipeline) (item : WorkItem) (now : Time.Instant) :
    (p.sitemaps.process item now).value = (p.sitemaps.course item now).outcome p item := by
  unfold process course
  simp only [Logged.value_bind]
  generalize (p.sitemaps.recognise item).value = seen
  obtain ⟨flags, metadata⟩ := seen
  by_cases hread : flags.needsReading = true
  · simp only [hread, if_true, value_resolve, Course.outcome_withMetadata]
  · by_cases hsitemap : flags.sitemap = true
    · simp only [hread, hsitemap, if_true]
      rfl
    · simp only [hread, hsitemap]
      rfl

theorem FeedClassifier.value_process (p : Pipeline) (item : WorkItem) :
    (p.feeds.process item).value =
      (match (p.feeds.classify item).value with
        | some marked => Course.feed marked
        | none => Course.page item.metadata).outcome p item := by
  unfold FeedClassifier.process
  simp only [Logged.value_bind]
  cases hclassify : (p.feeds.classify item).value with
  | none => rfl
  | some marked =>
    simp only [Course.outcome]
    generalize ParseFilter.runAll item.url item.content p.feeds.filters _ = filtered
    obtain ⟨parsed, failure⟩ := filtered
    cases failure with
    | none => rfl
    | some failure => rfl

/-- The course of an item decides what the pipeline makes of it. -/
theorem Pipeline.value_process (p : Pipeline) (item : WorkItem) (now : Time.Instant) :
    (p.process item now).value = (p.course item now).outcome p item := by
  unfold Pipeline.process Pipeline.course Sitemap.Resolver.process
  simp only [Logged.value_bind]
  generalize (p.sitemaps.recognise item).value = seen
  obtain ⟨flags, metadata⟩ := seen
  by_cases hread : flags.needsReading = true
  · simp only [hread, if_true, Sitemap.Resolver.value_resolve]
    obtain ⟨record, links, houtcome⟩ := Sitemap.Resolver.exists_outcome_courseOfRead p flags
      { item with metadata } now
    rw [← Course.outcome_withMetadata p item metadata, houtcome]
    rfl
  · simp only [Bool.not_eq_true] at hread
    by_cases hsitemap : flags.sitemap = true
    · simp only [hread, hsitemap, if_true]
      rfl
    · simp only [Bool.not_eq_true] at hsitemap
      simp only [hread, hsitemap]
      rw [← Course.outcome_withMetadata p item metadata]
      exact FeedClassifier.value_process p { item with metadata }

theorem Pipeline.value_process_of_handled {p : Pipeline} {item : WorkItem} {now : Time.Instant}
    {record : Record} {links : List Link}
    (h : (p.sitemaps.process item now).value = .handled record links) :
    (p.process item now).value = .handled record links := by
  unfold Pipeline.process
  simp only [Logged.value_bind, h]
  rfl

theorem Pipeline.value_process_of_passThrough {p : Pipeline} {item passed : WorkItem}
    {now : Time.Instant} (h : (p.sitemaps.process item now).value = .passThrough passed) :
    (p.process item now).value = (p.feeds.process passed).value := by
  unfold Pipeline.process
  simp only [Logged.value_bind, h]

/-- The keys by which the pipeline tells what an item is. -/
def Key.classifying : List String :=
  [isSitemap, isSitemapNews, isSitemapIndex, isFeed]

theorem Sitemap.Flags.values_reconcile (flags : Sitemap.Flags) (verdict : Sitemap.Verdict)
    (m : Metadata) {key : String} (h : key ∉ Key.classifying) :
    (flags.reconcile verdict m).2.values key = m.values key := by
  simp only [Key.classifying, List.mem_cons, List.not_mem_nil, or_false, not_or] at h
  obtain ⟨hsitemap, hnews, hindex, -⟩ := h
  cases verdict with
  | news => simp [reconcile, hsitemap, hnews]
  | index => simp [reconcile, hsitemap, hnews, hindex, values_clear_of_ne]
  | sitemap =>
    unfold reconcile
    cases flags.verified <;> simp [hsitemap, hnews, hindex, values_clear_of_ne]

theorem Sitemap.Resolver.values_recognise (r : Sitemap.Resolver) (item : WorkItem) {key : String}
    (h : key ∉ Key.classifying) :
    (r.recognise item).value.2.values key = item.metadata.values key := by
  unfold recognise
  split
  · simp only [Logged.value_bind]
    split
    · exact Flags.values_reconcile _ _ _ h
    · rfl
  · rfl

theorem FeedClassifier.values_classify (f : FeedClassifier) (item : WorkItem) {marked : Metadata}
    (hmarked : (f.classify item).value = some marked) {key : String}
    (h : key ∉ Key.classifying) : marked.values key = item.metadata.values key := by
  have hfeed : key ≠ Key.isFeed := by
    rintro rfl
    exact h (by decide)
  unfold classify at hmarked
  split at hmarked
  · cases hmarked
    rfl
  · split at hmarked
    · cases hmarked
      simp [hfeed]
    · split at hmarked
      · cases hmarked
        simp [hfeed]
      · cases hmarked

theorem Sitemap.Resolver.values_courseOfRead (r : Sitemap.Resolver) (flags : Sitemap.Flags)
    (item : WorkItem) (now : Time.Instant) {key : String} (h : key ∉ Key.classifying) :
    (r.courseOfRead flags item now).metadata.values key = item.metadata.values key := by
  have hsitemap : key ≠ Key.isSitemap := by
    rintro rfl
    exact h (by decide)
  unfold courseOfRead
  split
  · simp [Course.metadata, hsitemap]
  · simp only
    split
    · simp [Course.metadata, hsitemap]
    · simp [Course.metadata, hsitemap]

/-- Up to the filters, an item keeps the values of all keys that do not classify it. -/
theorem Pipeline.values_course (p : Pipeline) (item : WorkItem) (now : Time.Instant)
    {key : String} (h : key ∉ Key.classifying) :
    (p.course item now).metadata.values key = item.metadata.values key := by
  have hseen := p.sitemaps.values_recognise item h
  unfold course
  simp only
  split
  · rw [Sitemap.Resolver.values_courseOfRead _ _ _ _ h]
    exact hseen
  · split
    · exact hseen
    · split
      · rename_i marked hmarked
        exact (p.feeds.values_classify _ hmarked h).trans hseen
      · exact hseen

end Recrawl
