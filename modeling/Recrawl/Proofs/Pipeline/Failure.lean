import Recrawl.Proofs.Sitemap.Resolution

/-!
What a failure leaves of the metadata of an item. An item that cannot be read loses the mark of a
plain sitemap and the number of its links, and takes over the verdict on its content; everything
else stays where it was, so that the next attempt finds the same crawl state. Where a filter fails,
what it and the filters in front of it wrote stays as well.
-/

namespace Recrawl

namespace Sitemap

namespace Resolver

/-- The item has to be read but cannot be, for the given reason: its address is none, or its content
is no sitemap. -/
inductive CannotRead (r : Resolver) (item : WorkItem) : String → Prop
  | address {fault : Url.Fault}
    (needsReading : (r.recognise item).value.1.needsReading = true)
    (address : Url.parse item.url = .error fault) : CannotRead r item fault.message
  | content {source : Url} {fault : Fault}
    (needsReading : (r.recognise item).value.1.needsReading = true)
    (address : Url.parse item.url = .ok source)
    (content : (Sitemap.read r.settings.allowPartial item.url item.content
      item.contentType?).value = .error fault) : CannotRead r item fault.message

variable {r : Resolver} {item : WorkItem} {reason : String}

/-- An item that has to be read is read, or there is a reason why it cannot be. -/
theorem exists_reads_or_cannotRead
    (hneeds : (r.recognise item).value.1.needsReading = true) :
    (∃ source sitemap, r.Reads item source sitemap) ∨ ∃ reason, r.CannotRead item reason := by
  cases haddress : Url.parse item.url with
  | error fault => exact .inr ⟨_, .address hneeds haddress⟩
  | ok source =>
    cases hcontent : (Sitemap.read r.settings.allowPartial item.url item.content
        item.contentType?).value with
    | error fault => exact .inr ⟨_, .content hneeds haddress hcontent⟩
    | ok sitemap => exact .inl ⟨source, sitemap, hneeds, haddress, hcontent⟩

theorem CannotRead.needsReading (h : r.CannotRead item reason) :
    (r.recognise item).value.1.needsReading = true := by
  cases h with
  | address needsReading => exact needsReading
  | content needsReading => exact needsReading

theorem CannotRead.of_metadata (h : r.CannotRead item reason) {m : Metadata}
    (hneeds : (r.recognise { item with metadata := m }).value.1.needsReading = true)
    (htype : m.values Key.contentType = item.metadata.values Key.contentType) :
    r.CannotRead { item with metadata := m } reason := by
  have hsame : ({ item with metadata := m } : WorkItem).contentType? = item.contentType? :=
    Metadata.first?_congr htype
  cases h with
  | address _ haddress => exact .address hneeds haddress
  | content _ haddress hcontent =>
    rw [← hsame] at hcontent
    exact .content hneeds haddress hcontent

theorem courseOfRead_of_cannotRead (h : r.CannotRead item reason) (flags : Flags)
    (now : Time.Instant) :
    let m := (r.recognise item).value.2
    r.courseOfRead flags { item with metadata := m } now =
      .unreadable (m.erase Key.isSitemap) reason := by
  intro m
  have htype : (m.erase Key.isSitemap).first? Key.contentType = item.contentType? :=
    Metadata.first?_congr (r.values_erase_recognise item (by decide))
  unfold courseOfRead
  cases h with
  | address _ haddress => simp only [haddress]
  | content _ haddress hcontent => simp only [haddress, htype, hcontent]

end Resolver

end Sitemap

/-- The keys that a failure changes. -/
def Key.failures : List String := [errorSource, errorMessage, numLinks]

/-- The record tells that an address failed at a stage, on top of some metadata, and counts no
links. -/
structure Record.TellsFailure (record : Record) (url : String) (stage : Stage) (message : String)
    (m : Metadata) : Prop where
  url : record.url = url
  status : record.status = .error
  source : record.metadata.values Key.errorSource = [stage.name]
  message : record.metadata.values Key.errorMessage = [message]
  numLinks : record.metadata.values Key.numLinks = []
  rest : record.metadata.rest Key.failures = m.rest Key.failures

theorem Record.tellsFailure_failure (url : String) (m : Metadata) (stage : Stage)
    (message : String) :
    (Record.failure url m stage message).TellsFailure url stage message m := by
  have hsource : Key.errorSource ≠ Key.errorMessage ∧ Key.errorSource ≠ Key.numLinks := by decide
  have hmessage : Key.errorMessage ≠ Key.numLinks := by decide
  constructor
  · rfl
  · rfl
  · simp [failure, hsource]
  · simp [failure, hmessage]
  · simp [failure]
  · simp only [failure]
    rw [Metadata.rest_erase _ (by decide), Metadata.rest_set _ (by decide),
      Metadata.rest_set _ (by decide)]

namespace ParseFilter

/-- A chain that fails stops at one of its filters: those in front of it ran to their end, and what
it left itself is what the chain leaves. -/
theorem exists_of_runAll_failure {url : String} {content : Bytes} {filters : List ParseFilter}
    {found left : Parsed} {failure : FilterFailure}
    (h : runAll url content filters found = (left, some failure)) :
    ∃ before failing after ran, filters = before ++ failing :: after ∧
      runAll url content before found = (ran, none) ∧
      failing.run url content ran = (left, some failure.message) ∧
      failing.name = failure.filter := by
  induction filters generalizing found with
  | nil => cases h
  | cons filter rest ih =>
    cases hrun : filter.run url content found with
    | mk next message? =>
      cases message? with
      | some message =>
        rw [runAll, hrun] at h
        cases h
        exact ⟨[], filter, rest, found, rfl, rfl, hrun, rfl⟩
      | none =>
        rw [runAll, hrun] at h
        obtain ⟨before, failing, after, ran, hfilters, hbefore, hfails⟩ := ih h
        refine ⟨filter :: before, failing, after, ran, by rw [hfilters]; rfl, ?_, hfails⟩
        rw [runAll, hrun]
        exact hbefore

end ParseFilter

namespace Course

/-- The filters at the end of a course, and what they get. -/
def filtering? (p : Pipeline) : Course → Option (List ParseFilter × Parsed)
  | sitemap _ _ found => some (p.sitemaps.filters, found)
  | feed m => some (p.feeds.filters, ⟨m, []⟩)
  | _ => none

theorem outcome_of_runAll_failure {p : Pipeline} {item : WorkItem} {course : Course}
    {filters : List ParseFilter} {found left : Parsed} {failure : FilterFailure}
    (hcourse : course.filtering? p = some (filters, found))
    (hfails : ParseFilter.runAll item.url item.content filters found = (left, some failure)) :
    course.outcome p item = .handled (Record.failure item.url left.metadata .contentFiltering
      s!"Exception while running parse filters on {item.url}: {failure.toText}") [] := by
  cases course with
  | page m => cases hcourse
  | acknowledged m => cases hcourse
  | unreadable m reason => cases hcourse
  | sitemap flags kind parsed =>
    cases hcourse
    simp only [outcome, hfails]
    rfl
  | feed m =>
    cases hcourse
    simp only [outcome, hfails]
    rfl

end Course

namespace FeedClassifier

theorem marked_of_classify {f : FeedClassifier} {item : WorkItem} {marked : Metadata}
    (h : (f.classify item).value = some marked) :
    item.metadata.flag Key.isFeed = true ∧ marked = item.metadata ∨
      marked = item.metadata.setFlag Key.isFeed true := by
  unfold classify at h
  split at h
  · rename_i hflag
    cases h
    exact .inl ⟨hflag, rfl⟩
  · split at h
    · cases h
      exact .inr rfl
    · split at h
      · cases h
        exact .inr rfl
      · cases h

end FeedClassifier

namespace Pipeline

open Sitemap (Flags)

/-- The filters get the metadata of a sitemap as the verdict left it, without the mark of a plain
one, and that of a feed as it came, but for its mark. -/
theorem metadata_of_filtering? {p : Pipeline} {item : WorkItem} {now : Time.Instant}
    {filters : List ParseFilter} {found : Parsed}
    (h : (p.course item now).filtering? p = some (filters, found)) :
    let seen := Flags.after item.metadata (p.sitemaps.sniff? item.content)
    (filters = p.sitemaps.filters ∧ found.metadata = seen.2.erase Key.isSitemap) ∨
      (filters = p.feeds.filters ∧ (found.metadata = item.metadata ∨
        found.metadata = item.metadata.setFlag Key.isFeed true)) := by
  intro seen
  unfold course at h
  rw [p.sitemaps.value_recognise] at h
  by_cases hneeds : seen.1.needsReading = true
  · left
    rw [if_pos hneeds, Sitemap.Resolver.courseOfRead] at h
    split at h
    · cases h
    · simp only at h
      split at h
      · cases h
      · cases h
        exact ⟨rfl, rfl⟩
  · right
    rw [if_neg hneeds] at h
    by_cases hsitemap : seen.1.sitemap = true
    · rw [if_pos hsitemap] at h
      cases h
    · rw [if_neg hsitemap] at h
      -- Any verdict would have made the item a sitemap.
      have hseen : seen.2 = item.metadata := by
        cases hsniff : p.sitemaps.sniff? item.content with
        | none => simp [seen, hsniff, Flags.after]
        | some verdict => exact absurd (by simp [seen, hsniff, Flags.sitemap_after]) hsitemap
      rw [hseen] at h
      cases hclassify : (p.feeds.classify item).value with
      | none =>
        rw [hclassify] at h
        cases h
      | some marked =>
        rw [hclassify] at h
        cases h
        exact ⟨rfl, (FeedClassifier.marked_of_classify hclassify).imp And.right id⟩

theorem process_of_cannotRead {p : Pipeline} {item : WorkItem} {reason : String}
    (h : p.sitemaps.CannotRead item reason) (now : Time.Instant) :
    let m := (Flags.after item.metadata (p.sitemaps.sniff? item.content)).2.erase Key.isSitemap
    let record := Record.failure item.url m .sitemapParsing
      s!"Exception while parsing {item.url}: {reason}"
    (p.process item now).value = .handled record [] ∧
      (p.sitemaps.process item now).value = .handled record [] := by
  intro m record
  have hneeds := h.needsReading
  have hread := fun flags => Sitemap.Resolver.courseOfRead_of_cannotRead h flags now
  rw [p.sitemaps.value_recognise] at hneeds hread
  have hresolved : (p.sitemaps.process item now).value = .handled record [] := by
    rw [Sitemap.Resolver.value_process, Sitemap.Resolver.course, p.sitemaps.value_recognise]
    simp only [hneeds, if_true, hread]
    rfl
  exact ⟨value_process_of_handled hresolved, hresolved⟩

section

variable {p : Pipeline} {item : WorkItem} {reason : String} {record : Record} {message : String}
  (hrecord : record.TellsFailure item.url .sitemapParsing message
    ((Flags.after item.metadata (p.sitemaps.sniff? item.content)).2.erase Key.isSitemap))

include hrecord

theorem values_of_unreadable {key : String} (hfailures : key ∉ Key.failures)
    (hsitemap : key ≠ Key.isSitemap) :
    record.metadata.values key =
      (Flags.after item.metadata (p.sitemaps.sniff? item.content)).2.values key := by
  rw [Metadata.values_eq_of_rest_eq hrecord.rest hfailures, Metadata.values_erase, if_neg hsitemap]

theorem values_isSitemap_of_unreadable : record.metadata.values Key.isSitemap = [] := by
  rw [Metadata.values_eq_of_rest_eq hrecord.rest (by decide), Metadata.values_erase, if_pos rfl]

theorem flags_of_unreadable :
    Flags.ofMetadata record.metadata =
      { (Flags.after item.metadata (p.sitemaps.sniff? item.content)).1 with sitemap := false } := by
  have hplain : record.metadata.flag Key.isSitemap = false := by
    have hnone := (Metadata.first?_eq_none_iff _ _).mpr (values_isSitemap_of_unreadable hrecord)
    rw [Metadata.flag, hnone]
    rfl
  have hkept (key : String) (hfailures : key ∉ Key.failures) (hsitemap : key ≠ Key.isSitemap) :=
    Metadata.flag_congr (values_of_unreadable hrecord hfailures hsitemap)
  have hnews := hkept Key.isSitemapNews (by decide) (by decide)
  have hindex := hkept Key.isSitemapIndex (by decide) (by decide)
  have hverified := hkept Key.isSitemapVerified (by decide) (by decide)
  rw [← Flags.ofMetadata_after]
  simp only [Flags.ofMetadata, hplain, hnews, hindex, hverified]

theorem rest_of_unreadable :
    record.metadata.rest (Flags.marks ++ Key.failures) =
      item.metadata.rest (Flags.marks ++ Key.failures) := by
  have hfailures := Metadata.rest_mono hrecord.rest
    (List.subset_append_right Flags.marks Key.failures)
  have hmarks := Metadata.rest_mono
    (Flags.rest_after item.metadata (p.sitemaps.sniff? item.content))
    (List.subset_append_left Flags.marks Key.failures)
  rw [hfailures, Metadata.rest_erase _ (by decide), hmarks]

/-- With the metadata of its record the item still has to be read, and still cannot be. -/
theorem cannotRead_again (h : p.sitemaps.CannotRead item reason) :
    (Flags.ofMetadata record.metadata).needsReading = true ∧
      p.sitemaps.CannotRead { item with metadata := record.metadata } reason := by
  have hflags := flags_of_unreadable hrecord
  have hneeds := h.needsReading
  rw [p.sitemaps.value_recognise] at hneeds
  have hmarked : (Flags.ofMetadata record.metadata).needsReading = true := by
    rw [hflags]
    exact hneeds
  refine ⟨hmarked, h.of_metadata ?_ ?_⟩
  · rw [p.sitemaps.value_recognise]
    change (Flags.after record.metadata (p.sitemaps.sniff? item.content)).1.needsReading = true
    have hverified : record.metadata.flag Key.isSitemapVerified =
        item.metadata.flag Key.isSitemapVerified := by
      rw [← Flags.verified_after item.metadata (p.sitemaps.sniff? item.content)]
      exact congrArg Flags.verified hflags
    rw [Flags.needsReading_after] at hneeds ⊢
    -- The content gets the same verdict again; only a plain sitemap is read for a mark it keeps.
    cases hsniff : p.sitemaps.sniff? item.content with
    | none => exact hmarked
    | some verdict =>
      rw [hsniff] at hneeds
      cases verdict with
      | news => rfl
      | index => rfl
      | sitemap => exact hverified.trans hneeds
  · exact Metadata.values_eq_of_rest_eq (rest_of_unreadable hrecord) (by decide)

end

/-- A failure leaves everything alone that is not about it. An item that cannot be read is told as
an error without links. Its record has the marks that the verdict on the content left, but not that
of a plain sitemap, so that the item has to be read again; all other keys keep their values and
their order. An item on which a filter fails is told as an error without links as well. Its record
has what the filters left, up to the one that failed. These got the metadata of a sitemap as the
verdict left it, without the mark of a plain one, and that of a feed with its mark. -/
theorem process_of_failure (p : Pipeline) (item : WorkItem) (now : Time.Instant) :
    let seen := Flags.after item.metadata (p.sitemaps.sniff? item.content)
    (∀ reason, p.sitemaps.CannotRead item reason → ∃ record,
      (p.process item now).value = .handled record [] ∧
      (p.sitemaps.process item now).value = .handled record [] ∧
      record.TellsFailure item.url .sitemapParsing
        s!"Exception while parsing {item.url}: {reason}" (seen.2.erase Key.isSitemap) ∧
      record.metadata.values Key.isSitemap = [] ∧
      (∀ key ∈ [Key.isSitemapNews, Key.isSitemapIndex, Key.isSitemapVerified],
        record.metadata.values key = seen.2.values key) ∧
      Flags.ofMetadata record.metadata = { seen.1 with sitemap := false } ∧
      (Flags.ofMetadata record.metadata).needsReading = true ∧
      p.sitemaps.CannotRead { item with metadata := record.metadata } reason ∧
      record.metadata.rest (Flags.marks ++ Key.failures) =
        item.metadata.rest (Flags.marks ++ Key.failures)) ∧
    ∀ filters found left failure,
      (p.course item now).filtering? p = some (filters, found) →
      ParseFilter.runAll item.url item.content filters found = (left, some failure) →
      ∃ record, (p.process item now).value = .handled record [] ∧
        record.TellsFailure item.url .contentFiltering
          s!"Exception while running parse filters on {item.url}: {failure.toText}"
          left.metadata ∧
        (∃ before failing after ran, filters = before ++ failing :: after ∧
          ParseFilter.runAll item.url item.content before found = (ran, none) ∧
          failing.run item.url item.content ran = (left, some failure.message) ∧
          failing.name = failure.filter) ∧
        ((filters = p.sitemaps.filters ∧ found.metadata = seen.2.erase Key.isSitemap ∧
            found.metadata.rest Flags.marks = item.metadata.rest Flags.marks) ∨
          (filters = p.feeds.filters ∧ (found.metadata = item.metadata ∨
            found.metadata = item.metadata.setFlag Key.isFeed true))) := by
  intro seen
  constructor
  · intro reason hcannot
    obtain ⟨hprocess, hresolve⟩ := process_of_cannotRead hcannot now
    have hrecord := Record.tellsFailure_failure item.url (seen.2.erase Key.isSitemap)
      .sitemapParsing s!"Exception while parsing {item.url}: {reason}"
    obtain ⟨hneeds, hagain⟩ := cannotRead_again hrecord hcannot
    refine ⟨_, hprocess, hresolve, hrecord, values_isSitemap_of_unreadable hrecord, ?_,
      flags_of_unreadable hrecord, hneeds, hagain, rest_of_unreadable hrecord⟩
    intro key hkey
    have hkeys : ∀ key ∈ [Key.isSitemapNews, Key.isSitemapIndex, Key.isSitemapVerified],
        key ∉ Key.failures ∧ key ≠ Key.isSitemap := by
      decide
    obtain ⟨hfailures, hsitemap⟩ := hkeys key hkey
    exact values_of_unreadable hrecord hfailures hsitemap
  · intro filters found left failure hcourse hfails
    have houtcome := Course.outcome_of_runAll_failure hcourse hfails
    rw [← value_process] at houtcome
    refine ⟨_, houtcome, Record.tellsFailure_failure _ _ _ _,
      ParseFilter.exists_of_runAll_failure hfails, ?_⟩
    obtain ⟨hfilters, hfound⟩ | hfeed := metadata_of_filtering? hcourse
    · refine .inl ⟨hfilters, hfound, ?_⟩
      rw [hfound, Metadata.rest_erase _ (by decide)]
      exact Flags.rest_after _ _
    · exact .inr hfeed

/-- A pipeline whose filters sign a document and then fail. -/
def failingPipeline : Pipeline :=
  let chain := ParseFilter.standard ++ [.failing "last" "broken"]
  ⟨⟨{ sniffsContent := true }, {}, chain⟩, ⟨{}, chain⟩⟩

/-- An item that was signed before, and had links. -/
def signedItem (text : String) : WorkItem where
  url := "http://[::1]/"
  content := Bytes.ofString text
  metadata := .ofPairs [(Key.numLinks, "7"), (Key.signature, "a")]

/-- What looks like an index but is none keeps its signature. An index and a feed on which the last
filter fails are signed, and keep the signature as the old one. None has links any more. -/
theorem process_of_failure_atEachStage :
    let p := failingPipeline
    let now : Time.Instant := ⟨0, 0, 0, by decide, by decide, by decide⟩
    (∃ record, (p.process (signedItem "<html><sitemapindex") now).value = .handled record [] ∧
      record.status = .error ∧ record.metadata.values Key.signature = ["a"] ∧
      record.metadata.values Key.isSitemapIndex = ["true"] ∧
      record.metadata.values Key.numLinks = []) ∧
    ∀ text ∈ ["<sitemapindex/>", "<rss/>"], ∃ record,
      (p.process (signedItem text) now).value = .handled record [] ∧
        record.metadata.values Key.errorSource = ["content filtering"] ∧
        record.metadata.values Key.signatureOld = ["a"] ∧
        record.metadata.values Key.numLinks = [] := by
  intro p now
  constructor
  · let item := signedItem "<html><sitemapindex"
    have hrun : (p.sitemaps.recognise item).value.1.needsReading = true ∧
        (Sitemap.read p.sitemaps.settings.allowPartial item.url item.content
          item.contentType?).value.toOption.isNone = true ∧
        (Flags.after item.metadata (p.sitemaps.sniff? item.content)).2.values
          Key.isSitemapIndex = ["true"] := by
      decide +kernel
    obtain ⟨hneeds, hnone, hindex⟩ := hrun
    obtain ⟨source, sitemap, hreads⟩ | ⟨reason, hcannot⟩ :=
      Sitemap.Resolver.exists_reads_or_cannotRead hneeds
    · rw [hreads.sitemap] at hnone
      cases hnone
    · obtain ⟨record, hprocess, -, htells, -, hmarks, -, -, -, hrest⟩ :=
        (p.process_of_failure item now).1 reason hcannot
      refine ⟨record, hprocess, htells.status, ?_, ?_, htells.numLinks⟩
      · rw [Metadata.values_eq_of_rest_eq hrest (by decide)]
        decide
      · rw [hmarks _ (by decide), hindex]
  · let stop (item : WorkItem) := ((p.course item now).filtering? p).map fun filtering =>
      ParseFilter.runAll item.url item.content filtering.1 filtering.2
    have hstops : ∀ text ∈ ["<sitemapindex/>", "<rss/>"],
        (stop (signedItem text)).map (fun (left, failure) =>
          (left.metadata.values Key.signatureOld, failure.isSome)) = some (["a"], true) := by
      decide +kernel
    intro text htext
    have hstop := hstops text htext
    obtain ⟨⟨left, failure?⟩, hleft, hkept⟩ := Option.map_eq_some_iff.mp hstop
    obtain ⟨⟨filters, found⟩, hcourse, hrun⟩ := Option.map_eq_some_iff.mp hleft
    obtain ⟨hold, hfails⟩ := Prod.mk.inj hkept
    obtain ⟨failure, rfl⟩ := Option.isSome_iff_exists.mp hfails
    obtain ⟨record, hprocess, htells, -, -⟩ :=
      (p.process_of_failure (signedItem text) now).2 filters found left failure hcourse hrun
    refine ⟨record, hprocess, htells.source, ?_, htells.numLinks⟩
    rw [Metadata.values_eq_of_rest_eq htells.rest (by decide)]
    exact hold

end Pipeline

end Recrawl
