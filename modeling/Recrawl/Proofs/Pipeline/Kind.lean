import Recrawl.Proofs.Pipeline.Failure
import Recrawl.Proofs.Pipeline.Page
import Recrawl.Proofs.Sitemap.Descent
import Recrawl.Proofs.Sitemap.Refetch

/-!
The kind that is told of an item, and what the stages did with it. The kind is read off the record:
first the mark of a feed, then those of an index and of news. The resolver settles the marks of a
sitemap, but leaves that of a feed alone, so that a sitemap that was a feed once is told as a feed.
-/

namespace Recrawl

namespace DocumentKind

theorem ofOutcome_eq_page_iff (outcome : Outcome) :
    ofOutcome outcome = .page ↔ ∃ passed, outcome = .passThrough passed := by
  cases outcome with
  | passThrough item => simp [ofOutcome]
  | handled record links =>
    simp only [ofOutcome, reduceCtorEq, exists_false, iff_false]
    repeat' split
    all_goals exact nofun

theorem ofOutcome_eq_error_iff (outcome : Outcome) :
    ofOutcome outcome = .error ↔
      ∃ record links, outcome = .handled record links ∧ record.status = .error := by
  cases outcome with
  | passThrough item => simp [ofOutcome]
  | handled record links =>
    by_cases hstatus : record.status = .error
    · simp [ofOutcome, hstatus]
    · simp only [ofOutcome, hstatus, beq_iff_eq, if_false, Outcome.handled.injEq]
      refine iff_of_false ?_ ?_
      · repeat' split
        all_goals exact nofun
      · rintro ⟨_, _, ⟨rfl, -⟩, herror⟩
        exact hstatus herror

/-- The kind of what was fetched follows from the marks. -/
theorem ofOutcome_of_fetched {record : Record} (h : record.status = .fetched)
    (links : List Link) :
    ofOutcome (.handled record links) =
      if record.metadata.flag Key.isFeed then feed
      else if record.metadata.flag Key.isSitemapIndex then sitemapIndex
      else if record.metadata.flag Key.isSitemapNews then newsSitemap
      else sitemap := by
  simp [ofOutcome, h]

end DocumentKind

namespace Sitemap.Resolver

variable {r : Resolver} {item : WorkItem}

/-- The item is a sitemap, but not one that has to be read. -/
structure Acknowledges (r : Resolver) (item : WorkItem) : Prop where
  needsReading : (r.recognise item).value.1.needsReading = false
  sitemap : (r.recognise item).value.1.sitemap = true

/-- The item was read, and as a list of pages. -/
def IsReadAsList (r : Resolver) (item : WorkItem) : Prop :=
  ∃ source sitemap, r.Reads item source sitemap ∧ sitemap.kind = .urlSet

theorem IsReadAsIndex.needsReading (h : r.IsReadAsIndex item) :
    (r.recognise item).value.1.needsReading = true := by
  obtain ⟨source, sitemap, hreads, -⟩ := h
  exact hreads.needsReading

theorem IsReadAsList.needsReading (h : r.IsReadAsList item) :
    (r.recognise item).value.1.needsReading = true := by
  obtain ⟨source, sitemap, hreads, -⟩ := h
  exact hreads.needsReading

theorem IsReadAsIndex.not_listed (h : r.IsReadAsIndex item) :
    ¬ (r.Acknowledges item ∨ r.IsReadAsList item) := by
  rintro (hacknowledged | ⟨source, sitemap, hreads, hlist⟩)
  · cases hacknowledged.needsReading.symm.trans h.needsReading
  · cases hlist.symm.trans (hreads.isReadAsIndex_iff.mp h)

/-- The resolver passes on exactly what it does not recognise, and that as it came. -/
theorem process_eq_passThrough_iff (p : Pipeline) (item passed : WorkItem) (now : Time.Instant) :
    (p.sitemaps.process item now).value = .passThrough passed ↔
      ((p.sitemaps.recognise item).value.1.needsReading = false ∧
        (p.sitemaps.recognise item).value.1.sitemap = false) ∧ passed = item := by
  have hafter := Flags.after_eq_default_iff item.metadata (p.sitemaps.sniff? item.content)
  rw [value_process, course, p.sitemaps.value_recognise]
  generalize hseen : Flags.after item.metadata (p.sitemaps.sniff? item.content) = seen at hafter ⊢
  obtain ⟨flags, metadata⟩ := seen
  cases hneeds : flags.needsReading with
  | true =>
    obtain ⟨record, links, hread⟩ :=
      exists_outcome_courseOfRead p flags { item with metadata := metadata } now
    rw [Course.outcome_withMetadata] at hread
    simp [hread]
  | false =>
    cases hsitemap : flags.sitemap with
    | true => simp [Course.outcome]
    | false =>
      -- Without a verdict the metadata is that of the item.
      rw [(hafter.mp ⟨hneeds, hsitemap⟩).1] at hseen
      cases hseen
      simp only [Bool.false_eq_true, if_false, Course.outcome, and_self, true_and,
        Outcome.passThrough.injEq]
      exact eq_comm

end Sitemap.Resolver

/-- The record tells the item as fetched, with the mark of a feed exactly if the item came with it,
and with that of an index as given. -/
structure Record.TellsSitemap (record : Record) (item : WorkItem) (isIndex : Bool) : Prop where
  status : record.status = .fetched
  feed : record.metadata.flag Key.isFeed = item.metadata.flag Key.isFeed
  index : record.metadata.flag Key.isSitemapIndex = isIndex

theorem Record.TellsSitemap.kind {record : Record} {item : WorkItem} {isIndex : Bool}
    (h : record.TellsSitemap item isIndex) (links : List Link) :
    DocumentKind.ofOutcome (.handled record links) =
      if item.metadata.flag Key.isFeed then .feed
      else if isIndex then .sitemapIndex
      else if record.metadata.flag Key.isSitemapNews then .newsSitemap
      else .sitemap := by
  rw [DocumentKind.ofOutcome_of_fetched h.status, h.feed, h.index]

theorem Sitemap.Resolver.tellsSitemap_finish (kind : Kind) (flags : Flags) {item : WorkItem}
    {parsed : Parsed} (h : parsed.metadata.flag Key.isFeed = item.metadata.flag Key.isFeed) :
    (finish kind flags item.url parsed).record.TellsSitemap item (match kind with
      | .index => true
      | .urlSet => false) := by
  refine ⟨rfl, ?_, flag_index_finish kind flags item.url parsed⟩
  rw [← h]
  exact Metadata.flag_congr (values_finish_of_ne kind flags _ _ (by decide) (by decide))

theorem FeedClassifier.flag_of_classify {f : FeedClassifier} {item : WorkItem} {marked : Metadata}
    (h : (f.classify item).value = some marked) : marked.flag Key.isFeed = true := by
  obtain ⟨hflag, rfl⟩ | rfl := marked_of_classify h
  · exact hflag
  · rw [Metadata.flag_setFlag, if_pos rfl]

namespace Pipeline

open Sitemap (Flags)

/-- The resolver passes the item on, and it is handled as a feed. -/
def IsFeed (p : Pipeline) (item : WorkItem) (now : Time.Instant) : Prop :=
  ∃ passed record links, (p.sitemaps.process item now).value = .passThrough passed ∧
    (p.feeds.process passed).value = .handled record links

variable {p : Pipeline} {item : WorkItem} {now : Time.Instant}

theorem IsFeed.unrecognised (h : p.IsFeed item now) :
    (p.sitemaps.recognise item).value.1.needsReading = false ∧
      (p.sitemaps.recognise item).value.1.sitemap = false := by
  obtain ⟨passed, record, links, hpassed, -⟩ := h
  exact ((Sitemap.Resolver.process_eq_passThrough_iff p item passed now).mp hpassed).1

theorem IsFeed.not_indexed (h : p.IsFeed item now) : ¬ p.sitemaps.IsReadAsIndex item := by
  intro hindexed
  cases hindexed.needsReading.symm.trans h.unrecognised.1

theorem IsFeed.not_listed (h : p.IsFeed item now) :
    ¬ (p.sitemaps.Acknowledges item ∨ p.sitemaps.IsReadAsList item) := by
  obtain ⟨hneeds, hsitemap⟩ := h.unrecognised
  rintro (hacknowledged | hread)
  · cases hsitemap.symm.trans hacknowledged.sitemap
  · cases hneeds.symm.trans hread.needsReading

/-- The verdict on an item leaves the mark of a feed alone. -/
theorem flag_isFeed_recognise (p : Pipeline) (item : WorkItem) :
    (p.sitemaps.recognise item).value.2.flag Key.isFeed = item.metadata.flag Key.isFeed := by
  have hrest := Flags.rest_after item.metadata (p.sitemaps.sniff? item.content)
  rw [p.sitemaps.value_recognise]
  exact Metadata.flag_congr (Metadata.values_eq_of_rest_eq hrest (by decide))

theorem process_of_acknowledges (h : p.sitemaps.Acknowledges item) (now : Time.Instant) :
    ∃ record, (p.process item now).value = .handled record [] ∧
      record.TellsSitemap item false := by
  have hneeds := h.needsReading
  have hsitemap := h.sitemap
  refine ⟨⟨item.url, .fetched, (p.sitemaps.recognise item).value.2⟩, ?_, rfl,
    p.flag_isFeed_recognise item, ?_⟩
  · rw [value_process, course]
    simp only [hneeds, hsitemap, if_true]
    rfl
  · -- What is not to be read is no index.
    have hflags := Flags.ofMetadata_after item.metadata (p.sitemaps.sniff? item.content)
    rw [← p.sitemaps.value_recognise] at hflags
    have hindex : (p.sitemaps.recognise item).value.1.index = false := by
      simp only [Flags.needsReading, Bool.or_eq_false_iff] at hneeds
      exact hneeds.1.2
    exact (congrArg Flags.index hflags).trans hindex

section

variable {sitemaps : SitemapSettings} {feeds : FeedSettings} {links : LinkSettings}
  {filters : FilterSettings} (hp : ofSettings sitemaps feeds links filters = .ok p)
  (hsignature : Key.isFeed ≠ filters.signatureKey) (hcopy : Key.isFeed ≠ filters.copyKey)

include hp hsignature hcopy

theorem process_of_reads {source : Url} {sitemap : Sitemap}
    (h : p.sitemaps.Reads item source sitemap) (now : Time.Instant) :
    ∃ record found, (p.process item now).value = .handled record found ∧
      record.TellsSitemap item (match sitemap.kind with
        | .index => true
        | .urlSet => false) := by
  obtain ⟨metadata, hprocess, hkept⟩ := Sitemap.Resolver.finish_of_reads hp h now
  have hfeed : metadata.flag Key.isFeed = item.metadata.flag Key.isFeed := by
    rw [Metadata.flag_congr (hkept _ hsignature hcopy), ← p.flag_isFeed_recognise item]
    exact Metadata.flag_congr (by rw [Metadata.values_erase, if_neg (by decide)])
  exact ⟨_, _, value_process_of_handled hprocess,
    Sitemap.Resolver.tellsSitemap_finish _ _ hfeed⟩

theorem kind_of_isFeed (h : p.IsFeed item now) :
    DocumentKind.ofOutcome (p.process item now).value = .feed := by
  obtain ⟨passed, record, found, hpassed, hhandled⟩ := h
  obtain ⟨chain, rules, hchain, -, rfl⟩ := parts_of_ofSettings hp
  rw [value_process_of_passThrough hpassed]
  rw [FeedClassifier.value_process] at hhandled ⊢
  cases hclassify : (FeedClassifier.classify ⟨feeds, chain⟩ passed).value with
  | none =>
    rw [hclassify] at hhandled
    cases hhandled
  | some marked =>
    obtain ⟨after, hrun, hkept⟩ :=
      ParseFilter.runAll_of_ofSettings hchain passed.url passed.content ⟨marked, []⟩
    have hmarked : after.flag Key.isFeed = true := by
      rw [Metadata.flag_congr (hkept _ hsignature hcopy)]
      exact FeedClassifier.flag_of_classify hclassify
    simp only [Course.outcome, hrun]
    rw [DocumentKind.ofOutcome_of_fetched rfl, if_pos hmarked]

theorem kind_of_isReadAsIndex (h : p.sitemaps.IsReadAsIndex item) (now : Time.Instant) :
    DocumentKind.ofOutcome (p.process item now).value =
      if item.metadata.flag Key.isFeed then .feed else .sitemapIndex := by
  obtain ⟨source, sitemap, hreads, hkind⟩ := h
  obtain ⟨record, found, hprocess, htells⟩ := process_of_reads hp hsignature hcopy hreads now
  rw [hkind] at htells
  rw [hprocess, htells.kind]
  rfl

theorem kind_of_listed (h : p.sitemaps.Acknowledges item ∨ p.sitemaps.IsReadAsList item)
    (now : Time.Instant) :
    let outcome := (p.process item now).value
    DocumentKind.ofOutcome outcome =
      if item.metadata.flag Key.isFeed then .feed
      else if outcome.record.metadata.flag Key.isSitemapNews then .newsSitemap
      else .sitemap := by
  intro outcome
  have htold : ∃ record found, outcome = .handled record found ∧
      record.TellsSitemap item false := by
    obtain hacknowledged | ⟨source, sitemap, hreads, hkind⟩ := h
    · obtain ⟨record, hprocess, htells⟩ := process_of_acknowledges hacknowledged now
      exact ⟨record, [], hprocess, htells⟩
    · obtain ⟨record, found, hprocess, htells⟩ := process_of_reads hp hsignature hcopy hreads now
      rw [hkind] at htells
      exact ⟨record, found, hprocess, htells⟩
  obtain ⟨record, found, houtcome, htells⟩ := htold
  rw [houtcome, htells.kind]
  rfl

end

theorem kind_of_neither (hfeed : ¬ p.IsFeed item now) (hindexed : ¬ p.sitemaps.IsReadAsIndex item)
    (hlisted : ¬ (p.sitemaps.Acknowledges item ∨ p.sitemaps.IsReadAsList item)) :
    DocumentKind.ofOutcome (p.process item now).value = .page ∨
      DocumentKind.ofOutcome (p.process item now).value = .error := by
  cases hneeds : (p.sitemaps.recognise item).value.1.needsReading with
  | true =>
    right
    obtain ⟨source, sitemap, hreads⟩ | ⟨reason, hcannot⟩ :=
      Sitemap.Resolver.exists_reads_or_cannotRead hneeds
    · cases hkind : sitemap.kind with
      | index => exact absurd ⟨source, sitemap, hreads, hkind⟩ hindexed
      | urlSet => exact absurd (.inr ⟨source, sitemap, hreads, hkind⟩) hlisted
    · rw [DocumentKind.ofOutcome_eq_error_iff]
      exact ⟨_, _, (process_of_cannotRead hcannot now).1, rfl⟩
  | false =>
    left
    cases hsitemap : (p.sitemaps.recognise item).value.1.sitemap with
    | true => exact absurd (.inl ⟨hneeds, hsitemap⟩) hlisted
    | false =>
      have hpassed := (Sitemap.Resolver.process_eq_passThrough_iff p item item now).mpr
        ⟨⟨hneeds, hsitemap⟩, rfl⟩
      rw [value_process_of_passThrough hpassed, DocumentKind.ofOutcome_eq_page_iff]
      cases hprocess : (p.feeds.process item).value with
      | passThrough passed => exact ⟨passed, rfl⟩
      | handled record found => exact absurd ⟨item, record, found, hpassed, hprocess⟩ hfeed

/-- The kind that is told of an item is what the stages did with it, but for one thing. It is a page
exactly if it passes through, and an error exactly if its record tells one. Unless the filters write
the mark of a feed, what the feed stage handles is told as a feed, what is read as an index as an
index, and what is acknowledged or read as a list of pages as a sitemap, of news if its record is
marked so. A sitemap that came with the mark of a feed is told as a feed all the same: the mark is
looked at first, and the resolver leaves it there. -/
theorem kind_process {sitemaps : SitemapSettings} {feeds : FeedSettings} {links : LinkSettings}
    {filters : FilterSettings} (hp : ofSettings sitemaps feeds links filters = .ok p)
    (item : WorkItem) (now : Time.Instant) :
    let outcome := (p.process item now).value
    let kind := DocumentKind.ofOutcome outcome
    let indexed := p.sitemaps.IsReadAsIndex item
    let listed := p.sitemaps.Acknowledges item ∨ p.sitemaps.IsReadAsList item
    let stale := item.metadata.flag Key.isFeed = true
    (kind = .page ↔ ∃ passed, outcome = .passThrough passed) ∧
    (kind = .error ↔ ∃ record found, outcome = .handled record found ∧ record.status = .error) ∧
    (Key.isFeed ≠ filters.signatureKey → Key.isFeed ≠ filters.copyKey →
      (kind = .feed ↔ p.IsFeed item now ∨ (indexed ∨ listed) ∧ stale) ∧
      (kind = .sitemapIndex ↔ indexed ∧ ¬ stale) ∧
      (kind = .newsSitemap ∨ kind = .sitemap ↔ listed ∧ ¬ stale) ∧
      (kind = .newsSitemap ↔ listed ∧ ¬ stale ∧
        outcome.record.metadata.flag Key.isSitemapNews = true)) := by
  intro outcome kind indexed listed stale
  refine ⟨DocumentKind.ofOutcome_eq_page_iff outcome, DocumentKind.ofOutcome_eq_error_iff outcome,
    ?_⟩
  intro hsignature hcopy
  by_cases hfeed : p.IsFeed item now
  · have hkind : kind = .feed := kind_of_isFeed hp hsignature hcopy hfeed
    simp [hkind, hfeed, hfeed.not_indexed, hfeed.not_listed, indexed, listed]
  by_cases hindexed : indexed
  · have hkind := kind_of_isReadAsIndex hp hsignature hcopy hindexed now
    have hnotListed : ¬ listed := hindexed.not_listed
    by_cases hstale : stale
    · have htold : kind = .feed := hkind.trans (if_pos hstale)
      simp [htold, hfeed, hindexed, hnotListed, hstale]
    · have htold : kind = .sitemapIndex := hkind.trans (if_neg hstale)
      simp [htold, hfeed, hindexed, hnotListed, hstale]
  by_cases hlisted : listed
  · have hkind := kind_of_listed hp hsignature hcopy hlisted now
    by_cases hstale : stale
    · have htold : kind = .feed := hkind.trans (if_pos hstale)
      simp [htold, hfeed, hindexed, hlisted, hstale]
    by_cases hnews : outcome.record.metadata.flag Key.isSitemapNews = true
    · have htold : kind = .newsSitemap := (hkind.trans (if_neg hstale)).trans (if_pos hnews)
      simp [htold, hfeed, hindexed, hlisted, hstale, hnews]
    · have htold : kind = .sitemap := (hkind.trans (if_neg hstale)).trans (if_neg hnews)
      simp [htold, hfeed, hindexed, hlisted, hstale, hnews]
  obtain hkind | hkind : kind = .page ∨ kind = .error := kind_of_neither hfeed hindexed hlisted
  · simp [hkind, hfeed, hindexed, hlisted]
  · simp [hkind, hfeed, hindexed, hlisted]

/-- An index that was a feed when it was fetched before. -/
def formerFeed : WorkItem where
  url := "http://[::1]/"
  content := Bytes.ofString "<sitemapindex/>"
  metadata := .ofPairs [(Key.isFeed, "true"), (Key.isSitemapIndex, "true")]

/-- It is read as an index, and told as a feed. -/
theorem kind_process_formerFeed :
    let p := Sitemap.Resolver.standardPipeline {}
    let now : Time.Instant := ⟨0, 0, 0, by decide, by decide, by decide⟩
    p.sitemaps.IsReadAsIndex formerFeed ∧
      DocumentKind.ofOutcome (p.process formerFeed now).value = .feed := by
  intro p now
  have hp : ofSettings {} {} {} {} = .ok p := rfl
  have hindexed : p.sitemaps.IsReadAsIndex formerFeed :=
    p.sitemaps.exists_reads formerFeed Sitemap.kind .index (by decide +kernel) (by decide +kernel)
      (by decide +kernel)
  obtain ⟨-, -, hstages⟩ := kind_process hp formerFeed now
  obtain ⟨hfeed, -⟩ := hstages (by decide) (by decide)
  exact ⟨hindexed, hfeed.mpr (.inr ⟨.inl hindexed, by decide⟩)⟩

end Pipeline

end Recrawl
