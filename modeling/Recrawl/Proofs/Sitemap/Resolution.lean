import Recrawl.Proofs.Filter.Chain
import Recrawl.Proofs.Pipeline.Course
import Recrawl.Proofs.Sitemap.Links
import Recrawl.Proofs.Sitemap.Recognition

/-!
Resolving a sitemap from end to end. An item that is read as an index or as a list of pages
is told as fetched, with the links of its recent entries in order; the filters of the
settings change neither that nor the flags, unless their keys are those of a flag.
-/

namespace Recrawl

namespace Sitemap.Resolver

/-- The item has to be read, its address is one, and its content is this sitemap. -/
structure Reads (r : Resolver) (item : WorkItem) (source : Url) (sitemap : Sitemap) : Prop where
  needsReading : (r.recognise item).value.1.needsReading = true
  source : Url.parse item.url = .ok source
  sitemap : (Sitemap.read r.settings.allowPartial item.url item.content
    item.contentType?).value = .ok sitemap

/-- What can be told of the content that is read tells that it is read. -/
theorem exists_reads {α : Type} (r : Resolver) (item : WorkItem) (view : Sitemap → α) (a : α)
    (hneeds : (r.recognise item).value.1.needsReading = true)
    (hsource : (Url.parse item.url).toOption.isSome = true)
    (hview : (Sitemap.read r.settings.allowPartial item.url item.content
      item.contentType?).value.toOption.map view = some a) :
    ∃ source sitemap, r.Reads item source sitemap ∧ view sitemap = a := by
  cases hurl : Url.parse item.url with
  | error fault =>
    rw [hurl] at hsource
    cases hsource
  | ok source =>
    cases hread : (Sitemap.read r.settings.allowPartial item.url item.content
        item.contentType?).value with
    | error fault =>
      rw [hread] at hview
      cases hview
    | ok sitemap =>
      rw [hread] at hview
      cases hview
      exact ⟨source, sitemap, ⟨hneeds, hurl, hread⟩, rfl⟩

/-- A look at the content does not change whether the item is verified. -/
theorem verified_recognise (r : Resolver) (item : WorkItem) :
    (r.recognise item).value.1.verified = item.metadata.flag Key.isSitemapVerified := by
  rw [value_recognise, Flags.verified_after]

/-- The values that a reading does not touch are those of the item. -/
theorem values_erase_recognise (r : Resolver) (item : WorkItem) {key : String}
    (h : key ∉ Key.classifying) :
    ((r.recognise item).value.2.erase Key.isSitemap).values key = item.metadata.values key := by
  rw [Metadata.values_erase, if_neg fun e => h (by simp [e, Key.classifying])]
  exact r.values_recognise item h

/-- The course of an item that is read ends at the filters, which get its metadata without the mark
of a plain sitemap, and its links. -/
theorem course_of_reads {r : Resolver} {item : WorkItem} {source : Url} {sitemap : Sitemap}
    (h : r.Reads item source sitemap) (now : Time.Instant) :
    let seen := (r.recognise item).value
    let parent := seen.2.erase Key.isSitemap
    r.course item now =
      .sitemap seen.1 sitemap.kind ⟨parent, r.linksOf source parent now sitemap⟩ := by
  intro seen parent
  have htype : parent.first? Key.contentType = item.contentType? :=
    Metadata.first?_congr (r.values_erase_recognise item (by decide))
  unfold course courseOfRead
  simp only [h.needsReading, if_true, h.source]
  rw [show (seen.2.erase Key.isSitemap).first? Key.contentType = _ from htype, h.sitemap]

theorem window_of_ofSettings {sitemaps : SitemapSettings} {feeds : FeedSettings}
    {links : LinkSettings} {filters : FilterSettings} {p : Pipeline}
    (hp : Pipeline.ofSettings sitemaps feeds links filters = .ok p) (now : Time.Instant) :
    p.sitemaps.window now = ⟨sitemaps.recentHours, now⟩ := by
  obtain ⟨chain, rules, -, -, rfl⟩ := Pipeline.parts_of_ofSettings hp
  rfl

/-- With the filters of some settings, an item that is read is handled; the filters leave its links
as they are, and its metadata but for their own two keys. -/
theorem finish_of_reads {sitemaps : SitemapSettings} {feeds : FeedSettings}
    {links : LinkSettings} {filters : FilterSettings} {p : Pipeline}
    (hp : Pipeline.ofSettings sitemaps feeds links filters = .ok p)
    {item : WorkItem} {source : Url} {sitemap : Sitemap}
    (h : p.sitemaps.Reads item source sitemap) (now : Time.Instant) :
    let seen := (p.sitemaps.recognise item).value
    let parent := seen.2.erase Key.isSitemap
    ∃ metadata,
      (p.sitemaps.process item now).value = finish sitemap.kind seen.1 item.url
        ⟨metadata, p.sitemaps.linksOf source parent now sitemap⟩ ∧
      ∀ key, key ≠ filters.signatureKey → key ≠ filters.copyKey →
        metadata.values key = parent.values key := by
  intro seen parent
  obtain ⟨chain, rules, hchain, -, rfl⟩ := Pipeline.parts_of_ofSettings hp
  obtain ⟨metadata, hrun, hkept⟩ := ParseFilter.runAll_of_ofSettings hchain item.url item.content
    ⟨parent, linksOf ⟨sitemaps, rules, chain⟩ source parent now sitemap⟩
  refine ⟨metadata, ?_, hkept⟩
  rw [value_process, course_of_reads h now, Course.outcome, hrun]

/-- The filters do not mark an item that is read as a plain sitemap. -/
theorem exists_finish_of_reads {sitemaps : SitemapSettings} {feeds : FeedSettings}
    {links : LinkSettings} {filters : FilterSettings} {p : Pipeline}
    (hp : Pipeline.ofSettings sitemaps feeds links filters = .ok p)
    (hsignature : filters.signatureKey ≠ Key.isSitemap) (hcopy : filters.copyKey ≠ Key.isSitemap)
    {item : WorkItem} {source : Url} {sitemap : Sitemap}
    (h : p.sitemaps.Reads item source sitemap) (now : Time.Instant) :
    ∃ flags parent metadata,
      (p.sitemaps.process item now).value = finish sitemap.kind flags item.url
        ⟨metadata, p.sitemaps.linksOf source parent now sitemap⟩ ∧
      flags.verified = item.metadata.flag Key.isSitemapVerified ∧
      metadata.values Key.isSitemap = [] := by
  obtain ⟨metadata, hprocess, hkept⟩ := finish_of_reads hp h now
  refine ⟨_, _, metadata, hprocess, p.sitemaps.verified_recognise item, ?_⟩
  rw [hkept _ hsignature.symm hcopy.symm]
  simp

theorem finish_index (flags : Flags) (url : String) (parsed : Parsed) :
    finish .index flags url parsed =
      .handled ⟨url, .fetched, (parsed.metadata.setFlag Key.isSitemapIndex true).set Key.numLinks
        (toString parsed.links.length)⟩ (parsed.links.map (markLink flags.verified)) := by
  simp [finish]

theorem isTagged_markLink (verified : Bool) {link : Link} (h : IsTagged true link) :
    IsTagged true (markLink verified link) := by
  have hsitemap : Key.isSitemap ≠ Key.isSitemapVerified := by decide
  have hnews : Key.isSitemapNews ≠ Key.isSitemapVerified := by decide
  have hother : Key.isSitemapNews ≠ Key.isSitemap := by decide
  cases verified with
  | false => exact ⟨by simp [markLink], by simpa [markLink, hother] using h.2⟩
  | true => exact ⟨by simp [markLink, hsitemap], by simpa [markLink, hnews, hother] using h.2⟩

/-- An index that is read is told as fetched, with one link for each recent entry whose location the
filters accept, in the order of the index. The links are to sitemaps, verified ones if the index is
verified, and the record counts them. -/
theorem process_of_reads_index {sitemaps : SitemapSettings} {feeds : FeedSettings}
    {links : LinkSettings} {filters : FilterSettings} {p : Pipeline}
    (hp : Pipeline.ofSettings sitemaps feeds links filters = .ok p)
    (hsignature : filters.signatureKey ≠ Key.isSitemap) (hcopy : filters.copyKey ≠ Key.isSitemap)
    {item : WorkItem} {source : Url} {sitemap : Sitemap}
    (hreads : p.sitemaps.Reads item source sitemap) (hkind : sitemap.kind = .index)
    (now : Time.Instant) :
    let window : Window := ⟨sitemaps.recentHours, now⟩
    (∃ record found, (p.sitemaps.process item now).value = .handled record found ∧
      record.url = item.url ∧ record.status = .fetched ∧
      found.map Link.target =
        indexTargets (UrlFilter.applyAll p.sitemaps.links.filters) window sitemap.entries ∧
      (∀ link ∈ found, link.metadata.values Key.isSitemap = ["true"] ∧
        link.metadata.values Key.isSitemapNews = ["false"] ∧
        (item.metadata.flag Key.isSitemapVerified = true →
          link.metadata.values Key.isSitemapVerified = ["true"])) ∧
      record.metadata.values Key.isSitemapIndex = ["true"] ∧
      record.metadata.values Key.isSitemap = [] ∧
      record.metadata.values Key.numLinks = [toString found.length]) ∧
    ∀ date, window.admits date = true ↔ sitemaps.recentHours < 0 ∨ date = none ∨
      ∃ d, date = some d ∧
        ∀ cutoff, now.IsHoursBefore cutoff sitemaps.recentHours → cutoff.le d = true := by
  intro window
  refine ⟨?_, fun date => window.admits_iff date⟩
  obtain ⟨flags, parent, metadata, hprocess, hverified, hsitemap⟩ :=
    exists_finish_of_reads hp hsignature hcopy hreads now
  have htargets := p.sitemaps.targets_indexLinks source parent now sitemap.entries
  have htagged (link : Link)
      (h : link ∈ p.sitemaps.indexLinks source parent now sitemap.entries) :=
    isTagged_markLink flags.verified (p.sitemaps.isTagged_of_mem_indexLinks source parent now h)
  rw [window_of_ofSettings hp] at htargets
  rw [hkind, finish_index, linksOf, hkind] at hprocess
  have hindex : Key.isSitemap ≠ Key.isSitemapIndex ∧ Key.isSitemap ≠ Key.numLinks ∧
      Key.isSitemapIndex ≠ Key.numLinks := by decide
  refine ⟨_, _, hprocess, rfl, rfl, ?_, ?_, ?_, ?_, ?_⟩
  · rw [← htargets, List.map_map]
    rfl
  · intro link hlink
    obtain ⟨found, hfound, rfl⟩ := List.mem_map.mp hlink
    refine ⟨(htagged found hfound).1, (htagged found hfound).2, ?_⟩
    intro hflag
    simp [markLink, hverified, hflag]
  · simp [hindex]
  · simp [hindex, hsitemap]
  · simp

/-- A pipeline with default settings, but for those of sitemaps. -/
def standardPipeline (sitemaps : SitemapSettings) : Pipeline :=
  ⟨⟨sitemaps, {}, ParseFilter.standard⟩, ⟨{}, ParseFilter.standard⟩⟩

/-- A verified index of an old sitemap and of one without a date. -/
def verifiedIndex : WorkItem where
  url := "http://[::1]/"
  content := Bytes.ofString <|
    "<sitemapindex><sitemap><loc>http://[::1]/a</loc><lastmod>1970-01-01</lastmod></sitemap>" ++
    "<sitemap><loc>http://[::1]/b#c</loc></sitemap></sitemapindex>"
  metadata := .ofPairs [(Key.isSitemapVerified, "True"), (Key.isSitemap, "true")]

/-- Twelve hours later only the sitemap without a date is followed, without the fragment. -/
theorem process_of_reads_verifiedIndex :
    let p := standardPipeline { recentHours := 2 }
    let now : Time.Instant := ⟨0, 43200, 0, by decide, by decide, by decide⟩
    ∃ record found, (p.sitemaps.process verifiedIndex now).value = .handled record found ∧
      found.map Link.target = ["http://[::1]/b"] ∧
      (∀ link ∈ found, link.metadata.values Key.isSitemapVerified = ["true"]) ∧
      record.metadata.values Key.numLinks = ["1"] := by
  intro p now
  have hp : Pipeline.ofSettings { recentHours := 2 } {} {} {} = .ok p := rfl
  let targets (sitemap : Sitemap) :=
    indexTargets (UrlFilter.applyAll p.sitemaps.links.filters) ⟨2, now⟩ sitemap.entries
  obtain ⟨source, sitemap, hreads, hview⟩ := p.sitemaps.exists_reads verifiedIndex
    (fun sitemap => (sitemap.kind, targets sitemap)) (.index, ["http://[::1]/b"])
    (by decide +kernel) (by decide +kernel) (by decide +kernel)
  obtain ⟨hkind, htargets⟩ := Prod.mk.inj hview
  obtain ⟨⟨record, found, hprocess, -, -, hfound, htagged, -, -, hcount⟩, -⟩ :=
    process_of_reads_index hp (by decide) (by decide) hreads hkind now
  have hfollowed : found.map Link.target = ["http://[::1]/b"] := hfound.trans htargets
  refine ⟨record, found, hprocess, hfollowed, ?_, ?_⟩
  · intro link hlink
    exact (htagged link hlink).2.2 (by decide)
  · rw [hcount, ← List.length_map Link.target, hfollowed]
    rfl

theorem finish_urlSet (flags : Flags) (url : String) (parsed : Parsed) :
    finish .urlSet flags url parsed =
      .handled ⟨url, .fetched, (parsed.metadata.erase Key.isSitemapIndex).set Key.numLinks
        (toString parsed.links.length)⟩ parsed.links := by
  simp [finish]

/-- A list of pages that is read is told as fetched. For each entry that is recent with all its news
it has the links that the filters accept, first those of the alternates other than the page and then
that of the page. The links are to pages, and the record counts them. -/
theorem process_of_reads_urlSet {sitemaps : SitemapSettings} {feeds : FeedSettings}
    {links : LinkSettings} {filters : FilterSettings} {p : Pipeline}
    (hp : Pipeline.ofSettings sitemaps feeds links filters = .ok p)
    (hsignature : filters.signatureKey ≠ Key.isSitemap) (hcopy : filters.copyKey ≠ Key.isSitemap)
    {item : WorkItem} {source : Url} {sitemap : Sitemap}
    (hreads : p.sitemaps.Reads item source sitemap) (hkind : sitemap.kind = .urlSet)
    (now : Time.Instant) :
    let window : Window := ⟨sitemaps.recentHours, now⟩
    (∃ record found, (p.sitemaps.process item now).value = .handled record found ∧
      record.url = item.url ∧ record.status = .fetched ∧
      found.map Link.target =
        pageTargets (UrlFilter.applyAll p.sitemaps.links.filters) window sitemap.entries ∧
      (∀ link ∈ found, link.metadata.values Key.isSitemap = ["false"] ∧
        link.metadata.values Key.isSitemapNews = ["false"]) ∧
      record.metadata.values Key.isSitemapIndex = [] ∧
      record.metadata.values Key.isSitemap = [] ∧
      record.metadata.values Key.numLinks = [toString found.length]) ∧
    ∀ date, window.admits date = true ↔ sitemaps.recentHours < 0 ∨ date = none ∨
      ∃ d, date = some d ∧
        ∀ cutoff, now.IsHoursBefore cutoff sitemaps.recentHours → cutoff.le d = true := by
  intro window
  refine ⟨?_, fun date => window.admits_iff date⟩
  obtain ⟨flags, parent, metadata, hprocess, hverified, hsitemap⟩ :=
    exists_finish_of_reads hp hsignature hcopy hreads now
  have htargets := p.sitemaps.targets_pageLinks source parent now sitemap.entries
  have htagged (link : Link)
      (h : link ∈ p.sitemaps.pageLinks source parent now sitemap.entries) :=
    p.sitemaps.isTagged_of_mem_pageLinks source parent now h
  rw [window_of_ofSettings hp] at htargets
  rw [hkind, finish_urlSet, linksOf, hkind] at hprocess
  have hindex : Key.isSitemap ≠ Key.isSitemapIndex ∧ Key.isSitemap ≠ Key.numLinks ∧
      Key.isSitemapIndex ≠ Key.numLinks := by decide
  refine ⟨_, _, hprocess, rfl, rfl, htargets, htagged, ?_, ?_, ?_⟩
  · simp [hindex]
  · simp [hindex, hsitemap]
  · simp

/-- News of an old page, and of a page that names itself and another as its alternates. -/
def newsList : WorkItem where
  url := "http://[::1]/"
  content := Bytes.ofString <|
    "<urlset xmlns:x=\x22http://www.w3.org/1999/xhtml\x22><url><loc>http://[::1]/a</loc>" ++
    "<x:link rel=\x22alternate\x22 href=\x22http://[::1]/a\x22/>" ++
    "<x:link rel=\x22alternate\x22 href=\x22http://[::1]/b\x22/></url>" ++
    "<url><loc>http://[::1]/c</loc><lastmod>1970-01-01</lastmod></url></urlset>"
  metadata := .ofPairs [(Key.isSitemapNews, "true"), (Key.isSitemapIndex, "true")]

/-- Twelve hours later the other page is followed, and then the one that names it. -/
theorem process_of_reads_newsList :
    let p := standardPipeline { recentHours := 2 }
    let now : Time.Instant := ⟨0, 43200, 0, by decide, by decide, by decide⟩
    ∃ record found, (p.sitemaps.process newsList now).value = .handled record found ∧
      found.map Link.target = ["http://[::1]/b", "http://[::1]/a"] ∧
      record.metadata.values Key.isSitemapIndex = [] ∧
      record.metadata.values Key.numLinks = ["2"] := by
  intro p now
  have hp : Pipeline.ofSettings { recentHours := 2 } {} {} {} = .ok p := rfl
  let targets (sitemap : Sitemap) :=
    pageTargets (UrlFilter.applyAll p.sitemaps.links.filters) ⟨2, now⟩ sitemap.entries
  obtain ⟨source, sitemap, hreads, hview⟩ := p.sitemaps.exists_reads newsList
    (fun sitemap => (sitemap.kind, targets sitemap))
    (.urlSet, ["http://[::1]/b", "http://[::1]/a"])
    (by decide +kernel) (by decide +kernel) (by decide +kernel)
  obtain ⟨hkind, htargets⟩ := Prod.mk.inj hview
  obtain ⟨⟨record, found, hprocess, -, -, hfound, -, hindex, -, hcount⟩, -⟩ :=
    process_of_reads_urlSet hp (by decide) (by decide) hreads hkind now
  have hfollowed : found.map Link.target = ["http://[::1]/b", "http://[::1]/a"] :=
    hfound.trans htargets
  refine ⟨record, found, hprocess, hfollowed, hindex, ?_⟩
  rw [hcount, ← List.length_map Link.target, hfollowed]
  rfl

end Sitemap.Resolver

end Recrawl
