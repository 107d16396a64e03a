import Recrawl.Proofs.Link.Inheritance
import Recrawl.Proofs.Sitemap.Resolution

/-!
The links that are found in an item, and the metadata that they carry on. A link holds what the
rules make of the metadata of the item, key by key, but for the keys that tell what the link is
and when it is due; whether it is verified depends on the item and on its kind.
-/

namespace Recrawl

/-- The status that is told of an item, unless it passes through. -/
def Outcome.status? : Outcome → Option Status
  | passThrough _ => none
  | handled record _ => some record.status

namespace Course

def status? : Course → Option Status
  | page _ => none
  | unreadable _ _ => some .error
  | _ => some .fetched

def links : Course → List Link
  | sitemap flags .index found => found.links.map (Sitemap.Resolver.markLink flags.verified)
  | sitemap _ .urlSet found => found.links
  | _ => []

/-- The filters of some settings take no part in the status and the links. -/
theorem status?_and_links_outcome {sitemaps : SitemapSettings} {feeds : FeedSettings}
    {links : LinkSettings} {filters : FilterSettings} {p : Pipeline}
    (hp : Pipeline.ofSettings sitemaps feeds links filters = .ok p) (course : Course)
    (item : WorkItem) :
    (course.outcome p item).status? = course.status? ∧
      (course.outcome p item).links = course.links := by
  obtain ⟨chain, rules, hchain, -, rfl⟩ := Pipeline.parts_of_ofSettings hp
  cases course with
  | page m => exact ⟨rfl, rfl⟩
  | acknowledged m => exact ⟨rfl, rfl⟩
  | unreadable m reason => exact ⟨rfl, rfl⟩
  | feed m =>
    obtain ⟨after, hrun, -⟩ :=
      ParseFilter.runAll_of_ofSettings hchain item.url item.content ⟨m, []⟩
    rw [outcome, hrun]
    exact ⟨rfl, rfl⟩
  | sitemap flags kind found =>
    obtain ⟨after, hrun, -⟩ :=
      ParseFilter.runAll_of_ofSettings hchain item.url item.content found
    rw [outcome, hrun]
    cases kind with
    | index => exact ⟨rfl, rfl⟩
    | urlSet => exact ⟨rfl, rfl⟩

end Course

namespace Sitemap.Resolver

/-- Only an item that is read leads to links. -/
theorem exists_reads_of_mem_links_course {r : Resolver} {item : WorkItem} {now : Time.Instant}
    {link : Link} (h : link ∈ (r.course item now).links) :
    ∃ source sitemap, r.Reads item source sitemap := by
  have htype : ((r.recognise item).value.2.erase Key.isSitemap).first? Key.contentType =
      item.contentType? :=
    Metadata.first?_congr (r.values_erase_recognise item (by decide))
  unfold course at h
  by_cases hneeds : (r.recognise item).value.1.needsReading = true
  · simp only [hneeds, if_true, courseOfRead, htype] at h
    cases hsource : Url.parse item.url with
    | error fault =>
      rw [hsource] at h
      cases h
    | ok source =>
      cases hread : (Sitemap.read r.settings.allowPartial item.url item.content
          item.contentType?).value with
      | error fault =>
        simp only [hsource, hread] at h
        cases h
      | ok sitemap => exact ⟨source, sitemap, hneeds, hsource, hread⟩
  · rw [if_neg hneeds] at h
    split at h <;> cases h

/-- A link that is found in a document has what the rules make of its metadata, but for what the
link is said to be and for its delay. -/
theorem values_of_mem_linksOf (r : Resolver) (source : Url) (parent : Metadata)
    (now : Time.Instant) {sitemap : Sitemap} {link : Link}
    (h : link ∈ r.linksOf source parent now sitemap) {key : String}
    (hkey : key ∉ [Key.isSitemap, Key.isSitemapNews, Key.delay]) :
    link.metadata.values key = (r.links.transfer source.toString parent).values key := by
  simp only [List.mem_cons, List.not_mem_nil, or_false, not_or] at hkey
  obtain ⟨hsitemap, hnews, hdelay⟩ := hkey
  have htags (isSitemap : Bool) : ∀ tag ∈ tags isSitemap, key ≠ tag.1 := by
    simp [tags, hsitemap, hnews]
  unfold linksOf at h
  split at h
  · obtain ⟨place, target, made, hmade, rfl⟩ := r.exists_of_mem_indexLinks source parent now h
    rw [← LinkRules.values_of_link? hmade (htags true)]
    unfold withDelay
    simp only
    split
    · rw [Metadata.values_set, if_neg hdelay]
    · rfl
  · obtain ⟨target, hmade⟩ := r.exists_of_mem_pageLinks source parent now h
    exact LinkRules.values_of_link? hmade (htags false)

section

variable {sitemaps : SitemapSettings} {feeds : FeedSettings} {links : LinkSettings}
  {filters : FilterSettings} {p : Pipeline}
  (hp : Pipeline.ofSettings sitemaps feeds links filters = .ok p)
  {item : WorkItem} {now : Time.Instant} {link : Link}

include hp

theorem links_of_ofSettings :
    p.sitemaps.links.inherited = links.inherited ∧
      p.sitemaps.links.tracksPath = links.tracksPath ∧
      p.sitemaps.links.tracksDepth = links.tracksDepth := by
  obtain ⟨chain, rules, -, hrules, rfl⟩ := Pipeline.parts_of_ofSettings hp
  exact LinkRules.parts_of_ofSettings hrules

/-- A link of an item was found in the document that the item was read as, and marked if that is an
index. -/
theorem exists_of_mem_links (h : link ∈ (p.sitemaps.process item now).value.links) :
    ∃ source sitemap found, p.sitemaps.Reads item source sitemap ∧
      found ∈ p.sitemaps.linksOf source
        ((p.sitemaps.recognise item).value.2.erase Key.isSitemap) now sitemap ∧
      link = match sitemap.kind with
        | .index => markLink (item.metadata.flag Key.isSitemapVerified) found
        | .urlSet => found := by
  rw [value_process, (Course.status?_and_links_outcome hp _ item).2] at h
  obtain ⟨source, sitemap, hreads⟩ := exists_reads_of_mem_links_course h
  rw [course_of_reads hreads now] at h
  have hverified := p.sitemaps.verified_recognise item
  cases hkind : sitemap.kind with
  | index =>
    rw [hkind] at h
    obtain ⟨found, hfound, rfl⟩ := List.mem_map.mp h
    exact ⟨source, sitemap, found, hreads, hfound, by rw [hkind, hverified]⟩
  | urlSet =>
    rw [hkind] at h
    exact ⟨source, sitemap, link, hreads, h, by rw [hkind]⟩

/-- What a link tells of its way: at every key that neither classifies it nor delays it, it has the
values that the rules make of those of the item. -/
theorem values_of_mem_links (h : link ∈ (p.sitemaps.process item now).value.links) :
    ∃ source, Url.parse item.url = .ok source ∧ ∀ key, key ∉ Key.classifying →
      key ≠ Key.isSitemapVerified → key ≠ Key.delay →
        link.metadata.values key =
          (p.sitemaps.links.transfer source.toString item.metadata).values key := by
  obtain ⟨source, sitemap, found, hreads, hfound, hlink⟩ := exists_of_mem_links hp h
  refine ⟨source, hreads.source, ?_⟩
  intro key hclass hverified hdelay
  have hsitemap : key ≠ Key.isSitemap := fun e => hclass (by simp [e, Key.classifying])
  have hnews : key ≠ Key.isSitemapNews := fun e => hclass (by simp [e, Key.classifying])
  have hmarked : link.metadata.values key = found.metadata.values key := by
    rw [hlink]
    cases sitemap.kind with
    | index => cases hflag : item.metadata.flag Key.isSitemapVerified <;>
        simp [markLink, hsitemap, hverified]
    | urlSet => rfl
  rw [hmarked, p.sitemaps.values_of_mem_linksOf source _ now hfound
    (by simp [hsitemap, hnews, hdelay])]
  exact LinkRules.values_transfer_congr _ _ (p.sitemaps.values_erase_recognise item hclass)

/-- A link is verified exactly if it was found in a verified index, unless the mark is inherited. -/
theorem flag_verified_of_mem_links (hinherited : Key.isSitemapVerified ∉ links.inherited)
    (h : link ∈ (p.sitemaps.process item now).value.links) :
    ∃ source sitemap, p.sitemaps.Reads item source sitemap ∧
      (link.metadata.flag Key.isSitemapVerified = true ↔
        item.metadata.flag Key.isSitemapVerified = true ∧ sitemap.kind = .index) := by
  obtain ⟨source, sitemap, found, hreads, hfound, hlink⟩ := exists_of_mem_links hp h
  refine ⟨source, sitemap, hreads, ?_⟩
  have hrules : Key.isSitemapVerified ∉ p.sitemaps.links.inherited := by
    rwa [(links_of_ofSettings hp).1]
  have hmade : found.metadata.flag Key.isSitemapVerified = false := by
    have hkey : Key.isSitemapVerified ∉ [Key.isSitemap, Key.isSitemapNews, Key.delay] := by decide
    have htracked : Key.isSitemapVerified ≠ Key.depth ∧ Key.isSitemapVerified ≠ Key.path := by
      decide
    have hvalues := p.sitemaps.values_of_mem_linksOf source _ now hfound hkey
    rw [LinkRules.values_transfer, if_neg fun h => htracked.1 h.2, if_neg fun h => htracked.2 h.2,
      if_neg hrules] at hvalues
    rw [Metadata.flag, (Metadata.first?_eq_none_iff _ _).mpr hvalues]
    rfl
  rw [hlink]
  cases hkind : sitemap.kind with
  | urlSet => simp [hmade]
  | index =>
    have hne : Key.isSitemapVerified ≠ Key.isSitemap := by decide
    cases hflag : item.metadata.flag Key.isSitemapVerified with
    | true => simp [markLink, Metadata.flag_setFlag]
    | false => simp [markLink, Metadata.flag_setFlag, hne, hmade]

end

end Sitemap.Resolver

end Recrawl
