import Recrawl.Proofs.Sitemap.Recognition
import Recrawl.Proofs.Sitemap.Resolution

/-!
Reading a sitemap again, with the metadata that its record carries. The record keeps every
ground on which the item was read but one: the mark of an index goes once the content turns
out to be a list of pages.
-/

namespace Recrawl.Sitemap.Resolver

theorem targets_finish (kind : Kind) (flags : Flags) (url : String) (parsed : Parsed) :
    (finish kind flags url parsed).links.map Link.target = parsed.links.map Link.target := by
  cases kind with
  | index =>
    rw [finish_index, Outcome.links, List.map_map]
    rfl
  | urlSet =>
    rw [finish_urlSet, Outcome.links]

theorem values_finish_of_ne (kind : Kind) (flags : Flags) (url : String) (parsed : Parsed)
    {key : String} (hindex : key ≠ Key.isSitemapIndex) (hlinks : key ≠ Key.numLinks) :
    (finish kind flags url parsed).record.metadata.values key = parsed.metadata.values key := by
  cases kind with
  | index => simp [finish_index, Outcome.record, hindex, hlinks]
  | urlSet => simp [finish_urlSet, Outcome.record, hindex, hlinks]

/-- The record of an index is marked as one, and that of a list of pages is not. -/
theorem flag_index_finish (kind : Kind) (flags : Flags) (url : String) (parsed : Parsed) :
    (finish kind flags url parsed).record.metadata.flag Key.isSitemapIndex =
      match kind with
      | .index => true
      | .urlSet => false := by
  have hne : Key.isSitemapIndex ≠ Key.numLinks := by decide
  cases kind with
  | index =>
    rw [finish_index, Outcome.record, Metadata.flag_congr (m := parsed.metadata.setFlag _ true),
      Metadata.flag_setFlag, if_pos rfl]
    simp [hne]
  | urlSet =>
    rw [finish_urlSet, Outcome.record, Metadata.flag_congr (m := .empty)]
    · rfl
    · simp [hne]

/-- Which addresses are found does not depend on the metadata that their links inherit. -/
theorem targets_linksOf (r : Resolver) (source : Url) (parent parent' : Metadata)
    (now : Time.Instant) (sitemap : Sitemap) :
    (r.linksOf source parent now sitemap).map Link.target =
      (r.linksOf source parent' now sitemap).map Link.target := by
  unfold linksOf
  split
  · rw [targets_indexLinks, targets_indexLinks]
  · rw [targets_pageLinks, targets_pageLinks]

/-- The keys by which an item is read, and how: of these the filters have to keep off. -/
def readingKeys : List String := [Key.isSitemapNews, Key.isSitemapVerified, Key.contentType]

/-- The item is read for its mark as an index alone, and turns out to be a list of pages. -/
structure IsMistaken (r : Resolver) (item : WorkItem) (sitemap : Sitemap) : Prop where
  kind : sitemap.kind = .urlSet
  unseen : r.sniff? item.content = none
  notNews : item.metadata.flag Key.isSitemapNews = false
  notVerified : item.metadata.flag Key.isSitemapVerified = false

/-- With the marks that a record keeps, the same content is read again, unless it was mistaken. -/
theorem needsReading_after_iff (r : Resolver) {item : WorkItem} {source : Url} {sitemap : Sitemap}
    (h : r.Reads item source sitemap) {m : Metadata}
    (hnews : m.flag Key.isSitemapNews =
      (Flags.after item.metadata (r.sniff? item.content)).1.news)
    (hverified : m.flag Key.isSitemapVerified = item.metadata.flag Key.isSitemapVerified)
    (hindex : m.flag Key.isSitemapIndex =
      match sitemap.kind with
      | .index => true
      | .urlSet => false) :
    (Flags.after m (r.sniff? item.content)).1.needsReading = true ↔
      ¬ r.IsMistaken item sitemap := by
  have hneeds := h.needsReading
  rw [value_recognise, Flags.needsReading_after] at hneeds
  rw [Flags.needsReading_after]
  cases hsniff : r.sniff? item.content with
  | some verdict =>
    have hseen : ¬ r.IsMistaken item sitemap := by
      intro hmistaken
      rw [hmistaken.unseen] at hsniff
      cases hsniff
    refine iff_of_true ?_ hseen
    rw [hsniff] at hneeds
    cases verdict with
    | news => rfl
    | index => rfl
    | sitemap => exact hverified.trans hneeds
  | none =>
    rw [hsniff] at hnews
    change m.flag Key.isSitemapNews = item.metadata.flag Key.isSitemapNews at hnews
    simp only [Flags.needsReading, Flags.ofMetadata, hnews, hverified, hindex]
    cases hkind : sitemap.kind with
    | index =>
      have hindex : ¬ r.IsMistaken item sitemap := by
        intro hmistaken
        cases hkind.symm.trans hmistaken.kind
      exact iff_of_true (by simp) hindex
    | urlSet =>
      constructor
      · intro hread hmistaken
        simp [hmistaken.notNews, hmistaken.notVerified] at hread
      · intro hmistaken
        cases hmarked : item.metadata.flag Key.isSitemapNews with
        | true => rfl
        | false =>
          cases htrusted : item.metadata.flag Key.isSitemapVerified with
          | true => rfl
          | false => exact absurd ⟨hkind, hsniff, hmarked, htrusted⟩ hmistaken

/-- The item as it comes back: with the metadata of its record. -/
def refetched (p : Pipeline) (now : Time.Instant) (item : WorkItem) : WorkItem :=
  { item with metadata := (p.sitemaps.process item now).value.record.metadata }

/-- The item after it came back so many times. -/
def refetchedTimes (p : Pipeline) (now : Time.Instant) : WorkItem → Nat → WorkItem
  | item, 0 => item
  | item, times + 1 => refetchedTimes p now (refetched p now item) times

section

variable {sitemaps : SitemapSettings} {feeds : FeedSettings} {links : LinkSettings}
  {filters : FilterSettings} {p : Pipeline}
  (hp : Pipeline.ofSettings sitemaps feeds links filters = .ok p)
  {item : WorkItem} {source : Url} {sitemap : Sitemap}

include hp

/-- What the record of an item that was read tells of how it was read. -/
theorem marks_of_reads
    (hkeys : ∀ key ∈ readingKeys, key ≠ filters.signatureKey ∧ key ≠ filters.copyKey)
    (h : p.sitemaps.Reads item source sitemap) (now : Time.Instant) :
    let seen := Flags.after item.metadata (p.sitemaps.sniff? item.content)
    let m := (refetched p now item).metadata
    m.flag Key.isSitemapNews = seen.1.news ∧
      m.flag Key.isSitemapVerified = item.metadata.flag Key.isSitemapVerified ∧
      m.flag Key.isSitemapIndex = (match sitemap.kind with
        | .index => true
        | .urlSet => false) ∧
      m.first? Key.contentType = item.contentType? := by
  intro seen m
  obtain ⟨metadata, hprocess, hkept⟩ := finish_of_reads hp h now
  have hverified := p.sitemaps.verified_recognise item
  have htype : (p.sitemaps.recognise item).value.2.values Key.contentType =
      item.metadata.values Key.contentType := p.sitemaps.values_recognise item (by decide)
  rw [value_recognise] at hprocess hkept hverified htype
  have hm : m = (finish sitemap.kind seen.1 item.url ⟨metadata, p.sitemaps.linksOf source
      (seen.2.erase Key.isSitemap) now sitemap⟩).record.metadata := by
    rw [← hprocess]
    rfl
  have hvalues (key : String) (hmem : key ∈ readingKeys) (hclass : key ≠ Key.isSitemap)
      (hindex : key ≠ Key.isSitemapIndex) (hlinks : key ≠ Key.numLinks) :
      m.values key = seen.2.values key := by
    obtain ⟨hsignature, hcopy⟩ := hkeys key hmem
    rw [hm, values_finish_of_ne _ _ _ _ hindex hlinks, hkept key hsignature hcopy,
      Metadata.values_erase, if_neg hclass]
  have hflags := Flags.ofMetadata_after item.metadata (p.sitemaps.sniff? item.content)
  refine ⟨?_, ?_, ?_, ?_⟩
  · rw [Metadata.flag_congr (hvalues _ (by decide) (by decide) (by decide) (by decide))]
    exact congrArg Flags.news hflags
  · rw [Metadata.flag_congr (hvalues _ (by decide) (by decide) (by decide) (by decide))]
    exact (congrArg Flags.verified hflags).trans hverified
  · rw [hm]
    exact flag_index_finish _ _ _ _
  · exact Metadata.first?_congr
      ((hvalues _ (by decide) (by decide) (by decide) (by decide)).trans htype)

/-- An item that was read comes back as one that is read, as the same sitemap. -/
theorem reads_refetched
    (hkeys : ∀ key ∈ readingKeys, key ≠ filters.signatureKey ∧ key ≠ filters.copyKey)
    (h : p.sitemaps.Reads item source sitemap) (hmistaken : ¬ p.sitemaps.IsMistaken item sitemap)
    (now : Time.Instant) :
    p.sitemaps.Reads (refetched p now item) source sitemap ∧
      ¬ p.sitemaps.IsMistaken (refetched p now item) sitemap := by
  obtain ⟨hnews, hverified, hindex, htype⟩ := marks_of_reads hp hkeys h now
  refine ⟨⟨?_, h.source, ?_⟩, ?_⟩
  · rw [value_recognise]
    exact (p.sitemaps.needsReading_after_iff h hnews hverified hindex).mpr hmistaken
  · rw [WorkItem.contentType?, htype]
    exact h.sitemap
  · intro hagain
    have hunseen : p.sitemaps.sniff? item.content = none := hagain.unseen
    refine hmistaken ⟨hagain.kind, hunseen, ?_, hverified.symm.trans hagain.notVerified⟩
    rw [hunseen] at hnews
    exact hnews.symm.trans hagain.notNews

theorem reads_refetchedTimes
    (hkeys : ∀ key ∈ readingKeys, key ≠ filters.signatureKey ∧ key ≠ filters.copyKey)
    (h : p.sitemaps.Reads item source sitemap) (hmistaken : ¬ p.sitemaps.IsMistaken item sitemap)
    (now : Time.Instant) (times : Nat) :
    p.sitemaps.Reads (refetchedTimes p now item times) source sitemap := by
  induction times generalizing item with
  | zero => exact h
  | succ times ih =>
    obtain ⟨hagain, hgrounds⟩ := reads_refetched hp hkeys h hmistaken now
    exact ih hagain hgrounds

/-- Every item that is read as the same sitemap at the same time is fetched, with links to the same
addresses. -/
theorem targets_of_reads (h : p.sitemaps.Reads item source sitemap) (now : Time.Instant) :
    ∃ record found, (p.sitemaps.process item now).value = .handled record found ∧
      record.url = item.url ∧ record.status = .fetched ∧
      found.map Link.target = (p.sitemaps.linksOf source .empty now sitemap).map Link.target := by
  obtain ⟨metadata, hprocess, -⟩ := finish_of_reads hp h now
  rw [hprocess]
  refine ⟨_, _, rfl, rfl, rfl, ?_⟩
  exact (targets_finish _ _ item.url _).trans (p.sitemaps.targets_linksOf source _ _ now sitemap)

theorem not_needsReading_refetched
    (hkeys : ∀ key ∈ readingKeys, key ≠ filters.signatureKey ∧ key ≠ filters.copyKey)
    (h : p.sitemaps.Reads item source sitemap) (hmistaken : p.sitemaps.IsMistaken item sitemap)
    (now : Time.Instant) :
    (p.sitemaps.recognise (refetched p now item)).value.1.needsReading = false := by
  obtain ⟨hnews, hverified, hindex, -⟩ := marks_of_reads hp hkeys h now
  have hread := p.sitemaps.needsReading_after_iff h hnews hverified hindex
  rw [value_recognise]
  exact Bool.eq_false_iff.mpr fun hneeds => hread.mp hneeds hmistaken

/-- No record of an item that was read marks it as a plain sitemap. -/
theorem values_isSitemap_refetched (hsignature : Key.isSitemap ≠ filters.signatureKey)
    (hcopy : Key.isSitemap ≠ filters.copyKey) (h : p.sitemaps.Reads item source sitemap)
    (now : Time.Instant) : (refetched p now item).metadata.values Key.isSitemap = [] := by
  obtain ⟨metadata, hprocess, hkept⟩ := finish_of_reads hp h now
  rw [refetched, hprocess, values_finish_of_ne _ _ _ _ (by decide) (by decide),
    hkept _ hsignature hcopy]
  simp

/-- A list of pages that was read for its mark as an index alone comes back without any mark. -/
theorem process_refetched_of_isMistaken
    (hkeys : ∀ key ∈ readingKeys, key ≠ filters.signatureKey ∧ key ≠ filters.copyKey)
    (hsignature : Key.isSitemap ≠ filters.signatureKey) (hcopy : Key.isSitemap ≠ filters.copyKey)
    (h : p.sitemaps.Reads item source sitemap) (hmistaken : p.sitemaps.IsMistaken item sitemap)
    (now : Time.Instant) :
    (p.sitemaps.process (refetched p now item) now).value =
      .passThrough (refetched p now item) := by
  have hneeds := not_needsReading_refetched hp hkeys h hmistaken now
  have hvalues := values_isSitemap_refetched hp hsignature hcopy h now
  have hunseen : p.sitemaps.sniff? (refetched p now item).content = none := hmistaken.unseen
  have hsitemap : (Flags.after (refetched p now item).metadata none).1.sitemap = false := by
    change (refetched p now item).metadata.flag Key.isSitemap = false
    rw [Metadata.flag, (Metadata.first?_eq_none_iff _ _).mpr hvalues]
    rfl
  have hcourse : p.sitemaps.course (refetched p now item) now =
      .page (refetched p now item).metadata := by
    unfold course
    rw [value_recognise, hunseen] at hneeds ⊢
    simp only [hneeds, hsitemap]
    rfl
  rw [value_process, hcourse]
  rfl

/-- A sitemap that was read and comes back with the metadata of its record is read again and leads
to the same addresses, however often. Only a list of pages that was read for its mark as an index
alone is not: the mark was wrong, and its record does not carry it on. -/
theorem process_refetched
    (hkeys : ∀ key ∈ readingKeys, key ≠ filters.signatureKey ∧ key ≠ filters.copyKey)
    (hreads : p.sitemaps.Reads item source sitemap) (now : Time.Instant) :
    ∃ record found, (p.sitemaps.process item now).value = .handled record found ∧
      record.status = .fetched ∧
      (¬ p.sitemaps.IsMistaken item sitemap → ∀ times,
        let again := refetchedTimes p now item times
        p.sitemaps.Reads again source sitemap ∧
          ∃ record' found', (p.sitemaps.process again now).value = .handled record' found' ∧
            record'.url = again.url ∧ record'.status = .fetched ∧
            found'.map Link.target = found.map Link.target) ∧
      (p.sitemaps.IsMistaken item sitemap →
        let again := refetched p now item
        (p.sitemaps.recognise again).value.1.needsReading = false ∧
          (Key.isSitemap ≠ filters.signatureKey → Key.isSitemap ≠ filters.copyKey →
            (p.sitemaps.process again now).value = .passThrough again)) := by
  obtain ⟨record, found, hprocess, -, hstatus, htargets⟩ := targets_of_reads hp hreads now
  refine ⟨record, found, hprocess, hstatus, ?_, ?_⟩
  · intro hmistaken times again
    have hagain := reads_refetchedTimes hp hkeys hreads hmistaken now times
    obtain ⟨record', found', hprocess', hurl', hstatus', htargets'⟩ :=
      targets_of_reads hp hagain now
    exact ⟨hagain, record', found', hprocess', hurl', hstatus', htargets'.trans htargets.symm⟩
  · intro hmistaken again
    refine ⟨not_needsReading_refetched hp hkeys hreads hmistaken now, ?_⟩
    intro hsignature hcopy
    exact process_refetched_of_isMistaken hp hkeys hsignature hcopy hreads hmistaken now

end

/-- The verified index comes back as one, and leads to the same sitemap the third time. -/
theorem process_refetched_verifiedIndex :
    let p := standardPipeline { recentHours := 2 }
    let now : Time.Instant := ⟨0, 43200, 0, by decide, by decide, by decide⟩
    ∃ record found,
      (p.sitemaps.process (refetchedTimes p now verifiedIndex 2) now).value =
        .handled record found ∧
      record.status = .fetched ∧ found.map Link.target = ["http://[::1]/b"] := by
  intro p now
  have hp : Pipeline.ofSettings { recentHours := 2 } {} {} {} = .ok p := rfl
  obtain ⟨source, sitemap, hreads, hkind⟩ := p.sitemaps.exists_reads verifiedIndex
    Sitemap.kind .index (by decide +kernel) (by decide +kernel) (by decide +kernel)
  have hfirst : (p.sitemaps.process verifiedIndex now).value.links.map Link.target =
      ["http://[::1]/b"] := by
    decide +kernel
  have hmistaken : ¬ p.sitemaps.IsMistaken verifiedIndex sitemap := by
    intro hmistaken
    cases hkind.symm.trans hmistaken.kind
  obtain ⟨record, found, hprocess, -, hstable, -⟩ :=
    process_refetched hp (by decide) hreads now
  rw [hprocess] at hfirst
  obtain ⟨-, record', found', hagain, -, hstatus, htargets⟩ := hstable hmistaken 2
  exact ⟨record', found', hagain, hstatus, htargets.trans hfirst⟩

/-- A list of one page. -/
def shortList : Bytes :=
  Bytes.ofString "<urlset><url><loc>http://[::1]/a</loc></url></urlset>"

/-- The pipeline with default settings, but for the keys of the signature and of its copy. -/
def signingPipeline (key copy : String) : Pipeline :=
  let filters := [.signatureCopy key copy, .contentSignature key]
  ⟨⟨{}, {}, filters⟩, ⟨{}, filters⟩⟩

/-- A list of pages is not read again if it was read for its mark as an index. Nor does it lead to
the same addresses if the signature or its copy takes the place of what it was read by. -/
theorem targets_refetched_ne :
    let now : Time.Instant := ⟨0, 0, 0, by decide, by decide, by decide⟩
    let item (marks : List (String × String)) : WorkItem :=
      ⟨"http://[::1]/", shortList, .ofPairs marks⟩
    let targets (p : Pipeline) (item : WorkItem) :=
      (p.sitemaps.process item now).value.links.map Link.target
    let isRead (p : Pipeline) (item : WorkItem) := (p.sitemaps.course item now).isFiltered
    let status (p : Pipeline) (item : WorkItem) := (p.sitemaps.process item now).value.record.status
    let filters (key copy : String) : FilterSettings := { signatureKey := key, copyKey := copy }
    let index := item [(Key.isSitemapIndex, "true")]
    let misplaced := [
      ((Key.isSitemapNews, Key.signatureOld), [(Key.isSitemapNews, "true")]),
      ((Key.isSitemapVerified, Key.signatureOld), [(Key.isSitemapVerified, "true")]),
      ((Key.contentType, Key.signatureOld),
        [(Key.isSitemapNews, "true"), (Key.contentType, "text/plain")]),
      ((Key.signature, Key.isSitemapNews), [(Key.isSitemapNews, "true"), (Key.signature, "a")]),
      ((Key.signature, Key.isSitemapVerified),
        [(Key.isSitemapVerified, "true"), (Key.signature, "a")]),
      ((Key.signature, Key.contentType),
        [(Key.isSitemapNews, "true"), (Key.signature, "text/plain")])]
    (Pipeline.ofSettings {} {} {} {} = .ok (standardPipeline {}) ∧
      isRead (standardPipeline {}) index = true ∧ status (standardPipeline {}) index = .fetched ∧
      targets (standardPipeline {}) index = ["http://[::1]/a"] ∧
      isRead (standardPipeline {}) (refetched (standardPipeline {}) now index) = false ∧
      targets (standardPipeline {}) (refetched (standardPipeline {}) now index) = []) ∧
    (∀ key copy, Pipeline.ofSettings {} {} {} (filters key copy) =
      .ok (signingPipeline key copy)) ∧
    ∀ case ∈ misplaced,
      let p := signingPipeline case.1.1 case.1.2
      isRead p (item case.2) = true ∧ status p (item case.2) = .fetched ∧
        targets p (refetched p now (item case.2)) ≠ targets p (item case.2) := by
  intro now item targets isRead status filters index misplaced
  refine ⟨⟨rfl, ?_⟩, fun key copy => rfl, ?_⟩
  · decide +kernel
  · decide +kernel

end Recrawl.Sitemap.Resolver
