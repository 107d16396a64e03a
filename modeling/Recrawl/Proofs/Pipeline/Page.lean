import Recrawl.Proofs.Sitemap.Detection

/-!
Pages. An item goes through both stages untouched exactly if nothing tells that it is a sitemap
or a feed: no flag, no content type, and no clue where its content is looked at, which is the
decompressed content for sitemaps and the content as it came for feeds.
-/

namespace Recrawl

/-- One of the clues occurs in the content. -/
def Bytes.Mentions (content : Bytes) (clues : List String) : Prop :=
  ∃ clue ∈ clues, Bytes.ofString clue <:+: content

theorem ClueTable.isSome_firstMatch?_ofClues (clues : List String) (limit : Nat)
    (content : Bytes) :
    ((ofClues clues).firstMatch? limit content).isSome = true ↔
      Bytes.Mentions (content.take limit) clues := by
  simp only [firstMatch?, ofClues, List.findIdx?_isSome, List.any_map, List.any_eq_true,
    Function.comp_apply, matchesGroup, List.all_cons, List.all_nil, Bool.and_true,
    Bytes.occursIn_iff, Bytes.Mentions]

namespace Sitemap

/-- The clues to a sitemap of any kind. -/
def clueTexts : List String :=
  Vocabulary.newsUris ++ ["<sitemapindex", Vocabulary.sitemapUri] ++ Vocabulary.legacyUris

theorem isSome_verdict?_iff (limit : Nat) (content : Bytes) :
    (verdict? limit content).isSome = true ↔ Bytes.Mentions (content.take limit) clueTexts := by
  rw [verdict?, Option.isSome_map]
  exact ClueTable.isSome_firstMatch?_ofClues clueTexts limit content

theorem Resolver.sniff?_eq_none_iff (r : Resolver) (content : Bytes) :
    r.sniff? content = none ↔ r.settings.sniffsContent = false ∨
      ¬ Bytes.Mentions (Gzip.peek r.settings.peekLimit content).output clueTexts := by
  cases hsniffs : r.settings.sniffsContent with
  | false => simp [sniff?, hsniffs]
  | true =>
    have hlook : (Gzip.peek r.settings.peekLimit content).output.take r.settings.peekLimit =
        (Gzip.peek r.settings.peekLimit content).output :=
      List.take_of_length_le (Gzip.length_output_peek_le _ _)
    rw [sniff?_of_sniffsContent hsniffs, ← Option.not_isSome_iff_eq_none, isSome_verdict?_iff,
      hlook]
    simp

theorem Flags.ofMetadata_eq_default_iff (m : Metadata) :
    ofMetadata m = {} ↔ ∀ key ∈ [Key.isSitemap, Key.isSitemapNews, Key.isSitemapIndex,
      Key.isSitemapVerified], m.flag key = false := by
  simp [ofMetadata]

/-- An item is not even acknowledged as a sitemap exactly if nothing was known of it and there is no
verdict. -/
theorem Flags.after_eq_default_iff (m : Metadata) (verdict : Option Verdict) :
    ((after m verdict).1.needsReading = false ∧ (after m verdict).1.sitemap = false) ↔
      verdict = none ∧ ofMetadata m = {} := by
  cases verdict with
  | some verdict => simp [sitemap_after]
  | none =>
    change (ofMetadata m).needsReading = false ∧ (ofMetadata m).sitemap = false ↔ _
    generalize ofMetadata m = flags
    obtain ⟨sitemap, news, index, verified⟩ := flags
    simp only [needsReading, Bool.or_eq_false_iff, Flags.mk.injEq, true_and]
    constructor
    · rintro ⟨⟨⟨hnews, hindex⟩, hverified⟩, hsitemap⟩
      exact ⟨hsitemap, hnews, hindex, hverified⟩
    · rintro ⟨hsitemap, hnews, hindex, hverified⟩
      exact ⟨⟨⟨hnews, hindex⟩, hverified⟩, hsitemap⟩

end Sitemap

namespace FeedClassifier

/-- The clues to a feed in its content. -/
def clueTexts : List String := ["<rss", "<feed", "http://www.w3.org/2005/Atom"]

theorem isFeedType_iff (type : String) :
    isFeedType type = true ↔ Bytes.Mentions (Bytes.ofString type) typeClues := by
  simp only [isFeedType, List.any_eq_true, Bytes.occursIn_iff, Bytes.Mentions]

theorem anyMatch_contentClues_iff (limit : Nat) (content : Bytes) :
    contentClues.anyMatch limit content = true ↔ Bytes.Mentions (content.take limit) clueTexts :=
  ClueTable.isSome_firstMatch?_ofClues clueTexts limit content

theorem classify_eq_none_iff (f : FeedClassifier) (item : WorkItem) :
    (f.classify item).value = none ↔ item.metadata.flag Key.isFeed = false ∧
      (∀ type, item.contentType? = some type →
        ¬ Bytes.Mentions (Bytes.ofString type) typeClues) ∧
      ¬ Bytes.Mentions (item.content.take f.settings.peekLimit) clueTexts := by
  rw [← anyMatch_contentClues_iff]
  unfold classify
  cases hflag : item.metadata.flag Key.isFeed with
  | true => simp
  | false =>
    cases htype : item.contentType?.filter isFeedType with
    | some type =>
      obtain ⟨hsome, hfeed⟩ := Option.filter_eq_some_iff.mp htype
      have hmentions := (isFeedType_iff type).mp hfeed
      simp [hsome, hmentions]
    | none =>
      have hnotype : ∀ type, item.contentType? = some type →
          ¬ Bytes.Mentions (Bytes.ofString type) typeClues := by
        intro type hsome
        rw [← isFeedType_iff]
        exact Option.filter_eq_none_iff.mp htype type hsome
      cases hclue : contentClues.anyMatch f.settings.peekLimit item.content with
      | true => simp
      | false => simpa using hnotype

end FeedClassifier

namespace Pipeline

/-- Nothing tells that the item is a sitemap or a feed. -/
structure IsPage (p : Pipeline) (item : WorkItem) : Prop where
  unmarked : ∀ key ∈ [Key.isSitemap, Key.isSitemapNews, Key.isSitemapIndex,
    Key.isSitemapVerified], item.metadata.flag key = false
  noSitemapClue : p.sitemaps.settings.sniffsContent = false ∨
    ¬ Bytes.Mentions (Gzip.peek p.sitemaps.settings.peekLimit item.content).output
      Sitemap.clueTexts
  notFeed : item.metadata.flag Key.isFeed = false
  noFeedType : ∀ type, item.contentType? = some type →
    ¬ Bytes.Mentions (Bytes.ofString type) FeedClassifier.typeClues
  noFeedClue :
    ¬ Bytes.Mentions (item.content.take p.feeds.settings.peekLimit) FeedClassifier.clueTexts

theorem isPage_iff (p : Pipeline) (item : WorkItem) :
    p.IsPage item ↔ (p.sitemaps.sniff? item.content = none ∧
      Sitemap.Flags.ofMetadata item.metadata = {}) ∧ (p.feeds.classify item).value = none := by
  rw [p.sitemaps.sniff?_eq_none_iff, Sitemap.Flags.ofMetadata_eq_default_iff,
    p.feeds.classify_eq_none_iff]
  constructor
  · rintro ⟨hmarks, hclue, hflag, htype, hcontent⟩
    exact ⟨⟨hclue, hmarks⟩, hflag, htype, hcontent⟩
  · rintro ⟨⟨hclue, hmarks⟩, hflag, htype, hcontent⟩
    exact ⟨hmarks, hclue, hflag, htype, hcontent⟩

theorem courseOfRead_ne_page (r : Sitemap.Resolver) (flags : Sitemap.Flags) (item : WorkItem)
    (now : Time.Instant) (m : Metadata) : r.courseOfRead flags item now ≠ .page m := by
  unfold Sitemap.Resolver.courseOfRead
  split
  · exact nofun
  · simp only
    split <;> exact nofun

/-- The course of an item is that of a page exactly if it is one, and then no metadata changes. -/
theorem course_eq_page_iff (p : Pipeline) (item : WorkItem) (now : Time.Instant) (m : Metadata) :
    p.course item now = .page m ↔ p.IsPage item ∧ m = item.metadata := by
  have hafter := Sitemap.Flags.after_eq_default_iff item.metadata (p.sitemaps.sniff? item.content)
  rw [isPage_iff, ← hafter]
  unfold course
  rw [p.sitemaps.value_recognise]
  cases hneeds : (Sitemap.Flags.after item.metadata
      (p.sitemaps.sniff? item.content)).1.needsReading with
  | true => simp [hneeds, courseOfRead_ne_page]
  | false =>
    cases hsitemap : (Sitemap.Flags.after item.metadata
        (p.sitemaps.sniff? item.content)).1.sitemap with
    | true => simp [hneeds, hsitemap]
    | false =>
      -- Without a verdict the feeds get the item as it came.
      have hsniff : p.sitemaps.sniff? item.content = none := (hafter.mp ⟨hneeds, hsitemap⟩).1
      rw [hsniff] at hneeds hsitemap ⊢
      have hseen : (Sitemap.Flags.after item.metadata none).2 = item.metadata := rfl
      simp only [hneeds, hsitemap, hseen, Bool.false_eq_true, if_false, and_self, true_and]
      cases hfeed : (p.feeds.classify item).value with
      | some marked => simp
      | none => simp [eq_comm]

end Pipeline

/-- A course that is not that of a page ends in a record for the item's own address, as fetched or
as an error. -/
theorem Course.exists_record_of_ne_page (p : Pipeline) (item : WorkItem) (course : Course)
    (h : ∀ m, course ≠ .page m) :
    ∃ record links, course.outcome p item = .handled record links ∧ record.url = item.url ∧
      (record.status = .fetched ∨ record.status = .error) := by
  cases course with
  | page m => exact absurd rfl (h m)
  | acknowledged m => exact ⟨_, _, rfl, rfl, .inl rfl⟩
  | unreadable m reason => exact ⟨_, _, rfl, rfl, .inr rfl⟩
  | sitemap flags kind found =>
    simp only [outcome]
    split
    · exact ⟨_, _, rfl, rfl, .inr rfl⟩
    · exact ⟨_, _, rfl, rfl, .inl rfl⟩
  | feed m =>
    simp only [outcome]
    split
    · exact ⟨_, _, rfl, rfl, .inr rfl⟩
    · exact ⟨_, _, rfl, rfl, .inl rfl⟩

namespace Pipeline

theorem process_of_isPage {p : Pipeline} {item : WorkItem} (h : p.IsPage item)
    (now : Time.Instant) : (p.process item now).value = .passThrough item := by
  rw [p.value_process, (p.course_eq_page_iff item now item.metadata).mpr ⟨h, rfl⟩]
  rfl

theorem process_of_not_isPage {p : Pipeline} {item : WorkItem} (h : ¬ p.IsPage item)
    (now : Time.Instant) :
    ∃ record links, (p.process item now).value = .handled record links ∧
      record.url = item.url ∧ (record.status = .fetched ∨ record.status = .error) := by
  rw [p.value_process]
  apply Course.exists_record_of_ne_page
  intro m hcourse
  exact h ((p.course_eq_page_iff item now m).mp hcourse).1

/-- A page whose flags are there but not true, or not the first of their values. -/
def unmarkedPage : WorkItem where
  url := "page"
  content := Bytes.ofString "<p>rss</p>"
  metadata := .ofPairs [(Key.isFeed, "yes"), (Key.isSitemapNews, "no"),
    (Key.isSitemapNews, "true"), (Key.contentType, "text/html")]

/-- An index in one stored block, which breaks off in front of its checksum. -/
def brokenOffIndex : WorkItem where
  url := "http://[::1]/"
  content := [0x1F, 0x8B, 0x08, 0x00, 0x00, 0x00, 0x00, 0x00, 0x00, 0xFF, 0x01, 0x0F, 0x00, 0xF0,
    0xFF] ++ Bytes.ofString "<sitemapindex/>"
  metadata := .empty

end Pipeline

end Recrawl
