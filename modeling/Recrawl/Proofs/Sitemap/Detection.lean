import Recrawl.Proofs.Gzip.Streaming
import Recrawl.Proofs.Sitemap.Prefix
import Recrawl.Proofs.Sitemap.Refetch
import Recrawl.Proofs.Xml.RootTag
import Recrawl.Proofs.Xml.Tree

/-!
Detecting what can be read. The verdict on some content goes by words that stand in it, and
reading goes by its root element. Whatever root element is accepted, its tag has one of the
words in it: the namespace, or the name of an index that is written without a prefix.
-/

namespace Recrawl.Sitemap

namespace Reader

/-- In front of the root element nothing counts but tags. -/
theorem step_initial_of_ne_tag {event : Xml.Event} (h : event.tag? = none) :
    ({} : Reader).step event = {} := by
  cases event with
  | start tag => cases h
  | selfClosing tag => cases h
  | close => rfl
  | text raw => rfl
  | literal raw => rfl
  | skipped => rfl

/-- The tag is that of a root element of this kind. -/
structure IsRoot (tag : Xml.Tag) (kind : Kind) : Prop where
  accepts : Xml.Binding.predefined.accepts tag = true
  kind : Kind.ofRoot? (nameOf (Xml.Binding.predefined.inside tag) tag).1
    (nameOf (Xml.Binding.predefined.inside tag) tag).2 = some kind

theorem enterRoot_of_kind_eq_none {r : Reader} (h : r.kind = none) (vocabulary : Vocabulary)
    (name : Bytes) {next : Place} (hnext : next ≠ .prolog) :
    (r.enterRoot vocabulary name next).place ≠ .prolog ∧
      (r.enterRoot vocabulary name next).kind = Kind.ofRoot? vocabulary name := by
  unfold enterRoot
  split
  · rename_i kind hkind
    exact ⟨hnext, hkind.symm⟩
  · rename_i hnone
    exact ⟨by simp [stop], h.trans hnone.symm⟩

/-- The first tag is that of the root element: it settles the kind, or it fails. -/
theorem step_initial_of_tag {event : Xml.Event} {tag : Xml.Tag} (h : event.tag? = some tag) :
    (({} : Reader).step event).place ≠ .prolog ∧
      ∀ kind, (({} : Reader).step event).kind = some kind → IsRoot tag kind := by
  have hroot (next : Place) (hnext : next ≠ .prolog) (scopes : List Xml.Scope) {inner : Xml.Scope}
      (henter : Xml.Binding.predefined.enter tag = .ok inner) :
      let name := nameOf inner tag
      let after := enterRoot { scopes } name.1 name.2 next
      after.place ≠ .prolog ∧ ∀ kind, after.kind = some kind → IsRoot tag kind := by
    have hinner : Xml.Binding.predefined.inside tag = inner := by
      simp [Xml.Scope.inside, henter]
    obtain ⟨hplace, hkind⟩ := enterRoot_of_kind_eq_none (r := { scopes }) rfl (nameOf inner tag).1
      (nameOf inner tag).2 hnext
    refine ⟨hplace, fun kind h => ⟨by simp [Xml.Scope.accepts, henter], ?_⟩⟩
    rw [hinner, ← hkind, h]
  cases event with
  | start tag' =>
    cases h
    simp only [step, isDone, scope]
    cases henter : Xml.Binding.predefined.enter tag with
    | error fault => simp [henter, stop]
    | ok inner =>
      simp only [List.headD, henter]
      exact hroot .root (by simp) [inner] henter
  | selfClosing tag' =>
    cases h
    simp only [step, isDone, scope]
    cases henter : Xml.Binding.predefined.enter tag with
    | error fault => simp [henter, stop]
    | ok inner =>
      simp only [List.headD, henter]
      exact hroot .finished (by simp) [] henter
  | close => cases h
  | text raw => cases h
  | literal raw => cases h
  | skipped => cases h

/-- The kind of a sitemap is that of the first tag. -/
theorem exists_root_of_kind {events : List Xml.Event} {kind : Kind}
    (h : (({} : Reader).run events).kind = some kind) :
    ∃ tag, events.findSome? Xml.Event.tag? = some tag ∧ IsRoot tag kind := by
  induction events with
  | nil => cases h
  | cons event rest ih =>
    change ((({} : Reader).step event).run rest).kind = some kind at h
    cases htag : event.tag? with
    | none =>
      rw [step_initial_of_ne_tag htag] at h
      rw [List.findSome?_cons, htag]
      exact ih h
    | some tag =>
      obtain ⟨hplace, hroot⟩ := step_initial_of_tag htag
      rw [(extends_run _ rest).kind hplace] at h
      refine ⟨tag, ?_, hroot kind h⟩
      rw [List.findSome?_cons, htag]

/-- A document that can be read has a root element, which is told by its first tag. -/
theorem exists_root_of_result {content : Bytes} {allowPartial : Bool} {sitemap : Sitemap}
    (h : (readXml content).result allowPartial = .ok sitemap) :
    ∃ tag, Xml.rootTag? content = some tag ∧ IsRoot tag sitemap.kind := by
  obtain ⟨hkind, -⟩ := kind_of_result_eq_ok h
  rw [(readXml_eq_readerBefore content).2] at hkind
  exact exists_root_of_kind hkind

theorem vocabulary_of_ofRoot? {vocabulary : Vocabulary} {name : Bytes} {kind : Kind}
    (h : Kind.ofRoot? vocabulary name = some kind) : vocabulary = .sitemap := by
  cases vocabulary with
  | sitemap => rfl
  | news => cases h
  | links => cases h
  | other => cases h

theorem name_of_ofRoot?_index {vocabulary : Vocabulary} {name : Bytes}
    (h : Kind.ofRoot? vocabulary name = some .index) : name = Bytes.ofString "sitemapindex" := by
  unfold Kind.ofRoot? at h
  split at h
  · cases h
  · split at h
    · cases h
    · split at h
      · rename_i hname
        exact eq_of_beq hname
      · cases h

/-- The tag of an index without a prefix begins with the word for it. -/
theorem IsRoot.word_of_index {tag : Xml.Tag} (h : IsRoot tag .index)
    (hbare : Xml.namePart? tag.name = none) :
    Bytes.ofString "<sitemapindex" <+: tag.text := by
  have hname : Xml.localPart tag.name = Bytes.ofString "sitemapindex" := name_of_ofRoot?_index h.kind
  have hplain : tag.name = Xml.localPart tag.name := by
    unfold Xml.namePart? at hbare
    unfold Xml.localPart
    split at hbare
    · cases hbare
    · rename_i hcolon
      rw [if_neg hcolon]
  have hword : Bytes.ofString "<sitemapindex" = 0x3C :: Bytes.ofString "sitemapindex" := by
    decide +kernel
  rw [hword, Xml.Tag.text, hplain, hname]
  exact List.prefix_append (0x3C :: Bytes.ofString "sitemapindex") tag.attributes

/-- The namespaces that are accepted are not in force from the outset. -/
theorem not_predefined {uri : String} (h : uri ∈ Vocabulary.sitemapUri :: Vocabulary.legacyUris) :
    ∀ binding ∈ Xml.Binding.predefined, binding.uri ≠ Bytes.ofString uri := by
  revert uri
  decide +kernel

theorem exists_of_ofUri_eq_sitemap {uri : Bytes} (h : Vocabulary.ofUri uri = .sitemap) :
    ∃ known ∈ Vocabulary.sitemapUri :: Vocabulary.legacyUris, uri = Bytes.ofString known := by
  unfold Vocabulary.ofUri at h
  split at h
  · rename_i hany
    obtain ⟨known, hknown, heq⟩ := List.any_eq_true.mp hany
    exact ⟨known, hknown, eq_of_beq heq⟩
  · split at h
    · cases h
    · split at h <;> cases h

/-- The tag of a root element in a namespace has the namespace in it, as one of those that are
accepted. -/
theorem IsRoot.exists_uri {tag : Xml.Tag} {kind : Kind} (h : IsRoot tag kind)
    (hnamespace : (Xml.Binding.predefined.inside tag).resolve tag.name ≠ .none) :
    ∃ uri ∈ Vocabulary.sitemapUri :: Vocabulary.legacyUris, Bytes.ofString uri <:+: tag.text := by
  have henter := Xml.Scope.enter_of_accepts h.accepts
  have hvocabulary := vocabulary_of_ofRoot? h.kind
  simp only [nameOf] at hvocabulary
  cases hresolve : (Xml.Binding.predefined.inside tag).resolve tag.name with
  | none => exact absurd hresolve hnamespace
  | undeclared =>
    rw [hresolve] at hvocabulary
    cases hvocabulary
  | bound uri =>
    rw [hresolve] at hvocabulary
    obtain ⟨known, hknown, rfl⟩ := exists_of_ofUri_eq_sitemap hvocabulary
    refine ⟨known, hknown, ?_⟩
    rcases Xml.Scope.uri_of_resolve henter hresolve with ⟨binding, hmem, huri⟩ | hattributes
    · exact absurd huri (not_predefined hknown binding hmem)
    · exact hattributes.trans (List.suffix_append (0x3C :: tag.name) tag.attributes).isInfix

end Reader

theorem verdict?_eq_map (limit : Nat) (content : Bytes) :
    verdict? limit content =
      (((Vocabulary.newsUris ++ ["<sitemapindex", Vocabulary.sitemapUri] ++
        Vocabulary.legacyUris).findIdx? fun clue =>
          (Bytes.ofString clue).occursIn (content.take limit)).map Verdict.ofClue) := by
  unfold verdict? ClueTable.firstMatch? clues ClueTable.ofClues
  rw [List.findIdx?_map]
  congr 2
  funext clue
  simp [ClueTable.matchesGroup]

/-- Content that names an accepted namespace has a verdict. -/
theorem isSome_verdict?_of_uri {limit : Nat} {content : Bytes} {uri : String}
    (huri : uri ∈ Vocabulary.sitemapUri :: Vocabulary.legacyUris)
    (h : Bytes.ofString uri <:+: content.take limit) : (verdict? limit content).isSome = true := by
  rw [verdict?_eq_map, Option.isSome_map, List.findIdx?_isSome, List.any_eq_true]
  refine ⟨uri, ?_, (Bytes.occursIn_iff _ _).mpr h⟩
  simp only [List.mem_append, List.mem_cons] at huri ⊢
  rcases huri with rfl | huri
  · exact .inl (.inr (.inr (.inl rfl)))
  · exact .inr huri

/-- Content with the word for an index is one, unless it is news. -/
theorem verdict?_of_index {limit : Nat} {content : Bytes}
    (h : Bytes.ofString "<sitemapindex" <:+: content.take limit) :
    verdict? limit content = some .news ∨ verdict? limit content = some .index := by
  have hword : (Bytes.ofString "<sitemapindex").occursIn (content.take limit) = true :=
    (Bytes.occursIn_iff _ _).mpr h
  rw [verdict?_eq_map, List.append_assoc, List.findIdx?_append]
  cases hnews : Vocabulary.newsUris.findIdx? fun clue =>
      (Bytes.ofString clue).occursIn (content.take limit) with
  | some place =>
    have hplace : place < Vocabulary.newsUris.length := (List.findIdx?_eq_some_iff_getElem.mp hnews).1
    left
    simp [Verdict.ofClue, hplace]
  | none =>
    right
    simp [List.findIdx?_cons, hword, Verdict.ofClue]

namespace Resolver

theorem sniff?_of_sniffsContent {r : Resolver} (h : r.settings.sniffsContent = true)
    (content : Bytes) :
    r.sniff? content =
      verdict? r.settings.peekLimit (Gzip.peek r.settings.peekLimit content).output := by
  rw [sniff?, if_pos h]

/-- An item whose content has a verdict is handled as a sitemap, read or not. -/
theorem exists_handled_of_sniff? (p : Pipeline) (item : WorkItem) (now : Time.Instant)
    (h : (p.sitemaps.sniff? item.content).isSome = true) :
    ∃ record found, (p.sitemaps.process item now).value = .handled record found := by
  obtain ⟨verdict, hverdict⟩ := Option.isSome_iff_exists.mp h
  have hsitemap := Flags.sitemap_after item.metadata verdict
  rw [value_process, course, value_recognise, hverdict]
  simp only [hsitemap, if_true]
  split
  · rw [← Course.outcome_withMetadata]
    exact exists_outcome_courseOfRead p _ _ now
  · exact ⟨_, _, rfl⟩

/-- An item whose content is detected as news or as an index is read. -/
theorem reads_of_sniff? {r : Resolver} {item : WorkItem} {source : Url} {sitemap : Sitemap}
    (hsniff : r.sniff? item.content = some .news ∨ r.sniff? item.content = some .index)
    (hsource : Url.parse item.url = .ok source)
    (hread : (Sitemap.read r.settings.allowPartial item.url item.content
      item.contentType?).value = .ok sitemap) : r.Reads item source sitemap := by
  refine ⟨?_, hsource, hread⟩
  rw [value_recognise, Flags.needsReading_after]
  rcases hsniff with hnews | hindex
  · rw [hnews]
  · rw [hindex]

/-- Of a document that can be read, let the root tag be in what is looked at; that is the beginning
of the decompressed content, up to the most that is decompressed. An index without a prefix is
detected, so that it is read and leads to its sitemaps. A root element in a namespace, with or
without a prefix, is detected at least as a sitemap, so that the item is no page. -/
theorem process_of_rootTag {sitemaps : SitemapSettings} {feeds : FeedSettings}
    {links : LinkSettings} {filters : FilterSettings} {p : Pipeline}
    (hp : Pipeline.ofSettings sitemaps feeds links filters = .ok p)
    (hsniffs : sitemaps.sniffsContent = true) {item : WorkItem} {source : Url}
    (hsource : Url.parse item.url = .ok source) {decoded : Bytes}
    (hdecode : Gzip.decode item.content = .ok decoded) (hxml : looksLikeXml decoded = true)
    (htype : IsNotPlain item.contentType?) {sitemap : Sitemap}
    (hread : (Sitemap.read sitemaps.allowPartial item.url item.content
      item.contentType?).value = .ok sitemap) {root : Xml.Tag}
    (hroot : Xml.rootTag? (Gzip.peek sitemaps.peekLimit item.content).output = some root)
    (now : Time.Instant) :
    let verdict := p.sitemaps.sniff? item.content
    let outcome := (p.sitemaps.process item now).value
    Xml.rootTag? decoded = some root ∧
      (Gzip.isGzip item.content = false ∨ sitemaps.peekLimit ≤ Gzip.decompressedLimit →
        (Gzip.peek sitemaps.peekLimit item.content).output = decoded.take sitemaps.peekLimit) ∧
      (sitemap.kind = .index → Xml.namePart? root.name = none →
        (verdict = some .news ∨ verdict = some .index) ∧
          ∃ record found, outcome = .handled record found ∧ record.status = .fetched ∧
            found.map Link.target = indexTargets (UrlFilter.applyAll p.sitemaps.links.filters)
              ⟨sitemaps.recentHours, now⟩ sitemap.entries) ∧
      ((Xml.Binding.predefined.inside root).resolve root.name ≠ .none →
        verdict.isSome = true ∧ ∃ record found, outcome = .handled record found) := by
  intro verdict outcome
  have hsettings : p.sitemaps.settings = sitemaps := by
    obtain ⟨chain, rules, -, -, rfl⟩ := Pipeline.parts_of_ofSettings hp
    rfl
  rw [← hsettings] at hsniffs hread hroot
  have hverdict : verdict = verdict? p.sitemaps.settings.peekLimit
      (Gzip.peek p.sitemaps.settings.peekLimit item.content).output :=
    sniff?_of_sniffsContent hsniffs item.content
  -- What the look delivers fits into its limit.
  have hlook : (Gzip.peek p.sitemaps.settings.peekLimit item.content).output.take
      p.sitemaps.settings.peekLimit =
        (Gzip.peek p.sitemaps.settings.peekLimit item.content).output :=
    List.take_of_length_le (Gzip.length_output_peek_le _ _)
  have hstands := Xml.text_infix_of_rootTag? hroot
  obtain ⟨tag, htag, hisRoot⟩ :=
    Reader.exists_root_of_result (result_of_read hdecode hxml htype hread)
  -- The look and the reading see the same first tag, since both begin alike.
  obtain ⟨output, hpeeked, hdecoded⟩ :=
    Gzip.exists_output_of_decode hdecode p.sitemaps.settings.peekLimit
  have hsame : tag = root := by
    have hlong := Xml.rootTag?_of_prefix hpeeked hroot
    rw [Xml.rootTag?_of_prefix hdecoded htag] at hlong
    exact Option.some.inj hlong
  subst hsame
  refine ⟨htag, ?_, ?_, ?_⟩
  · rw [← hsettings]
    exact Gzip.output_peek_eq_take hdecode
  · intro hkind hunprefixed
    rw [hkind] at hisRoot
    have hword := (hisRoot.word_of_index hunprefixed).isInfix.trans hstands
    rw [← hlook] at hword
    have hindex : verdict = some .news ∨ verdict = some .index := by
      rw [hverdict]
      exact verdict?_of_index hword
    refine ⟨hindex, ?_⟩
    obtain ⟨record, found, hprocess, -, hstatus, htargets⟩ :=
      targets_of_reads hp (reads_of_sniff? hindex hsource hread) now
    refine ⟨record, found, hprocess, hstatus, ?_⟩
    rw [htargets, linksOf, hkind, ← window_of_ofSettings hp now]
    exact p.sitemaps.targets_indexLinks source .empty now sitemap.entries
  · intro hnamespace
    obtain ⟨uri, huri, htext⟩ := hisRoot.exists_uri hnamespace
    have hword := htext.trans hstands
    rw [← hlook] at hword
    have hsome : verdict.isSome = true := by
      rw [hverdict]
      exact isSome_verdict?_of_uri huri hword
    exact ⟨hsome, exists_handled_of_sniff? p item now hsome⟩

/-- An index in an earlier version of the namespace, behind a comment. -/
def legacyIndex : WorkItem where
  url := "http://[::1]/"
  content := Bytes.ofString <|
    "<!--s--><sitemapindex a=\x22\x22 xmlns=\x22http://www.google.com/schemas/sitemap/0.84\x22>" ++
    "<sitemap><loc>http://[::1]/a</loc></sitemap></sitemapindex>"
  metadata := .empty

/-- The index is detected by its name and by its namespace, and its sitemap is found. -/
theorem process_of_rootTag_legacyIndex :
    let p := standardPipeline { sniffsContent := true }
    let now : Time.Instant := ⟨0, 0, 0, by decide, by decide, by decide⟩
    (p.sitemaps.sniff? legacyIndex.content).isSome = true ∧
      ∃ record found, (p.sitemaps.process legacyIndex now).value = .handled record found ∧
        record.status = .fetched ∧ found.map Link.target = ["http://[::1]/a"] := by
  intro p now
  have hp : Pipeline.ofSettings { sniffsContent := true } {} {} {} = .ok p := rfl
  let targets (sitemap : Sitemap) :=
    indexTargets (UrlFilter.applyAll p.sitemaps.links.filters) ⟨-1, now⟩ sitemap.entries
  obtain ⟨source, sitemap, hreads, hview⟩ := p.sitemaps.exists_reads legacyIndex
    (fun sitemap => (sitemap.kind, targets sitemap)) (.index, ["http://[::1]/a"])
    (by decide +kernel) (by decide +kernel) (by decide +kernel)
  obtain ⟨hkind, htargets⟩ := Prod.mk.inj hview
  let root : Xml.Tag := ⟨Bytes.ofString "sitemapindex",
    Bytes.ofString " a=\x22\x22 xmlns=\x22http://www.google.com/schemas/sitemap/0.84\x22"⟩
  have hroot : Xml.rootTag? (Gzip.peek p.sitemaps.settings.peekLimit legacyIndex.content).output =
      some root := by
    decide +kernel
  have hnamespace : (Xml.Binding.predefined.inside root).resolve root.name ≠ .none := by
    decide +kernel
  have htype : IsNotPlain legacyIndex.contentType? := by
    rw [show legacyIndex.contentType? = none from rfl]
    simp [IsNotPlain]
  obtain ⟨-, -, hindex, hdetected⟩ := process_of_rootTag hp rfl hreads.source
    (Gzip.decode_of_not_isGzip (by decide +kernel)) (by decide +kernel) htype hreads.sitemap hroot
    now
  obtain ⟨-, record, found, hprocess, hstatus, hfound⟩ := hindex hkind (by decide +kernel)
  exact ⟨(hdetected hnamespace).1, record, found, hprocess, hstatus, hfound.trans htargets⟩

/-- An index with a prefix. -/
def prefixedIndex : WorkItem where
  url := "http://[::1]/"
  content := Bytes.ofString <|
    "<s:sitemapindex xmlns:s=\x22http://www.sitemaps.org/schemas/sitemap/0.9\x22><s:sitemap>" ++
    "<s:loc>http://[::1]/a</s:loc></s:sitemap></s:sitemapindex>"
  metadata := .empty

/-- The index with a prefix can be read and is within what is looked at, but it is detected as a
plain sitemap: it is not read, and leads nowhere. -/
theorem prefixedIndex_not_read :
    let p := standardPipeline { sniffsContent := true }
    let now : Time.Instant := ⟨0, 0, 0, by decide, by decide, by decide⟩
    let settings := p.sitemaps.settings
    Pipeline.ofSettings { sniffsContent := true } {} {} {} = .ok p ∧
      Flags.ofMetadata prefixedIndex.metadata = {} ∧
      (Url.parse prefixedIndex.url).toOption.isSome = true ∧
      prefixedIndex.content.length ≤ settings.peekLimit ∧
      (Xml.rootTag? prefixedIndex.content).isSome = true ∧
      (Sitemap.read settings.allowPartial prefixedIndex.url prefixedIndex.content
        prefixedIndex.contentType?).value.toOption.map
          (fun sitemap => (sitemap.kind, sitemap.entries.map (·.location.toString))) =
        some (.index, ["http://[::1]/a"]) ∧
      p.sitemaps.sniff? prefixedIndex.content = some .sitemap ∧
      (p.sitemaps.course prefixedIndex now).isFiltered = false ∧
      (p.sitemaps.process prefixedIndex now).value.links = [] := by
  intro p now settings
  refine ⟨rfl, ?_⟩
  decide +kernel

end Resolver

end Recrawl.Sitemap
