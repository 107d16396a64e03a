import Recrawl.Proofs.Link.Chain
import Recrawl.Proofs.Link.Inheritance
import Recrawl.Proofs.Sitemap.Addresses
import Recrawl.Proofs.Sitemap.Resolution

/-!
Where the addresses of a sitemap lead. The filters drop none of them and take away fragments at most, so
that two addresses of an entry lead to one target only if they differ in their fragments.
-/

namespace Recrawl

namespace UrlFilter

/-- Where a chain with these names leads from a URL. -/
def targetOf (names : List String) (url : Url) : String :=
  if "strip_fragment" ∈ names then String.ofList (withoutFragment url.render) else url.toString

theorem targetOf_eq {names : List String} {filters : List UrlFilter}
    (h : ofNames names = .ok filters) (url : Url) :
    targetOf names url = String.ofList (remainder filters url.render) := by
  have hmem : stripFragment ∈ filters ↔ "strip_fragment" ∈ names := mem_ofNames h stripFragment
  unfold targetOf remainder
  by_cases hstrip : stripFragment ∈ filters
  · rw [if_pos hstrip, if_pos (hmem.mp hstrip)]
  · rw [if_neg hstrip, if_neg fun hname => hstrip (hmem.mpr hname)]
    rfl

/-- A chain of filters accepts the text of each URL that was read and can be read again. It takes away
the fragment if one of its names says so, and nothing else; its own results it leaves as they are, and
the order of the names and how often they come do not matter. So every address in a sitemap has a
link. -/
theorem applyAll_toString_of_isRead {names : List String}
    (hnames : ∀ name ∈ names, name = "punycode" ∨ name = "strip_fragment") :
    ∃ filters, ofNames names = .ok filters ∧
      (∀ url : Url, url.IsRead → url.IsReadAgain →
        applyAll filters url.toString = some (targetOf names url) ∧
        applyAll filters (targetOf names url) = some (targetOf names url) ∧
        ∀ others, (∀ name, name ∈ others ↔ name ∈ names) → ∃ chain, ofNames others = .ok chain ∧
          applyAll chain url.toString = some (targetOf names url)) ∧
      ∀ (allowPartial : Bool) (address : String) (content : Bytes) (contentType : Option String)
        (sitemap : Sitemap),
        (Sitemap.read allowPartial address content contentType).value = .ok sitemap →
        ∀ entry ∈ sitemap.entries, ∀ url ∈ entry.addresses, url.IsReadAgain →
          ∀ (rules : LinkRules) (source : Url) (parent : Metadata) (tags : List (String × String)),
            rules.filters = filters →
            ∃ link, rules.link? source url.toString parent tags = some link ∧
              link.target = targetOf names url := by
  have hnamed : ∀ name ∈ names, ∃ filter : UrlFilter, filter.name = name := by
    intro name hname
    rcases hnames name hname with rfl | rfl
    · exact ⟨punycode, rfl⟩
    · exact ⟨stripFragment, rfl⟩
  obtain ⟨filters, hfilters⟩ := exists_ofNames hnamed
  have haccept : ∀ url : Url, url.IsRead → url.IsReadAgain →
      applyAll filters url.toString = some (targetOf names url) := by
    intro url hread hagain
    rw [targetOf_eq hfilters]
    exact (isSettled_render hread hagain).applyAll filters
  refine ⟨filters, hfilters, fun url hread hagain => ⟨haccept url hread hagain, ?_, ?_⟩, ?_⟩
  · have hsettled := (isSettled_render hread hagain).remainder filters
    rw [targetOf_eq hfilters, hsettled.applyAll filters, remainder_remainder]
  · intro others hothers
    obtain ⟨chain, hchain⟩ := exists_ofNames fun name hname => hnamed name ((hothers name).mp hname)
    have htarget : targetOf others url = targetOf names url := by
      unfold targetOf
      simp only [hothers]
    refine ⟨chain, hchain, ?_⟩
    rw [← htarget, targetOf_eq hchain]
    exact (isSettled_render hread hagain).applyAll chain
  · intro allowPartial address content contentType sitemap hsitemap entry hentry url hurl hagain rules
      source parent tags hrules
    have hread := Sitemap.isRead_of_read hsitemap entry hentry url hurl
    unfold LinkRules.link?
    rw [hrules, haccept url hread hagain]
    exact ⟨_, rfl, rfl⟩

/-- A mail address with the beginning of a web address in its query. -/
def markedMail : List Char := "mailto:a?u=http://b/#c#d".toList

/-- Whatever comes first, the fragment of the mail address is taken away. -/
theorem applyAll_toString_markedMail :
    applyAll [.stripFragment, .punycode, .stripFragment] (String.ofList markedMail) =
        some "mailto:a?u=http://b/" ∧
      ∃ chain, ofNames ["punycode", "strip_fragment"] = .ok chain ∧
        applyAll chain (String.ofList markedMail) = some "mailto:a?u=http://b/" := by
  let url : Url := ⟨"mailto".toList, none, ['a'], some "u=http://b/".toList, some "c#d".toList⟩
  have hread : url.IsRead := ⟨markedMail, rfl⟩
  have hagain : url.IsReadAgain := ⟨⟨url, rfl⟩, ⟨{ url with fragment := none }, rfl⟩⟩
  have hnames : ∀ name ∈ ["strip_fragment", "punycode", "strip_fragment"],
      name = "punycode" ∨ name = "strip_fragment" := by decide
  obtain ⟨filters, hfilters, hchain, -⟩ := applyAll_toString_of_isRead hnames
  obtain ⟨haccept, -, horder⟩ := hchain url hread hagain
  cases hfilters
  exact ⟨haccept, horder ["punycode", "strip_fragment"] (by simp [or_comm])⟩

end UrlFilter

namespace Sitemap

open UrlFilter (withoutFragment)

/-- The alternate is another text for the address of the entry, apart from the fragment. -/
def Entry.differsInFragment (entry : Entry) (alternate : Alternate) : Bool :=
  alternate.target.toString != entry.location.toString &&
    withoutFragment alternate.target.render == withoutFragment entry.location.render

namespace Resolver

variable {names : List String} {filters : List UrlFilter} {entry : Entry} {alternate : Alternate}
  {own : String}

/-- An alternate that is another text leads to the target of its entry exactly if it leads anywhere
and the chain takes away the difference. -/
theorem applyAll_alternate_eq_own_iff (hnames : UrlFilter.ofNames names = .ok filters)
    (hread : ∀ url ∈ entry.addresses, url.IsRead) (halternate : alternate ∈ entry.alternates)
    (hdiffers : alternate.target.toString ≠ entry.location.toString)
    (hown : UrlFilter.applyAll filters entry.location.toString = some own) :
    UrlFilter.applyAll filters alternate.target.toString = some own ↔
      "strip_fragment" ∈ names ∧ entry.differsInFragment alternate = true ∧
        (UrlFilter.applyAll filters alternate.target.toString).isSome = true := by
  obtain rfl := UrlFilter.eq_of_applyAll_toString (hread _ entry.location_mem_addresses) hown
  have hstrip : UrlFilter.stripFragment ∈ filters ↔ "strip_fragment" ∈ names :=
    UrlFilter.mem_ofNames hnames .stripFragment
  have hrender : alternate.target.render ≠ entry.location.render := fun heq =>
    hdiffers (congrArg String.ofList heq)
  cases hresult : UrlFilter.applyAll filters alternate.target.toString with
  | none => simp
  | some target =>
    obtain rfl := UrlFilter.eq_of_applyAll_toString (hread _ (Entry.target_mem_addresses halternate))
      hresult
    rw [Option.some.injEq, String.ofList_inj, ← hstrip]
    by_cases hmem : UrlFilter.stripFragment ∈ filters
    · simp [UrlFilter.remainder, hmem, Entry.differsInFragment, hdiffers]
    · simp [UrlFilter.remainder, hmem, hrender]

/-- The target of an entry is told once for the entry itself, and once more for each alternate that
leads there as well. -/
theorem count_filterMap_targets (hnames : UrlFilter.ofNames names = .ok filters)
    (hread : ∀ url ∈ entry.addresses, url.IsRead)
    (hown : UrlFilter.applyAll filters entry.location.toString = some own) :
    ((targets entry).filterMap (UrlFilter.applyAll filters)).count own =
      1 + if "strip_fragment" ∈ names then
        entry.alternates.countP fun alternate => entry.differsInFragment alternate &&
          (UrlFilter.applyAll filters alternate.target.toString).isSome
      else 0 := by
  rw [filterMap_targets, hown, List.count_append, List.count_filterMap, List.countP_filter,
    Option.toList_some, List.count_singleton_self, Nat.add_comm]
  congr 1
  have hcount : ∀ alternate ∈ entry.alternates,
      (UrlFilter.applyAll filters alternate.target.toString == some own &&
        alternate.target.toString != entry.location.toString) =
      (decide ("strip_fragment" ∈ names) && (entry.differsInFragment alternate &&
        (UrlFilter.applyAll filters alternate.target.toString).isSome)) := by
    intro alternate halternate
    by_cases hdiffers : alternate.target.toString = entry.location.toString
    · simp [Entry.differsInFragment, hdiffers]
    · have hiff := applyAll_alternate_eq_own_iff hnames hread halternate hdiffers hown
      rw [Bool.eq_iff_iff]
      simpa [hdiffers] using hiff
  rw [List.countP_congr fun alternate halternate => by rw [hcount alternate halternate]]
  split
  · rename_i hstrip
    simp [hstrip]
  · rename_i hstrip
    simp [hstrip]

/-- The links of a list of pages are those of its recent entries in order, and the record counts them
all. Among those of an entry, its own target comes once, and if fragments are taken away, once more
for each accepted alternate whose address is that of the entry but for the fragment. -/
theorem count_own_target {sitemaps : SitemapSettings} {feeds : FeedSettings} {links : LinkSettings}
    {filters : FilterSettings} {p : Pipeline}
    (hp : Pipeline.ofSettings sitemaps feeds links filters = .ok p) {item : WorkItem} {source : Url}
    {sitemap : Sitemap} (hreads : p.sitemaps.Reads item source sitemap)
    (hkind : sitemap.kind = .urlSet) (now : Time.Instant) :
    let accepted := UrlFilter.applyAll p.sitemaps.links.filters
    (∃ record found, (p.sitemaps.process item now).value = .handled record found ∧
      found.map Link.target =
        (sitemap.entries.filter fun entry => entry.isRecent ⟨sitemaps.recentHours, now⟩).flatMap
          (fun entry => (targets entry).filterMap accepted) ∧
      record.metadata.values Key.numLinks = [toString found.length]) ∧
    ∀ entry ∈ sitemap.entries, ∀ own, accepted entry.location.toString = some own →
      ((targets entry).filterMap accepted).count own =
        1 + if "strip_fragment" ∈ links.filters then
          entry.alternates.countP fun alternate => entry.differsInFragment alternate &&
            (accepted alternate.target.toString).isSome
        else 0 := by
  intro accepted
  obtain ⟨metadata, hprocess, -⟩ := finish_of_reads hp hreads now
  have hwindow := window_of_ofSettings hp now
  obtain ⟨chain, rules, -, hrules, rfl⟩ := Pipeline.parts_of_ofSettings hp
  refine ⟨?_, fun entry hentry own hown => ?_⟩
  · rw [hkind, finish_urlSet, linksOf, hkind] at hprocess
    refine ⟨_, _, hprocess, ?_, by simp⟩
    have htargets := targets_pageLinks ⟨sitemaps, rules, chain⟩ source
      ((recognise ⟨sitemaps, rules, chain⟩ item).value.2.erase Key.isSitemap) now sitemap.entries
    rw [hwindow] at htargets
    refine htargets.trans ?_
    simp only [filterMap_targets]
    rfl
  · exact count_filterMap_targets (LinkRules.filters_of_ofSettings hrules)
      (isRead_of_read hreads.sitemap entry hentry) hown

/-- A page that names a place in itself as its alternate. -/
def selfNamingList : WorkItem where
  url := "http://[::1]/"
  content := Bytes.ofString <|
    "<urlset xmlns:x=\x22http://www.w3.org/1999/xhtml\x22><url><loc>http://[::1]/a</loc>" ++
    "<x:link rel=\x22alternate\x22 href=\x22http://[::1]/a#en\x22/></url></urlset>"
  metadata := .ofPairs [(Key.isSitemapNews, "true")]

/-- The page of that list. -/
def selfNamingEntry : Entry :=
  let address : Url := ⟨"http".toList, some { host := some (.ipv6 [0, 0, 0, 0, 0, 0, 0, 1]) },
    "/a".toList, none, none⟩
  { location := address, alternates := [⟨none, { address with fragment := some "en".toList }⟩] }

/-- The page is told twice, for its alternate and for itself, and it is counted twice. -/
theorem count_own_target_selfNamingList :
    let now : Time.Instant := ⟨0, 0, 0, by decide, by decide, by decide⟩
    ∃ record found,
      ((standardPipeline {}).sitemaps.process selfNamingList now).value = .handled record found ∧
      (found.map Link.target).count "http://[::1]/a" = 2 ∧
      record.metadata.values Key.numLinks = ["2"] := by
  intro now
  have hp : Pipeline.ofSettings {} {} {} {} = .ok (standardPipeline {}) := rfl
  obtain ⟨source, sitemap, hreads, hview⟩ := (standardPipeline {}).sitemaps.exists_reads
    selfNamingList (fun sitemap => (sitemap.kind, sitemap.entries)) (.urlSet, [selfNamingEntry])
    (by decide +kernel) (by decide +kernel) (by decide +kernel)
  obtain ⟨hkind, hentries⟩ := Prod.mk.inj hview
  obtain ⟨⟨record, found, hprocess, hfound, hcount⟩, htwice⟩ :=
    count_own_target hp hreads hkind now
  have hrecent : [selfNamingEntry].filter (fun entry => entry.isRecent ⟨-1, now⟩) =
      [selfNamingEntry] := rfl
  rw [hentries, hrecent, List.flatMap_singleton] at hfound
  have hlength : found.length = 2 := by
    rw [← List.length_map Link.target, hfound]
    decide +kernel
  refine ⟨record, found, hprocess, ?_, by rw [hcount, hlength]; rfl⟩
  rw [hfound, htwice selfNamingEntry (hentries ▸ List.mem_singleton_self _) "http://[::1]/a"
    (by decide +kernel)]
  decide +kernel

end Resolver

end Sitemap

end Recrawl
