import Recrawl.Proofs.Sitemap.Discovery

/-!
Descent from a seed. Each item comes from a link of the one before, and its content is whatever
is fetched there. The metadata of the last item tells the way to it: the number of items that
were passed and their addresses, and whether it can be trusted, which is so only behind a
trusted seed and nothing but indexes.
-/

namespace Recrawl

/-- The address of an item in its normal form, if it has one. -/
def WorkItem.address? (item : WorkItem) : Option String :=
  (Url.parse item.url).toOption.map Url.toString

namespace Sitemap.Resolver

/-- The next item has the target and the metadata of a link of this one, and any content. -/
def LeadsTo (r : Resolver) (item next : WorkItem) : Prop :=
  ∃ now, ∃ link ∈ (r.process item now).value.links,
    next.url = link.target ∧ next.metadata = link.metadata

/-- Links lead from the first item through those that are passed, in order, to the last one. -/
inductive Descent (r : Resolver) (first : WorkItem) : List WorkItem → WorkItem → Prop
  | seed : Descent r first [] first
  | follow {passed : List WorkItem} {item next : WorkItem} :
      Descent r first passed item → r.LeadsTo item next → Descent r first (passed ++ [item]) next

/-- The item was read, and as an index. -/
def IsReadAsIndex (r : Resolver) (item : WorkItem) : Prop :=
  ∃ source sitemap, r.Reads item source sitemap ∧ sitemap.kind = .index

theorem Reads.isReadAsIndex_iff {r : Resolver} {item : WorkItem} {source : Url} {sitemap : Sitemap}
    (h : r.Reads item source sitemap) : r.IsReadAsIndex item ↔ sitemap.kind = .index := by
  constructor
  · rintro ⟨source', sitemap', hreads, hkind⟩
    have hsame := hreads.sitemap.symm.trans h.sitemap
    cases hsame
    exact hkind
  · intro hkind
    exact ⟨source, sitemap, h, hkind⟩

variable {sitemaps : SitemapSettings} {feeds : FeedSettings} {links : LinkSettings}
  {filters : FilterSettings} {p : Pipeline}
  (hp : Pipeline.ofSettings sitemaps feeds links filters = .ok p)
  {first item next last : WorkItem} {passed : List WorkItem}

section

include hp

/-- One link further the depth is one more and the path is longer by the address of the item. -/
theorem depth_and_path_of_leadsTo (hdepth : links.tracksDepth = true)
    (hpath : links.tracksPath = true) (h : p.sitemaps.LeadsTo item next) :
    next.metadata.values Key.depth = [toString (LinkRules.depthOf item.metadata + 1).toNat] ∧
      (next.metadata.values Key.path).map some =
        (item.metadata.values Key.path).map some ++ [item.address?] := by
  obtain ⟨now, link, hlink, -, hmetadata⟩ := h
  obtain ⟨source, hsource, hvalues⟩ := values_of_mem_links hp hlink
  obtain ⟨-, htracksPath, htracksDepth⟩ := links_of_ofSettings hp
  rw [hpath] at htracksPath
  rw [hdepth] at htracksDepth
  have hne : Key.path ≠ Key.depth := by decide
  have haddress : item.address? = some source.toString := by
    rw [WorkItem.address?, hsource]
    rfl
  rw [hmetadata]
  constructor
  · rw [hvalues Key.depth (by decide) (by decide) (by decide), LinkRules.values_transfer,
      if_pos ⟨htracksDepth, rfl⟩]
  · rw [hvalues Key.path (by decide) (by decide) (by decide), LinkRules.values_transfer,
      if_neg fun h => hne h.2, if_pos ⟨htracksPath, rfl⟩, haddress, List.map_append]
    rfl

/-- The depth that is read counts the items that were passed, as long as it fits into its word, and
the path lists their addresses. -/
theorem way_of_descent (hdepth : links.tracksDepth = true) (hpath : links.tracksPath = true)
    (hnoDepth : first.metadata.values Key.depth = [])
    (hnoPath : first.metadata.values Key.path = [])
    (h : p.sitemaps.Descent first passed last) (hlength : passed.length < UInt32.size) :
    (LinkRules.depthOf last.metadata).toNat = passed.length ∧
      (last.metadata.values Key.path).map some = passed.map WorkItem.address? := by
  induction h with
  | seed =>
    rw [LinkRules.depthOf_of_values_eq_nil hnoDepth, hnoPath]
    exact ⟨rfl, rfl⟩
  | follow hbefore hlead ih =>
    rw [List.length_append, List.length_singleton] at hlength
    obtain ⟨hcount, hway⟩ := ih (by omega)
    obtain ⟨hnextDepth, hnextPath⟩ := depth_and_path_of_leadsTo hp hdepth hpath hlead
    rw [LinkRules.toNat_depthOf_add_one (by omega), hcount] at hnextDepth
    -- The depth goes through its decimal text at every link, so it is compared as it is read.
    constructor
    · rw [LinkRules.depthOf_of_values hnextDepth hlength, List.length_append,
        List.length_singleton]
    · rw [hnextPath, hway, List.map_append]
      rfl

/-- An item that is reached from a seed without depth and path records its way: its depth is the
number of items that were passed, and its path lists their addresses in order. -/
theorem depth_and_path_of_descent (hdepth : links.tracksDepth = true)
    (hpath : links.tracksPath = true) (hnoDepth : first.metadata.values Key.depth = [])
    (hnoPath : first.metadata.values Key.path = [])
    (hdescent : p.sitemaps.Descent first passed last) (hpassed : passed ≠ [])
    (hlength : passed.length < UInt32.size) :
    last.metadata.values Key.depth = [toString passed.length] ∧
      passed.map WorkItem.address? = (last.metadata.values Key.path).map some := by
  obtain ⟨-, hway⟩ := way_of_descent hp hdepth hpath hnoDepth hnoPath hdescent hlength
  refine ⟨?_, hway.symm⟩
  cases hdescent with
  | seed => exact absurd rfl hpassed
  | follow hbefore hlead =>
    rw [List.length_append, List.length_singleton] at hlength ⊢
    obtain ⟨hcount, -⟩ :=
      way_of_descent hp hdepth hpath hnoDepth hnoPath hbefore (by omega)
    rw [(depth_and_path_of_leadsTo hp hdepth hpath hlead).1,
      LinkRules.toNat_depthOf_add_one (by omega), hcount]

end

/-- A verified index, without the slash at the end of its address. -/
def trustedIndex : WorkItem where
  url := "http://[::1]"
  content := Bytes.ofString
    "<sitemapindex><sitemap><loc>http://[::1]/a</loc></sitemap></sitemapindex>"
  metadata := .ofPairs [(Key.isSitemapVerified, "True")]

/-- The list of pages behind it. -/
def trustedList : WorkItem where
  url := "http://[::1]/a"
  content := Bytes.ofString "<urlset><url><loc>http://[::1]/b</loc></url></urlset>"
  metadata := .ofPairs [(Key.path, "http://[::1]/"), (Key.depth, "1"), (Key.isSitemap, "true"),
    (Key.isSitemapNews, "false"), (Key.isSitemapVerified, "true")]

/-- The page behind both. -/
def pageBehind : WorkItem where
  url := "http://[::1]/b"
  content := []
  metadata := .ofPairs [(Key.path, "http://[::1]/"), (Key.path, "http://[::1]/a"), (Key.depth, "2"),
    (Key.isSitemap, "false"), (Key.isSitemapNews, "false")]

theorem descent_trustedList :
    (standardPipeline {}).sitemaps.Descent trustedIndex [trustedIndex] trustedList := by
  let now : Time.Instant := ⟨0, 0, 0, by decide, by decide, by decide⟩
  have hlead : (standardPipeline {}).sitemaps.LeadsTo trustedIndex trustedList :=
    ⟨now, ⟨trustedList.url, trustedList.metadata⟩, by decide +kernel, rfl, rfl⟩
  exact .follow .seed hlead

theorem descent_pageBehind :
    (standardPipeline {}).sitemaps.Descent trustedIndex [trustedIndex, trustedList] pageBehind := by
  let now : Time.Instant := ⟨0, 0, 0, by decide, by decide, by decide⟩
  have hlead : (standardPipeline {}).sitemaps.LeadsTo trustedList pageBehind :=
    ⟨now, ⟨pageBehind.url, pageBehind.metadata⟩, by decide +kernel, rfl, rfl⟩
  exact .follow descent_trustedList hlead

/-- The page behind two documents tells both. -/
theorem depth_and_path_of_descent_pageBehind :
    let passed := [trustedIndex, trustedList]
    (standardPipeline {}).sitemaps.Descent trustedIndex passed pageBehind ∧
      pageBehind.metadata.values Key.depth = [toString passed.length] ∧
      passed.map WorkItem.address? = (pageBehind.metadata.values Key.path).map some ∧
      passed.map WorkItem.address? = [some "http://[::1]/", some "http://[::1]/a"] := by
  intro passed
  have hp : Pipeline.ofSettings {} {} {} {} = .ok (standardPipeline {}) := rfl
  obtain ⟨hdepth, hpath⟩ := depth_and_path_of_descent hp rfl rfl (by decide) (by decide)
    descent_pageBehind (by decide) (by decide)
  exact ⟨descent_pageBehind, hdepth, hpath, hpath.trans rfl⟩

section

include hp

/-- A link is trusted exactly if its item is, and was read as an index. -/
theorem verified_of_leadsTo (hinherited : Key.isSitemapVerified ∉ links.inherited)
    (h : p.sitemaps.LeadsTo item next) :
    next.metadata.flag Key.isSitemapVerified = true ↔
      item.metadata.flag Key.isSitemapVerified = true ∧ p.sitemaps.IsReadAsIndex item := by
  obtain ⟨now, link, hlink, -, hmetadata⟩ := h
  obtain ⟨source, sitemap, hreads, hverified⟩ := flag_verified_of_mem_links hp hinherited hlink
  rw [hmetadata, hverified, hreads.isReadAsIndex_iff]

/-- An item is verified exactly if the seed is and every item that was passed was read as an index.
Whatever the contents, behind an item that is not verified none is. -/
theorem verified_iff_of_descent (hinherited : Key.isSitemapVerified ∉ links.inherited)
    (hdescent : p.sitemaps.Descent first passed last) :
    (last.metadata.flag Key.isSitemapVerified = true ↔
        first.metadata.flag Key.isSitemapVerified = true ∧
          ∀ item ∈ passed, p.sitemaps.IsReadAsIndex item) ∧
      ∀ item ∈ passed, item.metadata.flag Key.isSitemapVerified = false →
        last.metadata.flag Key.isSitemapVerified = false := by
  induction hdescent with
  | seed => simp
  | follow hbefore hlead ih =>
    obtain ⟨hiff, hunverified⟩ := ih
    have hstep := verified_of_leadsTo hp hinherited hlead
    constructor
    · rw [hstep, hiff, List.forall_mem_append, List.forall_mem_singleton, and_assoc]
    · intro earlier hearlier hflag
      rw [Bool.eq_false_iff]
      intro hnext
      -- A verified link needs a verified item, and this one is not, or is behind one that is not.
      obtain ⟨hitem, -⟩ := hstep.mp hnext
      rcases List.mem_append.mp hearlier with hpassed | hlast
      · rw [hunverified earlier hpassed hflag] at hitem
        cases hitem
      · rw [List.mem_singleton.mp hlast, hitem] at hflag
        cases hflag

end

/-- That the list is verified and the page is not tells which of the two was read as an index. -/
theorem verified_iff_of_descent_pageBehind :
    let r := (standardPipeline {}).sitemaps
    r.Descent trustedIndex [trustedIndex] trustedList ∧
      trustedList.metadata.flag Key.isSitemapVerified = true ∧
      r.Descent trustedIndex [trustedIndex, trustedList] pageBehind ∧
      pageBehind.metadata.flag Key.isSitemapVerified = false ∧
      r.IsReadAsIndex trustedIndex ∧ ¬ r.IsReadAsIndex trustedList := by
  intro r
  have hp : Pipeline.ofSettings {} {} {} {} = .ok (standardPipeline {}) := rfl
  have hverified : trustedList.metadata.flag Key.isSitemapVerified = true := by decide
  have hunverified : pageBehind.metadata.flag Key.isSitemapVerified = false := by decide
  obtain ⟨hlist, -⟩ := verified_iff_of_descent hp (by decide) descent_trustedList
  obtain ⟨hpage, -⟩ := verified_iff_of_descent hp (by decide) descent_pageBehind
  obtain ⟨htrusted, hread⟩ := hlist.mp hverified
  have hindex := hread trustedIndex (by simp)
  refine ⟨descent_trustedList, hverified, descent_pageBehind, hunverified, hindex, ?_⟩
  intro hlistRead
  refine Bool.eq_false_iff.mp hunverified (hpage.mpr ⟨htrusted, ?_⟩)
  intro item hitem
  rcases List.mem_cons.mp hitem with rfl | hrest
  · exact hindex
  · rw [List.mem_singleton.mp hrest]
    exact hlistRead

end Sitemap.Resolver

end Recrawl
