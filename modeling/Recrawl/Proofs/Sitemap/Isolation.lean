import Recrawl.Proofs.Sitemap.Discovery

/-!
What an item tells its links. The resolver reads of the metadata of an item its flags, its content
type and what its links take over, and the look at its content rewrites these alike in two
items that agree on them. So nothing else in the metadata gets through to the status and the links.
-/

namespace Recrawl

/-- The two agree on the flags of sitemaps, on the content type, on the inherited keys, and on the
path and the depth as far as these are tracked. -/
structure LinkSettings.Agree (links : LinkSettings) (m m' : Metadata) : Prop where
  flags : ∀ key ∈ [Key.isSitemap, Key.isSitemapNews, Key.isSitemapIndex, Key.isSitemapVerified],
    m.flag key = m'.flag key
  contentType : m.first? Key.contentType = m'.first? Key.contentType
  inherited : ∀ key ∈ links.inherited, m.values key = m'.values key
  path : links.tracksPath = true → m.values Key.path = m'.values Key.path
  depth : links.tracksDepth = true → m.first? Key.depth = m'.first? Key.depth

namespace Metadata

variable {m m' : Metadata} {key : String}

theorem values_setFlag_congr (h : m.values key = m'.values key) (other : String) (value : Bool) :
    (m.setFlag other value).values key = (m'.setFlag other value).values key := by
  rw [values_setFlag, values_setFlag, h]

theorem values_erase_congr (h : m.values key = m'.values key) (other : String) :
    (m.erase other).values key = (m'.erase other).values key := by
  rw [values_erase, values_erase, h]

end Metadata

namespace Sitemap

namespace Flags

variable {m m' : Metadata} {key : String}

theorem ofMetadata_congr {links : LinkSettings} (h : links.Agree m m') :
    ofMetadata m = ofMetadata m' := by
  have hflags := h.flags
  simp only [List.forall_mem_cons] at hflags
  obtain ⟨hsitemap, hnews, hindex, hverified, -⟩ := hflags
  rw [ofMetadata, ofMetadata, hsitemap, hnews, hindex, hverified]

theorem values_clear_congr (h : m.values key = m'.values key) (isOn : Bool) (other : String) :
    (clear m isOn other).values key = (clear m' isOn other).values key := by
  cases isOn with
  | true => exact Metadata.values_setFlag_congr h other false
  | false => exact h

/-- A verdict gives equal flags to equal flags, and equal values to equal values of a key. -/
theorem reconcile_congr (flags : Flags) (verdict : Verdict) (m m' : Metadata) :
    (flags.reconcile verdict m).1 = (flags.reconcile verdict m').1 ∧
      ∀ key, m.values key = m'.values key →
        (flags.reconcile verdict m).2.values key = (flags.reconcile verdict m').2.values key := by
  have hmarked (key : String) (h : m.values key = m'.values key) :=
    Metadata.values_setFlag_congr h Key.isSitemap true
  cases verdict with
  | news =>
    exact ⟨rfl, fun key h => Metadata.values_setFlag_congr (hmarked key h) _ true⟩
  | index =>
    refine ⟨rfl, ?_⟩
    intro key h
    exact Metadata.values_setFlag_congr (values_clear_congr (hmarked key h) _ _) _ true
  | sitemap =>
    cases hverified : flags.verified with
    | true =>
      simp only [reconcile, hverified, if_true, true_and]
      exact hmarked
    | false =>
      simp only [reconcile, hverified, Bool.false_eq_true, if_false, true_and]
      intro key h
      exact values_clear_congr (values_clear_congr (hmarked key h) _ _) _ _

end Flags

namespace Resolver

theorem recognise_congr (r : Resolver) (url : String) (content : Bytes) {m m' : Metadata}
    (h : Flags.ofMetadata m = Flags.ofMetadata m') :
    (r.recognise ⟨url, content, m⟩).value.1 = (r.recognise ⟨url, content, m'⟩).value.1 ∧
      ∀ key, m.values key = m'.values key →
        (r.recognise ⟨url, content, m⟩).value.2.values key =
          (r.recognise ⟨url, content, m'⟩).value.2.values key := by
  rw [value_recognise, value_recognise]
  change (Flags.after m (r.sniff? content)).1 = (Flags.after m' (r.sniff? content)).1 ∧ _
  cases r.sniff? content with
  | none => exact ⟨h, fun key hkey => hkey⟩
  | some verdict =>
    rw [Flags.after, Flags.after, h]
    exact Flags.reconcile_congr _ verdict m m'

theorem linksOf_congr (r : Resolver) (source : Url) {parent parent' : Metadata}
    (h : r.links.transfer source.toString parent = r.links.transfer source.toString parent')
    (now : Time.Instant) (sitemap : Sitemap) :
    r.linksOf source parent now sitemap = r.linksOf source parent' now sitemap := by
  have hlink (target : String) (tags : List (String × String)) :
      r.links.link? source target parent tags = r.links.link? source target parent' tags := by
    rw [LinkRules.link?, LinkRules.link?, h]
  have hindex : r.indexFate source parent now = r.indexFate source parent' now := by
    funext entry
    simp only [indexFate, hlink]
  have hpage : r.pageFates source parent now = r.pageFates source parent' now := by
    funext entry
    simp only [pageFates, hlink]
  unfold linksOf indexLinks pageLinks
  rw [hindex, hpage]

/-- A document is read alike, and has the same links, behind metadata from which the same is taken
over. -/
theorem courseOfRead_congr (r : Resolver) (flags : Flags) (url : String) (content : Bytes)
    (now : Time.Instant) {m m' : Metadata}
    (htype : (m.erase Key.isSitemap).first? Key.contentType =
      (m'.erase Key.isSitemap).first? Key.contentType)
    (htransfer : ∀ source, r.links.transfer source (m.erase Key.isSitemap) =
      r.links.transfer source (m'.erase Key.isSitemap)) :
    (r.courseOfRead flags ⟨url, content, m⟩ now).status? =
        (r.courseOfRead flags ⟨url, content, m'⟩ now).status? ∧
      (r.courseOfRead flags ⟨url, content, m⟩ now).links =
        (r.courseOfRead flags ⟨url, content, m'⟩ now).links := by
  unfold courseOfRead
  cases Url.parse url with
  | error fault => exact ⟨rfl, rfl⟩
  | ok source =>
    simp only [htype]
    cases (Sitemap.read r.settings.allowPartial url content
        ((m'.erase Key.isSitemap).first? Key.contentType)).value with
    | error fault => exact ⟨rfl, rfl⟩
    | ok sitemap =>
      simp only [r.linksOf_congr source (htransfer source.toString)]
      cases sitemap.kind with
      | index => exact ⟨rfl, rfl⟩
      | urlSet => exact ⟨rfl, rfl⟩

section

variable {links : LinkSettings} {r : Resolver}
  (hrules : r.links.inherited = links.inherited ∧ r.links.tracksPath = links.tracksPath ∧
    r.links.tracksDepth = links.tracksDepth)
  {m m' : Metadata} (h : links.Agree m m') (url : String) (content : Bytes)

include hrules h

/-- Behind the look, what reading sees of the metadata and what its links take over are the same. -/
theorem seen_congr_of_agree :
    let parent := (r.recognise ⟨url, content, m⟩).value.2.erase Key.isSitemap
    let parent' := (r.recognise ⟨url, content, m'⟩).value.2.erase Key.isSitemap
    parent.first? Key.contentType = parent'.first? Key.contentType ∧
      ∀ source, r.links.transfer source parent = r.links.transfer source parent' := by
  intro parent parent'
  obtain ⟨hkeys, htracksPath, htracksDepth⟩ := hrules
  obtain ⟨-, hvalues⟩ := r.recognise_congr url content (Flags.ofMetadata_congr h)
  have hfirst (key : String) (hkey : key ∉ Key.classifying)
      (hsame : m.first? key = m'.first? key) : parent.first? key = parent'.first? key := by
    rw [Metadata.first?_congr (r.values_erase_recognise ⟨url, content, m⟩ hkey),
      Metadata.first?_congr (r.values_erase_recognise ⟨url, content, m'⟩ hkey)]
    exact hsame
  refine ⟨hfirst Key.contentType (by decide) h.contentType, ?_⟩
  intro source
  -- The look rewrites keys that may be inherited, so these are compared behind it.
  apply LinkRules.transfer_congr
  · intro key hkey
    rw [hkeys] at hkey
    exact Metadata.values_erase_congr (hvalues key (h.inherited key hkey)) _
  · intro htracks
    have hpath := h.path (htracksPath.symm.trans htracks)
    exact Metadata.values_erase_congr (hvalues Key.path hpath) _
  · intro htracks
    exact hfirst Key.depth (by decide) (h.depth (htracksDepth.symm.trans htracks))

theorem course_congr_of_agree (now : Time.Instant) :
    (r.course ⟨url, content, m⟩ now).status? = (r.course ⟨url, content, m'⟩ now).status? ∧
      (r.course ⟨url, content, m⟩ now).links = (r.course ⟨url, content, m'⟩ now).links := by
  obtain ⟨hflags, -⟩ := r.recognise_congr url content (Flags.ofMetadata_congr h)
  obtain ⟨htype, htransfer⟩ := seen_congr_of_agree hrules h url content
  simp only [course, hflags]
  split
  · exact r.courseOfRead_congr _ url content now htype htransfer
  · split
    · exact ⟨rfl, rfl⟩
    · exact ⟨rfl, rfl⟩

end

/-- Of two items with one address and one content whose metadata agree on what counts, the resolver
passes both on or tells the same status of both, and it finds the same links in both. -/
theorem process_congr_of_agree {sitemaps : SitemapSettings} {feeds : FeedSettings}
    {links : LinkSettings} {filters : FilterSettings} {p : Pipeline}
    (hp : Pipeline.ofSettings sitemaps feeds links filters = .ok p)
    {m m' : Metadata} (h : links.Agree m m') (url : String) (content : Bytes)
    (now : Time.Instant) :
    (p.sitemaps.process ⟨url, content, m⟩ now).value.status? =
        (p.sitemaps.process ⟨url, content, m'⟩ now).value.status? ∧
      (p.sitemaps.process ⟨url, content, m⟩ now).value.links =
        (p.sitemaps.process ⟨url, content, m'⟩ now).value.links := by
  obtain ⟨hstatus, hlinks⟩ := course_congr_of_agree (links_of_ofSettings hp) h url content now
  obtain ⟨hone, hfound⟩ :=
    Course.status?_and_links_outcome hp (p.sitemaps.course ⟨url, content, m⟩ now) ⟨url, content, m⟩
  obtain ⟨hother, hfound'⟩ := Course.status?_and_links_outcome hp
    (p.sitemaps.course ⟨url, content, m'⟩ now) ⟨url, content, m'⟩
  rw [value_process, value_process]
  exact ⟨hone.trans (hstatus.trans hother.symm), hfound.trans (hlinks.trans hfound'.symm)⟩

/-- A pipeline that looks at contents, and whose links take over two keys. -/
def inheritingPipeline : Pipeline :=
  ⟨⟨{ sniffsContent := true }, { inherited := ["topic", Key.isSitemapNews] }, ParseFilter.standard⟩,
    ⟨{}, ParseFilter.standard⟩⟩

/-- An index with one entry. -/
def shortIndex : Bytes :=
  Bytes.ofString "<sitemapindex><sitemap><loc>http://[::1]/a</loc></sitemap></sitemapindex>"

/-- What is told of an index that is taken for news. -/
def plainTold : Metadata :=
  .ofPairs [("topic", "sports"), (Key.depth, "3"), (Key.isSitemapNews, "true")]

/-- The same in another order, with a secret, and with another depth behind the first. -/
def secretTold : Metadata :=
  .ofPairs [("secret", "x"), (Key.isSitemapNews, "true"), (Key.depth, "3"), (Key.depth, "9"),
    ("topic", "sports")]

/-- The order and the secret do not reach the link. -/
theorem process_congr_of_agree_secretTold :
    let now : Time.Instant := ⟨0, 0, 0, by decide, by decide, by decide⟩
    let plain := inheritingPipeline.sitemaps.process ⟨"http://[::1]/", shortIndex, plainTold⟩ now
    let secret := inheritingPipeline.sitemaps.process ⟨"http://[::1]/", shortIndex, secretTold⟩ now
    plainTold ≠ secretTold ∧ secret.value.status? = some .fetched ∧
      secret.value.links = plain.value.links ∧
      secret.value.links.map (fun link => (link.target, link.metadata.keys)) =
        [("http://[::1]/a", ["topic", Key.isSitemapNews, Key.path, Key.depth, Key.isSitemap])] := by
  intro now plain secret
  have hp : Pipeline.ofSettings { sniffsContent := true } {}
      { inherited := ["topic", Key.isSitemapNews] } {} = .ok inheritingPipeline := rfl
  have hagree : LinkSettings.Agree { inherited := ["topic", Key.isSitemapNews] } secretTold
      plainTold :=
    ⟨by decide, by decide, by decide, by decide, by decide⟩
  obtain ⟨hstatus, hlinks⟩ :=
    process_congr_of_agree hp hagree "http://[::1]/" shortIndex now
  have hplain : plain.value.status? = some .fetched := by decide +kernel
  refine ⟨by decide, hstatus.trans hplain, hlinks, ?_⟩
  rw [hlinks]
  decide +kernel

end Resolver

end Sitemap

end Recrawl
