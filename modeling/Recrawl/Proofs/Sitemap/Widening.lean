import Mathlib.Data.List.Basic
import Mathlib.Data.List.Flatten
import Recrawl.Proofs.Sitemap.Refetch

/-!
Wider windows. A window that reaches further back, or that lies earlier, keeps every date
that the other one keeps, so that it drops no address which the other one leads to, and
leaves the rest in order. Where one of the two has no beginning, it keeps all dates.
-/

namespace Recrawl

namespace Time

/-- Between two readings of the clock on representable days there are no others. -/
theorem Representable.of_between {first clock last : Int} (hfirst : Representable first)
    (hlast : Representable last) (hlow : first ≤ clock) (hhigh : clock ≤ last) :
    Representable clock := by
  simp only [Representable, secondsPerDay] at hfirst hlast ⊢
  omega

namespace Instant

theorem exists_of_representable {clock : Int} (h : Representable clock) {nano : Nat}
    (hnano : nano < 2 * nanosPerSecond) :
    ∃ i : Instant, i.epochSecond = clock ∧ i.nano = nano := by
  cases hmoved : moved? 0 clock nano with
  | none =>
    rw [moved?_eq_none_iff hnano] at hmoved
    exact absurd (by simpa using h) hmoved
  | some i =>
    obtain ⟨hclock, hfraction⟩ := epochSecond_of_moved? hmoved
    exact ⟨i, by simpa using hclock, hfraction⟩

/-- Instants are in the order of their clocks, and on the same second in that of their fractions. -/
theorem le_iff (a b : Instant) :
    a.le b = true ↔
      a.epochSecond < b.epochSecond ∨ a.epochSecond = b.epochSecond ∧ a.nano ≤ b.nano := by
  have ha := a.second_lt
  have hb := b.second_lt
  simp only [secondsPerDay] at ha hb
  simp only [le, epochSecond, secondsPerDay, Bool.or_eq_true, Bool.and_eq_true,
    decide_eq_true_eq, beq_iff_eq]
  omega

theorem le_trans {a b c : Instant} (hab : a.le b = true) (hbc : b.le c = true) :
    a.le c = true := by
  rw [le_iff] at hab hbc ⊢
  omega

variable {now earlier cutoff begin : Instant} {hours wider : Int}

theorem le_of_isHoursBefore (hearlier : earlier.le now = true)
    (hleap : earlier.inLeapSecond = false) (hwider : hours ≤ wider)
    (hcutoff : now.IsHoursBefore cutoff hours) (hbegin : earlier.IsHoursBefore begin wider) :
    begin.le cutoff = true := by
  rw [le_iff] at hearlier ⊢
  simp only [IsHoursBefore, hleap, Bool.false_eq_true, false_and, if_false] at hbegin
  unfold IsHoursBefore at hcutoff
  split at hcutoff
  · rename_i hprolonged
    omega
  · omega

/-- If the way back from an earlier instant by more hours ends anywhere, so does the shorter one. -/
theorem exists_isHoursBefore (hearlier : earlier.le now = true)
    (hleap : earlier.inLeapSecond = false) (hhours : 0 ≤ hours) (hwider : hours ≤ wider)
    (hbegin : earlier.IsHoursBefore begin wider) : ∃ cutoff, now.IsHoursBefore cutoff hours := by
  rw [le_iff] at hearlier
  simp only [IsHoursBefore, hleap, Bool.false_eq_true, false_and, if_false] at hbegin
  have hnano := now.nano_lt
  have hfirst := begin.representable_epochSecond
  have hlast := now.representable_epochSecond
  unfold IsHoursBefore
  split
  · rename_i hprolonged
    exact exists_of_representable (hfirst.of_between hlast (by omega) (by omega)) (by omega)
  · exact exists_of_representable (hfirst.of_between hlast (by omega) (by omega)) hnano

end Instant

end Time

namespace Sitemap

namespace Window

/-- The second window has no limit, or reaches back at least as many hours; and it does so from the
same instant or from an earlier one. -/
structure Widens (narrow wide : Window) : Prop where
  hours : wide.hours < 0 ∨ 0 ≤ narrow.hours ∧ narrow.hours ≤ wide.hours
  now : wide.now.le narrow.now = true
  notProlonged : wide.now.inLeapSecond = false

namespace Widens

variable {narrow wide : Window}

theorem contains (h : narrow.Widens wide) {date : Time.Instant}
    (hdate : narrow.contains date = true) : wide.contains date = true := by
  rw [contains_iff] at hdate ⊢
  by_cases hlimit : wide.hours < 0
  · exact .inl hlimit
  · right
    intro begin hbegin
    obtain ⟨hhours, hwider⟩ := h.hours.resolve_left hlimit
    obtain ⟨cutoff, hcutoff⟩ :=
      Time.Instant.exists_isHoursBefore h.now h.notProlonged hhours hwider hbegin
    have hrecent : cutoff.le date = true := by
      rcases hdate with hnegative | hall
      · omega
      · exact hall cutoff hcutoff
    exact Time.Instant.le_trans
      (Time.Instant.le_of_isHoursBefore h.now h.notProlonged hwider hcutoff hbegin) hrecent

theorem admits (h : narrow.Widens wide) {date : Option Time.Instant}
    (hdate : narrow.admits date = true) : wide.admits date = true := by
  cases date with
  | none => rfl
  | some date => exact h.contains hdate

theorem isRecent (h : narrow.Widens wide) {entry : Entry}
    (hentry : entry.isRecent narrow = true) : entry.isRecent wide = true := by
  simp only [Entry.isRecent, Bool.and_eq_true, List.all_eq_true] at hentry ⊢
  exact ⟨h.admits hentry.1, fun news hnews => h.admits (hentry.2 news hnews)⟩

end Widens

end Window

/-- Where a sitemap leads: an index to further sitemaps, a list of pages to these. -/
def targetsIn (accepted : String → Option String) (window : Window) (sitemap : Sitemap) :
    List String :=
  match sitemap.kind with
  | .index => indexTargets accepted window sitemap.entries
  | .urlSet => pageTargets accepted window sitemap.entries

/-- A wider window leads wherever a narrower one does, in the same order. -/
theorem targetsIn_sublist (accepted : String → Option String) {narrow wide : Window}
    (h : narrow.Widens wide) (sitemap : Sitemap) :
    (targetsIn accepted narrow sitemap).Sublist (targetsIn accepted wide sitemap) := by
  unfold targetsIn
  cases sitemap.kind with
  | index =>
    have hkept := sitemap.entries.monotone_filter_right
      fun entry (hentry : narrow.admits entry.modified = true) => h.admits hentry
    exact hkept.filterMap _
  | urlSet =>
    have hkept := sitemap.entries.monotone_filter_right
      fun entry (hentry : entry.isRecent narrow = true) => h.isRecent hentry
    exact hkept.flatMap _

namespace Resolver

variable {sitemaps : SitemapSettings} {feeds : FeedSettings} {links : LinkSettings}
  {filters : FilterSettings}

theorem targetsIn_of_reads {p : Pipeline}
    (hp : Pipeline.ofSettings sitemaps feeds links filters = .ok p) {item : WorkItem}
    {source : Url} {sitemap : Sitemap} (hreads : p.sitemaps.Reads item source sitemap)
    (now : Time.Instant) :
    ∃ record found, (p.sitemaps.process item now).value = .handled record found ∧
      record.status = .fetched ∧
      found.map Link.target =
        targetsIn (UrlFilter.applyAll p.sitemaps.links.filters) ⟨sitemaps.recentHours, now⟩
          sitemap := by
  obtain ⟨record, found, hprocess, -, hstatus, htargets⟩ := targets_of_reads hp hreads now
  refine ⟨record, found, hprocess, hstatus, htargets.trans ?_⟩
  rw [← window_of_ofSettings hp]
  unfold linksOf targetsIn
  cases sitemap.kind with
  | index => exact p.sitemaps.targets_indexLinks source .empty now sitemap.entries
  | urlSet => exact p.sitemaps.targets_pageLinks source .empty now sitemap.entries

/-- A sitemap that is read within one window is read within a wider one or at an earlier time, and
is fetched there. In both runs it leads exactly where its entries within the window do, so that the
wider one drops no address of the narrower one and keeps their order. -/
theorem targets_sublist_of_widens {narrow wide : Window} {p p' : Pipeline}
    (hp : Pipeline.ofSettings { sitemaps with recentHours := narrow.hours } feeds links filters =
      .ok p)
    (hp' : Pipeline.ofSettings { sitemaps with recentHours := wide.hours } feeds links filters =
      .ok p')
    (hwidens : narrow.Widens wide) {item : WorkItem} {source : Url} {sitemap : Sitemap}
    (hreads : p.sitemaps.Reads item source sitemap) :
    let accepted := UrlFilter.applyAll p.sitemaps.links.filters
    ∃ record found record' found',
      (p.sitemaps.process item narrow.now).value = .handled record found ∧
      record.status = .fetched ∧ found.map Link.target = targetsIn accepted narrow sitemap ∧
      (p'.sitemaps.process item wide.now).value = .handled record' found' ∧
      record'.status = .fetched ∧ found'.map Link.target = targetsIn accepted wide sitemap ∧
      (found.map Link.target).Sublist (found'.map Link.target) := by
  intro accepted
  obtain ⟨chain, rules, hchain, hrules, rfl⟩ := Pipeline.parts_of_ofSettings hp
  obtain ⟨chain', rules', hchain', hrules', rfl⟩ := Pipeline.parts_of_ofSettings hp'
  obtain rfl : chain = chain' := Except.ok.inj (hchain.symm.trans hchain')
  obtain rfl : rules = rules' := Except.ok.inj (hrules.symm.trans hrules')
  have hreads' : Reads ⟨{ sitemaps with recentHours := wide.hours }, rules, chain⟩ item source
      sitemap :=
    ⟨hreads.needsReading, hreads.source, hreads.sitemap⟩
  obtain ⟨record, found, hprocess, hstatus, htargets⟩ :=
    targetsIn_of_reads hp hreads narrow.now
  obtain ⟨record', found', hprocess', hstatus', htargets'⟩ :=
    targetsIn_of_reads hp' hreads' wide.now
  refine ⟨record, found, record', found', hprocess, hstatus, htargets, hprocess', hstatus',
    htargets', ?_⟩
  rw [htargets, htargets']
  exact targetsIn_sublist accepted hwidens sitemap

/-- An hour earlier, within more hours than there are, the old sitemap of the index is followed as
well. -/
theorem targets_sublist_of_unlimited :
    let narrow : Window := ⟨2, 0, 43200, 0, by decide, by decide, by decide⟩
    let wide : Window := ⟨0x7FFFFFFFFFFFFFFF, 0, 39600, 0, by decide, by decide, by decide⟩
    let p := standardPipeline { recentHours := narrow.hours }
    let p' := standardPipeline { recentHours := wide.hours }
    narrow.Widens wide ∧ wide.cutoff? = none ∧
    ∃ record found record' found',
      (p.sitemaps.process verifiedIndex narrow.now).value = .handled record found ∧
      found.map Link.target = ["http://[::1]/b"] ∧
      (p'.sitemaps.process verifiedIndex wide.now).value = .handled record' found' ∧
      found'.map Link.target = ["http://[::1]/a", "http://[::1]/b"] ∧
      (found.map Link.target).Sublist (found'.map Link.target) := by
  intro narrow wide p p'
  have hwidens : narrow.Widens wide := ⟨by decide, by decide, by decide⟩
  let plain : SitemapSettings := {}
  have hp : Pipeline.ofSettings { plain with recentHours := narrow.hours } {} {} {} = .ok p := rfl
  have hp' : Pipeline.ofSettings { plain with recentHours := wide.hours } {} {} {} = .ok p' := rfl
  let accepted := UrlFilter.applyAll p.sitemaps.links.filters
  obtain ⟨source, sitemap, hreads, hview⟩ := p.sitemaps.exists_reads verifiedIndex
    (fun sitemap => (targetsIn accepted narrow sitemap, targetsIn accepted wide sitemap))
    (["http://[::1]/b"], ["http://[::1]/a", "http://[::1]/b"])
    (by decide +kernel) (by decide +kernel) (by decide +kernel)
  obtain ⟨hnarrow, hwide⟩ := Prod.mk.inj hview
  obtain ⟨record, found, record', found', hprocess, -, htargets, hprocess', -, htargets', hfewer⟩ :=
    targets_sublist_of_widens hp hp' hwidens hreads
  exact ⟨hwidens, by decide, record, found, record', found', hprocess, htargets.trans hnarrow,
    hprocess', htargets'.trans hwide, hfewer⟩

end Resolver

end Sitemap

end Recrawl
