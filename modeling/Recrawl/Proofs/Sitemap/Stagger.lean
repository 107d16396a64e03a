import Mathlib.Algebra.Group.Int.Defs
import Recrawl.Proofs.Schedule.Next
import Recrawl.Proofs.Sitemap.Discovery

/-!
The first fetches of the sitemaps of an index. A link tells its delay by its place among the
links that are found, and the schedule reads the delay back, so that one sitemap after the
other is due. What is dropped from the index leaves no gap.
-/

namespace Recrawl

namespace Time.Instant

/-- Outside leap seconds the clock goes on by the minutes, wherever there is such an instant. -/
theorem afterMinutes?_eq_some_iff {now : Instant} (hleap : now.inLeapSecond = false)
    {minutes : Int64} (h : 0 ≤ minutes.toInt) (later : Instant) :
    now.afterMinutes? minutes = some later ↔
      later.epochSecond = now.epochSecond + minutes.toInt * 60 ∧ later.nano = now.nano := by
  have hmoved (found : Instant) (hfound : now.afterMinutes? minutes = some found) :
      found.epochSecond = now.epochSecond + minutes.toInt * 60 ∧ found.nano = now.nano := by
    simpa [IsMinutesAfter, nanoAfter, hleap] using isMinutesAfter_of_afterMinutes? hfound
  constructor
  · exact hmoved later
  · rintro ⟨hclock, hnano⟩
    cases hfound : now.afterMinutes? minutes with
    | none =>
      rw [now.afterMinutes?_eq_none_iff h, ← hclock] at hfound
      exact absurd later.representable_epochSecond hfound
    | some found =>
      obtain ⟨hother, hsame⟩ := hmoved found hfound
      rw [eq_of_epochSecond_eq (hother.trans hclock.symm) (hsame.trans hnano.symm)]

end Time.Instant

namespace ScheduleSettings

theorem toInt_discoveryDelay_of_nil {m : Metadata} (h : m.values Key.delay = []) :
    (discoveryDelay m).toInt = 0 := by
  rw [discoveryDelay, (m.first?_eq_none_iff _).mpr h]
  rfl

theorem toInt_discoveryDelay_of_values {m : Metadata} {minutes : Int}
    (h : m.values Key.delay = [toString minutes]) (hlow : 0 ≤ minutes)
    (hhigh : minutes < 2 ^ 63) : (discoveryDelay m).toInt = minutes := by
  have hword : (Int64.ofInt minutes).toInt = minutes := Int64.toInt_ofInt_of_le (by omega) hhigh
  have hread : readMinutes (toString minutes) = .ok (Int64.ofInt minutes) := by
    rw [← readMinutes_toString, hword]
  rw [discoveryDelay, Metadata.first?_of_values h, Option.map_some, hread]
  rw [IntervalBounds.toInt_max, hword, Int64.toInt_zero]
  omega

/-- Steps that a word can count do not wrap around. -/
theorem toInt_ofNat_mul {place : Nat} {step : Int64} (hstep : 0 ≤ step.toInt)
    (h : place * step.toInt < 2 ^ 63) : (Int64.ofNat place * step).toInt = place * step.toInt := by
  have hnonneg := Int.mul_nonneg (Int.natCast_nonneg place) hstep
  have hproduct : Int64.ofNat place * step = Int64.ofInt (place * step.toInt) := by
    rw [Int64.ofInt_mul, Int64.ofInt_toInt, Int64.ofInt_eq_ofNat]
  rw [hproduct, Int64.toInt_ofInt_of_le (by omega) h]

/-- The delay of a place is read as so many steps, and as none where there are no steps. -/
theorem toInt_discoveryDelay_of_place {m : Metadata} {place : Nat} {step : Int64}
    (h : m.values Key.delay =
      if 0 < step ∧ 0 < Int64.ofNat place * step then
        [toString (Int64.ofNat place * step).toInt]
      else [])
    (hhigh : place * max step.toInt 0 < 2 ^ 63) :
    (discoveryDelay m).toInt = place * max step.toInt 0 := by
  simp only [Int64.lt_iff_toInt_lt, Int64.toInt_zero] at h
  rcases Int.le_total step.toInt 0 with hnone | hsome
  · rw [if_neg (by omega)] at h
    rw [toInt_discoveryDelay_of_nil h, Int.max_eq_right hnone, Int.mul_zero]
  · have hnonneg := Int.mul_nonneg (Int.natCast_nonneg place) hsome
    rw [Int.max_eq_left hsome] at hhigh ⊢
    rw [toInt_ofNat_mul hsome hhigh] at h
    split at h
    · exact toInt_discoveryDelay_of_values h hnonneg hhigh
    · rename_i hnone
      rw [toInt_discoveryDelay_of_nil h]
      rcases Int.lt_or_eq_of_le hsome with hpos | hzero
      · omega
      · rw [← hzero, Int.mul_zero]

theorem next_discovered (s : ScheduleSettings) (m : Metadata) {start : Time.Instant}
    (hleap : start.inLeapSecond = false) {minutes : Int} (hnonneg : 0 ≤ minutes)
    (hdelay : (discoveryDelay m).toInt = minutes) :
    let due := s.baseline? .discovered m start
    (s.next .discovered m start).value = (m, due) ∧
      (∀ date, due = some date ↔
        date.epochSecond = start.epochSecond + minutes * 60 ∧ date.nano = start.nano) ∧
      (due = none ↔ ¬ Time.Representable (start.epochSecond + minutes * 60)) := by
  intro due
  have hdue : due = start.afterMinutes? (discoveryDelay m) := rfl
  refine ⟨s.value_next_of_ne_fetched (by decide) m start, ?_, ?_⟩
  · intro date
    rw [hdue, Time.Instant.afterMinutes?_eq_some_iff hleap (by omega), hdelay]
  · rw [hdue, start.afterMinutes?_eq_none_iff (by omega), hdelay]

end ScheduleSettings

namespace Sitemap.Resolver

theorem values_delay_withDelay (r : Resolver) (place : Nat) (link : Link) :
    (r.withDelay place link).metadata.values Key.delay =
      let step := r.settings.delayMinutes
      if 0 < step ∧ 0 < Int64.ofNat place * step then
        [toString (Int64.ofNat place * step).toInt]
      else link.metadata.values Key.delay := by
  unfold withDelay
  simp only
  split
  · simp
  · rfl

theorem exists_of_getElem?_indexLinks (r : Resolver) (source : Url) (parent : Metadata)
    (now : Time.Instant) {entries : List Entry} {place : Nat} {link : Link}
    (h : (r.indexLinks source parent now entries)[place]? = some link) :
    ∃ target made, r.links.link? source target parent (tags true) = some made ∧
      link = r.withDelay place made := by
  rw [indexLinks, List.getElem?_mapIdx] at h
  obtain ⟨made, hmade, rfl⟩ := Option.map_eq_some_iff.mp h
  obtain ⟨fate, hfate, hlink⟩ := List.mem_filterMap.mp (List.mem_of_getElem? hmade)
  obtain ⟨entry, -, rfl⟩ := List.mem_map.mp hfate
  rw [link?_indexFate] at hlink
  split at hlink
  · exact ⟨entry.location.toString, made, hlink, rfl⟩
  · cases hlink

/-- Unless the delay is inherited, a link has that of its place and no other. -/
theorem values_delay_of_getElem?_indexLinks (r : Resolver) (source : Url) (parent : Metadata)
    (now : Time.Instant) (hinherited : Key.delay ∉ r.links.inherited) {entries : List Entry}
    {place : Nat} {link : Link}
    (h : (r.indexLinks source parent now entries)[place]? = some link) :
    link.metadata.values Key.delay =
      let step := r.settings.delayMinutes
      if 0 < step ∧ 0 < Int64.ofNat place * step then
        [toString (Int64.ofNat place * step).toInt]
      else [] := by
  obtain ⟨target, made, hmade, rfl⟩ := r.exists_of_getElem?_indexLinks source parent now h
  have htags : ∀ tag ∈ tags true, Key.delay ≠ tag.1 := by decide
  have hne : Key.delay ≠ Key.depth ∧ Key.delay ≠ Key.path := by decide
  have hvalues : made.metadata.values Key.delay = [] := by
    rw [LinkRules.values_of_link? hmade htags, LinkRules.values_transfer,
      if_neg fun h => hne.1 h.2, if_neg fun h => hne.2 h.2, if_neg hinherited]
  rw [values_delay_withDelay, hvalues]

theorem values_delay_markLink (verified : Bool) (link : Link) :
    (markLink verified link).metadata.values Key.delay = link.metadata.values Key.delay := by
  have hne : Key.delay ≠ Key.isSitemap ∧ Key.delay ≠ Key.isSitemapVerified := by decide
  cases verified <;> simp [markLink, hne]

variable {sitemaps : SitemapSettings} {feeds : FeedSettings} {links : LinkSettings}
  {filters : FilterSettings} {p : Pipeline}

theorem delayMinutes_of_ofSettings
    (hp : Pipeline.ofSettings sitemaps feeds links filters = .ok p) :
    p.sitemaps.settings.delayMinutes = sitemaps.delayMinutes := by
  obtain ⟨chain, rules, -, -, rfl⟩ := Pipeline.parts_of_ofSettings hp
  rfl

/-- The sitemaps of an index are due one after the other. The link at each place among those that
are found is due so many steps after the time at which it is scheduled, and has no date exactly if
that one cannot be represented; the schedule changes nothing in its metadata. Only entries that are
recent and accepted have a place. -/
theorem due_of_place (hp : Pipeline.ofSettings sitemaps feeds links filters = .ok p)
    (hinherited : Key.delay ∉ links.inherited) {item : WorkItem} {source : Url}
    {sitemap : Sitemap} (hreads : p.sitemaps.Reads item source sitemap)
    (hkind : sitemap.kind = .index) (now : Time.Instant) :
    let step := max sitemaps.delayMinutes.toInt 0
    ∃ record found, (p.sitemaps.process item now).value = .handled record found ∧
      record.status = .fetched ∧
      found.map Link.target = indexTargets (UrlFilter.applyAll p.sitemaps.links.filters)
        ⟨sitemaps.recentHours, now⟩ sitemap.entries ∧
      (found.length * step < 2 ^ 63 → ∀ (place : Nat) (link : Link), found[place]? = some link →
        ∀ (s : ScheduleSettings) (start : Time.Instant), start.inLeapSecond = false →
          let told := link.toRecord
          let due := s.baseline? told.status told.metadata start
          let clock := start.epochSecond + place * step * 60
          (s.next told.status told.metadata start).value = (told.metadata, due) ∧
            (∀ date, due = some date ↔ date.epochSecond = clock ∧ date.nano = start.nano) ∧
            (due = none ↔ ¬ Time.Representable clock) ∧
            (sitemaps.delayMinutes.toInt ≤ 0 → due = some start)) := by
  intro step
  obtain ⟨metadata, hprocess, -⟩ := finish_of_reads hp hreads now
  have htargets := p.sitemaps.targets_indexLinks source
    ((p.sitemaps.recognise item).value.2.erase Key.isSitemap) now sitemap.entries
  rw [window_of_ofSettings hp] at htargets
  rw [hkind, finish_index, linksOf, hkind] at hprocess
  refine ⟨_, _, hprocess, rfl, ?_, ?_⟩
  · rw [← htargets, List.map_map]
    rfl
  · intro hlength place link hlink s start hleap told due clock
    have hplace : (place : Int) * step < 2 ^ 63 := by
      have hless := (List.getElem?_eq_some_iff.mp hlink).1
      have := Int.mul_le_mul_of_nonneg_right (Int.ofNat_le.mpr (Nat.le_of_lt hless))
        (show 0 ≤ step by omega)
      omega
    have hdelay : (ScheduleSettings.discoveryDelay link.metadata).toInt = place * step := by
      rw [List.getElem?_map] at hlink
      obtain ⟨found, hfound, rfl⟩ := Option.map_eq_some_iff.mp hlink
      apply ScheduleSettings.toInt_discoveryDelay_of_place _ hplace
      rw [values_delay_markLink, p.sitemaps.values_delay_of_getElem?_indexLinks source _ now
        (by rwa [(links_of_ofSettings hp).1]) hfound, delayMinutes_of_ofSettings hp]
    have hnonneg : 0 ≤ (place : Int) * step :=
      Int.mul_nonneg (Int.natCast_nonneg place) (by omega)
    obtain ⟨hnext, hsome, hnone⟩ := s.next_discovered link.metadata hleap hnonneg hdelay
    refine ⟨hnext, hsome, hnone, ?_⟩
    intro hoff
    have hstep : step = 0 := by omega
    exact (hsome start).mpr ⟨by simp [hstep], rfl⟩

/-- An index of three sitemaps, of which the one in the middle is old. -/
def gappedIndex : WorkItem where
  url := "http://[::1]/"
  content := Bytes.ofString <|
    "<sitemapindex><sitemap><loc>http://[::1]/a</loc></sitemap>" ++
    "<sitemap><loc>http://[::1]/b</loc><lastmod>1970-01-01</lastmod></sitemap>" ++
    "<sitemap><loc>http://[::1]/c</loc></sitemap></sitemapindex>"
  metadata := .ofPairs [(Key.isSitemapIndex, "true"), (Key.delay, "90")]

/-- Twelve hours later the last sitemap is due five minutes after the first, which is due at once.
There is no date for it at the end of the last day. -/
theorem due_of_place_gappedIndex :
    let p := standardPipeline { recentHours := 2, delayMinutes := 5 }
    let now : Time.Instant := ⟨0, 43200, 0, by decide, by decide, by decide⟩
    let later : Time.Instant := ⟨0, 43500, 0, by decide, by decide, by decide⟩
    let last : Time.Instant := ⟨Time.maxDay, 86399, 0, by decide, by decide, by decide⟩
    ∃ record first second, (p.sitemaps.process gappedIndex now).value =
        .handled record [first, second] ∧
      first.target = "http://[::1]/a" ∧ second.target = "http://[::1]/c" ∧
      ∀ s : ScheduleSettings,
        s.baseline? .discovered first.metadata now = some now ∧
        s.baseline? .discovered second.metadata now = some later ∧
        s.baseline? .discovered second.metadata last = none := by
  intro p now later last
  have hp : Pipeline.ofSettings { recentHours := 2, delayMinutes := 5 } {} {} {} = .ok p := rfl
  let targets (sitemap : Sitemap) :=
    indexTargets (UrlFilter.applyAll p.sitemaps.links.filters) ⟨2, now⟩ sitemap.entries
  obtain ⟨source, sitemap, hreads, hview⟩ := p.sitemaps.exists_reads gappedIndex
    (fun sitemap => (sitemap.kind, targets sitemap))
    (.index, ["http://[::1]/a", "http://[::1]/c"])
    (by decide +kernel) (by decide +kernel) (by decide +kernel)
  obtain ⟨hkind, htargets⟩ := Prod.mk.inj hview
  obtain ⟨record, found, hprocess, -, hfound, hdue⟩ :=
    due_of_place hp (by decide) hreads hkind now
  obtain ⟨first, rest, rfl, hfirst, hrest⟩ := List.map_eq_cons_iff.mp (hfound.trans htargets)
  obtain ⟨second, none, rfl, hsecond, hnone⟩ := List.map_eq_cons_iff.mp hrest
  rw [List.map_eq_nil_iff] at hnone
  subst hnone
  refine ⟨record, first, second, hprocess, hfirst, hsecond, ?_⟩
  intro s
  have hplaces := hdue (show (2 : Int) * 5 < 2 ^ 63 by decide)
  exact ⟨((hplaces 0 first rfl s now rfl).2.1 now).mpr (by decide),
    ((hplaces 1 second rfl s now rfl).2.1 later).mpr (by decide),
    (hplaces 1 second rfl s last rfl).2.2.1.mpr (by decide)⟩

end Sitemap.Resolver

end Recrawl
