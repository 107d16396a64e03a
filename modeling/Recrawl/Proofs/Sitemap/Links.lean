import Recrawl.Proofs.Sitemap.Recency
import Recrawl.Sitemap.Resolver

/-!
The links of a sitemap, in order: which targets they have and how they are tagged. A target
is what the filters make of an address; addresses of entries that are not recent, and
addresses that the filters refuse, have no link.
-/

namespace Recrawl

namespace LinkRules

theorem map_target_link? (rules : LinkRules) (source : Url) (target : String) (parent : Metadata)
    (tags : List (String × String)) :
    (rules.link? source target parent tags).map Link.target =
      UrlFilter.applyAll rules.filters target := by
  simp [link?, Function.comp_def]

end LinkRules

namespace Sitemap

/-- Where an index leads: to the accepted locations of its recent entries, in order. -/
def indexTargets (accepted : String → Option String) (window : Window) (entries : List Entry) :
    List String :=
  (entries.filter fun entry => window.admits entry.modified).filterMap fun entry =>
    accepted entry.location.toString

/-- Where a list of pages leads: for each recent entry in order, to its accepted alternates other
than the page itself, and then to its location, if that is accepted. -/
def pageTargets (accepted : String → Option String) (window : Window) (entries : List Entry) :
    List String :=
  (entries.filter fun entry => entry.isRecent window).flatMap fun entry =>
    ((entry.alternates.filter fun other =>
      other.target.toString != entry.location.toString).filterMap fun other =>
        accepted other.target.toString) ++
      (accepted entry.location.toString).toList

namespace Resolver

variable (r : Resolver) (source : Url) (parent : Metadata) (now : Time.Instant)

/-- The link is tagged as one to a sitemap or as one to a page, and never as one to news. -/
def IsTagged (isSitemap : Bool) (link : Link) : Prop :=
  link.metadata.values Key.isSitemap = [if isSitemap then "true" else "false"] ∧
    link.metadata.values Key.isSitemapNews = ["false"]

theorem isTagged_of_link? {isSitemap : Bool} {target : String} {link : Link}
    (h : r.links.link? source target parent (tags isSitemap) = some link) :
    IsTagged isSitemap link := by
  have hne : Key.isSitemap ≠ Key.isSitemapNews := by decide
  unfold LinkRules.link? at h
  obtain ⟨filtered, -, rfl⟩ := Option.map_eq_some_iff.mp h
  constructor
  · simp [tags, hne]
  · simp [tags]

theorem link?_indexFate (entry : Entry) :
    (r.indexFate source parent now entry).link? =
      if (r.window now).admits entry.modified then
        r.links.link? source entry.location.toString parent (tags true)
      else none := by
  unfold indexFate
  cases hstale : entry.modified.filter fun date => !(r.window now).contains date with
  | some date =>
    have hadmits : ¬ (r.window now).admits entry.modified = true := by
      rw [← Window.filter_not_contains_eq_none_iff, hstale]
      simp
    rw [if_neg hadmits]
    rfl
  | none =>
    rw [if_pos ((Window.filter_not_contains_eq_none_iff _ _).mp hstale)]
    cases r.links.link? source entry.location.toString parent (tags true) <;> rfl

theorem target_withDelay (place : Nat) (link : Link) :
    (r.withDelay place link).target = link.target := by
  unfold withDelay
  simp only
  split <;> rfl

theorem isTagged_withDelay (place : Nat) {isSitemap : Bool} {link : Link}
    (h : IsTagged isSitemap link) : IsTagged isSitemap (r.withDelay place link) := by
  have hsitemap : Key.isSitemap ≠ Key.delay := by decide
  have hnews : Key.isSitemapNews ≠ Key.delay := by decide
  unfold withDelay
  simp only
  split
  · exact ⟨by simpa [hsitemap] using h.1, by simpa [hnews] using h.2⟩
  · exact h

theorem targets_indexLinks (entries : List Entry) :
    (r.indexLinks source parent now entries).map Link.target =
      indexTargets (UrlFilter.applyAll r.links.filters) (r.window now) entries := by
  have hdelay : ∀ links : List Link, (links.mapIdx r.withDelay).map Link.target =
      links.map Link.target := by
    intro links
    apply List.ext_getElem?
    intro place
    simp [Function.comp_def, target_withDelay]
  unfold indexLinks indexTargets
  rw [hdelay, List.filterMap_map, List.map_filterMap, List.filterMap_filter]
  congr 1
  funext entry
  rw [Function.comp_apply, link?_indexFate]
  split
  · exact r.links.map_target_link? source _ parent _
  · rfl

/-- A link of an index is made from a location by the rules, with the delay of its place. -/
theorem exists_of_mem_indexLinks {entries : List Entry} {link : Link}
    (h : link ∈ r.indexLinks source parent now entries) :
    ∃ place target made, r.links.link? source target parent (tags true) = some made ∧
      link = r.withDelay place made := by
  obtain ⟨place, hplace, rfl⟩ := List.mem_mapIdx.mp h
  obtain ⟨fate, hfate, hlink⟩ := List.mem_filterMap.mp (List.getElem_mem hplace)
  obtain ⟨entry, -, rfl⟩ := List.mem_map.mp hfate
  rw [link?_indexFate] at hlink
  split at hlink
  · exact ⟨place, entry.location.toString, _, hlink, rfl⟩
  · cases hlink

theorem isTagged_of_mem_indexLinks {entries : List Entry} {link : Link}
    (h : link ∈ r.indexLinks source parent now entries) : IsTagged true link := by
  obtain ⟨place, target, made, hmade, rfl⟩ := r.exists_of_mem_indexLinks source parent now h
  exact r.isTagged_withDelay place (r.isTagged_of_link? source parent hmade)

theorem filterMap_link?_pageFates (entry : Entry) :
    (r.pageFates source parent now entry).filterMap Fate.link? =
      if entry.isRecent (r.window now) then
        (targets entry).filterMap fun target => r.links.link? source target parent (tags false)
      else [] := by
  unfold pageFates
  cases hstale : entry.staleness? (r.window now) with
  | some reason =>
    have hrecent : ¬ entry.isRecent (r.window now) = true := by
      rw [← Entry.staleness?_eq_none_iff, hstale]
      simp
    rw [if_neg hrecent]
    rfl
  | none =>
    rw [if_pos ((Entry.staleness?_eq_none_iff _ _).mp hstale), List.filterMap_map]
    congr 1
    funext target
    rw [Function.comp_apply]
    cases r.links.link? source target parent (tags false) <;> rfl

theorem pageLinks_eq (entries : List Entry) :
    r.pageLinks source parent now entries =
      (entries.filter fun entry => entry.isRecent (r.window now)).flatMap fun entry =>
        (targets entry).filterMap fun target => r.links.link? source target parent (tags false) := by
  unfold pageLinks
  rw [List.filterMap_flatMap]
  induction entries with
  | nil => rfl
  | cons entry rest ih =>
    rw [List.flatMap_cons, ih, filterMap_link?_pageFates, List.filter_cons]
    split
    · rw [List.flatMap_cons]
    · rfl

theorem filterMap_targets (accepted : String → Option String) (entry : Entry) :
    (targets entry).filterMap accepted =
      ((entry.alternates.filter fun other =>
        other.target.toString != entry.location.toString).filterMap fun other =>
          accepted other.target.toString) ++
        (accepted entry.location.toString).toList := by
  have hlast : [entry.location.toString].filterMap accepted =
      (accepted entry.location.toString).toList := by
    cases h : accepted entry.location.toString with
    | none => simp [h]
    | some target => simp [h]
  have hothers : ((otherAlternates entry).map (·.target.toString)).filterMap accepted =
      (otherAlternates entry).filterMap fun other => accepted other.target.toString :=
    List.filterMap_map ..
  rw [targets, List.filterMap_append, hlast, hothers, otherAlternates]

theorem targets_pageLinks (entries : List Entry) :
    (r.pageLinks source parent now entries).map Link.target =
      pageTargets (UrlFilter.applyAll r.links.filters) (r.window now) entries := by
  unfold pageTargets
  rw [pageLinks_eq, List.map_flatMap]
  congr 1
  funext entry
  rw [List.map_filterMap, ← filterMap_targets]
  congr 1
  funext target
  exact r.links.map_target_link? source target parent _

/-- A link of a list of pages is made from an address by the rules. -/
theorem exists_of_mem_pageLinks {entries : List Entry} {link : Link}
    (h : link ∈ r.pageLinks source parent now entries) :
    ∃ target, r.links.link? source target parent (tags false) = some link := by
  rw [pageLinks_eq] at h
  obtain ⟨entry, -, hentry⟩ := List.mem_flatMap.mp h
  obtain ⟨target, -, hlink⟩ := List.mem_filterMap.mp hentry
  exact ⟨target, hlink⟩

theorem isTagged_of_mem_pageLinks {entries : List Entry} {link : Link}
    (h : link ∈ r.pageLinks source parent now entries) : IsTagged false link := by
  obtain ⟨target, hlink⟩ := r.exists_of_mem_pageLinks source parent now h
  exact r.isTagged_of_link? source parent hlink

end Resolver

end Sitemap

end Recrawl
