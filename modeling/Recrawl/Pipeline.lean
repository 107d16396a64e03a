import Recrawl.Feed

/-!
The way of a document: it is resolved as a sitemap, else recognised as a feed, else
left as a page.
-/
namespace Recrawl

inductive DocumentKind
  | page
  | sitemap
  | newsSitemap
  | sitemapIndex
  | feed
  | error
  deriving DecidableEq, Repr

namespace DocumentKind

def all : List DocumentKind := [page, sitemap, newsSitemap, sitemapIndex, feed, error]

def name : DocumentKind → String
  | page => "page"
  | sitemap => "sitemap"
  | newsSitemap => "news sitemap"
  | sitemapIndex => "sitemap index"
  | feed => "feed"
  | error => "error"

def ofOutcome : Outcome → DocumentKind
  | .passThrough _ => page
  | .handled record _ =>
    if record.status == .error then error
    else if record.metadata.flag Key.isFeed then feed
    else if record.metadata.flag Key.isSitemapIndex then sitemapIndex
    else if record.metadata.flag Key.isSitemapNews then newsSitemap
    else sitemap

end DocumentKind

structure Pipeline where
  sitemaps : Sitemap.Resolver := {}
  feeds : FeedClassifier := {}

namespace Pipeline

inductive Fault
  | parseFilter (name : String)
  | urlFilter (name : String)
  deriving DecidableEq, Repr

def Fault.message : Fault → String
  | parseFilter name => ParseFilter.unknownMessage name
  | urlFilter name => UrlFilter.unknownMessage name

def ofSettings (sitemap : SitemapSettings) (feed : FeedSettings) (links : LinkSettings)
    (filters : FilterSettings) : Except Fault Pipeline := do
  let filters ← (ParseFilter.ofSettings filters).mapError .parseFilter
  let links ← (LinkRules.ofSettings links).mapError .urlFilter
  pure ⟨⟨sitemap, links, filters⟩, ⟨feed, filters⟩⟩

/-- Each section of the settings goes to the stages that it is about; the filters go to both. -/
theorem parts_of_ofSettings {sitemap : SitemapSettings} {feed : FeedSettings}
    {links : LinkSettings} {filters : FilterSettings} {p : Pipeline}
    (h : ofSettings sitemap feed links filters = .ok p) :
    ∃ chain rules, ParseFilter.ofSettings filters = .ok chain ∧
      LinkRules.ofSettings links = .ok rules ∧ p = ⟨⟨sitemap, rules, chain⟩, ⟨feed, chain⟩⟩ := by
  unfold ofSettings at h
  cases hchain : ParseFilter.ofSettings filters with
  | error name =>
    rw [hchain] at h
    cases h
  | ok chain =>
    cases hrules : LinkRules.ofSettings links with
    | error name =>
      rw [hchain, hrules] at h
      cases h
    | ok rules =>
      rw [hchain, hrules] at h
      cases h
      exact ⟨chain, rules, rfl, rfl, rfl⟩

def process (p : Pipeline) (item : WorkItem) (now : Time.Instant) : Logged Outcome := do
  match ← p.sitemaps.process item now with
  | .passThrough item => p.feeds.process item
  | handled => pure handled

end Pipeline

end Recrawl
