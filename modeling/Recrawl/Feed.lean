import Recrawl.ClueTable
import Recrawl.Sitemap.Resolver

/-!
Recognising syndication feeds, by an earlier flag, by the content type, or by clues
in the content. A feed is not read: its filters run and it is acknowledged.
-/
namespace Recrawl

structure FeedClassifier where
  settings : FeedSettings := {}
  filters : List ParseFilter := []

namespace FeedClassifier

def typeClues : List String := ["rss+xml", "atom+xml", "text/rss"]

def contentClues : ClueTable := ClueTable.ofClues ["<rss", "<feed", "http://www.w3.org/2005/Atom"]

def isFeedType (type : String) : Bool :=
  typeClues.any fun clue => (Bytes.ofString clue).occursIn (Bytes.ofString type)

/-- The metadata of a feed, with its flag if this is what recognises it; none for other
documents. -/
def classify (f : FeedClassifier) (item : WorkItem) : Logged (Option Metadata) := do
  if item.metadata.flag Key.isFeed then pure (some item.metadata)
  else
    let marked := some (item.metadata.setFlag Key.isFeed true)
    match item.contentType?.filter isFeedType with
    | some type =>
      report .info .feed s!"Feed detected from content type <{type}> for {item.url}"
      pure marked
    | none =>
      if contentClues.anyMatch f.settings.peekLimit item.content then
        report .info .feed s!"Feed detected from content: {item.url}"
        pure marked
      else pure none

def process (f : FeedClassifier) (item : WorkItem) : Logged Outcome := do
  match ← f.classify item with
  | none => pure (.passThrough item)
  | some metadata =>
    match ParseFilter.runAll item.url item.content f.filters ⟨metadata, []⟩ with
    | (parsed, some failure) =>
      Sitemap.Resolver.filterFailure .feed item.url parsed.metadata failure
    | (parsed, none) => pure (.handled ⟨item.url, .fetched, parsed.metadata⟩ [])

end FeedClassifier

end Recrawl
