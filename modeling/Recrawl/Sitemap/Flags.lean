import Recrawl.ClueTable
import Recrawl.Log
import Recrawl.Metadata.Basic
import Recrawl.Metadata.Key
import Recrawl.Sitemap.Vocabulary

/-!
What is known of an item's being a sitemap: flags that are kept in its metadata,
and verdicts on its content that change them.
-/
namespace Recrawl.Sitemap

inductive Verdict
  | news
  | index
  | sitemap
  deriving DecidableEq, Repr

def Verdict.name : Verdict → String
  | news => "News"
  | index => "Index"
  | sitemap => "Sitemap"

/-- The clues to the kinds of sitemap: the namespaces of news, the root element of an index, and the
namespaces of the protocol. -/
def clues : ClueTable :=
  ClueTable.ofClues (Vocabulary.newsUris ++ ["<sitemapindex", Vocabulary.sitemapUri] ++
    Vocabulary.legacyUris)

/-- The verdict for the first clue that is found. -/
def Verdict.ofClue (clue : Nat) : Verdict :=
  if clue < Vocabulary.newsUris.length then news
  else if clue < Vocabulary.newsUris.length + 1 then index
  else sitemap

/-- The verdict on the first `limit` bytes of some content. -/
def verdict? (limit : Nat) (content : Bytes) : Option Verdict :=
  (clues.firstMatch? limit content).map Verdict.ofClue

/-- The verdict on the first `limit` bytes of some content, with a message unless it is a plain
sitemap. -/
def detect (limit : Nat) (url : String) (content : Bytes) : Logged (Option Verdict) := do
  let verdict := verdict? limit content
  match verdict with
  | some .news => report .info .sitemapType s!"{url} detected as news sitemap based on content"
  | some .index => report .info .sitemapType s!"{url} detected as sitemap index based on content"
  | _ => pure ()
  pure verdict

structure Flags where
  sitemap : Bool := false
  news : Bool := false
  index : Bool := false
  verified : Bool := false
  deriving DecidableEq, Repr

namespace Flags

def ofMetadata (m : Metadata) : Flags :=
  ⟨m.flag Key.isSitemap, m.flag Key.isSitemapNews, m.flag Key.isSitemapIndex,
    m.flag Key.isSitemapVerified⟩

/-- Only news, indexes and verified sitemaps are read for links. -/
def needsReading (flags : Flags) : Bool :=
  flags.news || flags.index || flags.verified

def clear (m : Metadata) (isOn : Bool) (key : String) : Metadata :=
  if isOn then m.setFlag key false else m

/-- The flags and the metadata after a verdict. A plain sitemap clears the flags for news and index,
unless it is verified; an index clears the flag for news. -/
def reconcile (flags : Flags) (verdict : Verdict) (m : Metadata) : Flags × Metadata :=
  let m := m.setFlag Key.isSitemap true
  match verdict with
  | .news => ({ flags with sitemap := true, news := true }, m.setFlag Key.isSitemapNews true)
  | .index =>
    ({ flags with sitemap := true, news := false, index := true },
      (clear m flags.news Key.isSitemapNews).setFlag Key.isSitemapIndex true)
  | .sitemap =>
    if flags.verified then ({ flags with sitemap := true }, m)
    else
      ({ flags with sitemap := true, news := false, index := false },
        clear (clear m flags.news Key.isSitemapNews) flags.index Key.isSitemapIndex)

end Flags

end Recrawl.Sitemap
