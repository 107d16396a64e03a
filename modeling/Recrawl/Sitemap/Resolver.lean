import Recrawl.Filter.Chain
import Recrawl.Link.Inheritance
import Recrawl.Sitemap.Document
import Recrawl.Sitemap.Flags
import Recrawl.Sitemap.Recency
import Recrawl.Time.Format

/-!
Resolving sitemaps. News sitemaps, indexes and verified sitemaps are read and turn
into links; other sitemaps are only acknowledged; everything else passes through.
-/
namespace Recrawl.Sitemap

structure Resolver where
  settings : SitemapSettings := {}
  links : LinkRules := {}
  filters : List ParseFilter := []

inductive Fate
  | stale (reason : Staleness)
  /-- A URL filter refused it. -/
  | refused
  | link (link : Link)
  deriving DecidableEq

def Fate.link? : Fate → Option Link
  | link l => some l
  | _ => none

def Fate.isStale : Fate → Bool
  | stale _ => true
  | _ => false

namespace Resolver

def window (r : Resolver) (now : Time.Instant) : Window :=
  ⟨r.settings.recentHours, now⟩

def tags (isSitemap : Bool) : List (String × String) :=
  [(Key.isSitemap, if isSitemap then "true" else "false"), (Key.isSitemapNews, "false")]

def indexFate (r : Resolver) (source : Url) (parent : Metadata) (now : Time.Instant)
    (entry : Entry) : Fate :=
  match entry.modified.filter fun date => !(r.window now).contains date with
  | some date => .stale (.modified date)
  | none =>
    match r.links.link? source entry.location.toString parent (tags true) with
    | some link => .link link
    | none => .refused

/-- The link with the delay of its place in the index. The first has none. -/
def withDelay (r : Resolver) (place : Nat) (link : Link) : Link :=
  let step := r.settings.delayMinutes
  let delay := Int64.ofNat place * step
  if 0 < step ∧ 0 < delay then
    { link with metadata := link.metadata.set Key.delay (toString delay.toInt) }
  else link

def indexLinks (r : Resolver) (source : Url) (parent : Metadata) (now : Time.Instant)
    (entries : List Entry) : List Link :=
  ((entries.map (r.indexFate source parent now)).filterMap Fate.link?).mapIdx r.withDelay

/-- The alternates of an entry that are not the page itself. -/
def otherAlternates (entry : Entry) : List Alternate :=
  entry.alternates.filter fun alternate =>
    alternate.target.toString != entry.location.toString

/-- The addresses that an entry names: its alternates, then the page. -/
def targets (entry : Entry) : List String :=
  (otherAlternates entry).map (·.target.toString) ++ [entry.location.toString]

def pageFates (r : Resolver) (source : Url) (parent : Metadata) (now : Time.Instant)
    (entry : Entry) : List Fate :=
  match entry.staleness? (r.window now) with
  | some reason => [.stale reason]
  | none => (targets entry).map fun target =>
      match r.links.link? source target parent (tags false) with
      | some link => .link link
      | none => .refused

def pageLinks (r : Resolver) (source : Url) (parent : Metadata) (now : Time.Instant)
    (entries : List Entry) : List Link :=
  (entries.flatMap (r.pageFates source parent now)).filterMap Fate.link?

def linksOf (r : Resolver) (source : Url) (parent : Metadata) (now : Time.Instant)
    (sitemap : Sitemap) : List Link :=
  match sitemap.kind with
  | .index => r.indexLinks source parent now sitemap.entries
  | .urlSet => r.pageLinks source parent now sitemap.entries

def reportStale (r : Resolver) (entry : Entry) : Staleness → Logged Unit
  | .modified date =>
    report .debug .sitemapResolver
      (s!"{entry.location} has a modified date {date.toRfc3339} which is more than " ++
        s!"{r.settings.recentHours} hours old")
  | .published date =>
    report .debug .sitemapResolver
      (s!"{entry.location} has a news publication date {date.toDisplay} which is more than " ++
        s!"{r.settings.recentHours} hours old")

def reportRefused (source : Url) (target : String) : Logged Unit :=
  report .debug .outlink s!"{source}: outlink rejected by URL filters: {target}"

def reportLink (source : Url) (target : String) : Logged Unit :=
  report .debug .sitemapResolver s!"{source} : [sitemap] {target}"

def reportIndexEntry (r : Resolver) (source : Url) (entry : Entry) : Fate → Logged Unit
  | .stale reason => r.reportStale entry reason
  | .refused => reportRefused source entry.location.toString
  | .link _ => reportLink source entry.location.toString

/-- Reports what became of the addresses of an entry; only the last is the page itself. -/
def reportPageTargets (r : Resolver) (source : Url) (entry : Entry) :
    List (String × Fate) → Logged Unit
  | [] => pure ()
  | (target, fate) :: rest => do
    match fate with
    | .stale reason => r.reportStale entry reason
    | .refused => reportRefused source target
    | .link _ => if rest.isEmpty then reportLink source target
    reportPageTargets r source entry rest

def reportLinks (r : Resolver) (source : Url) (parent : Metadata) (now : Time.Instant)
    (sitemap : Sitemap) : Logged Unit :=
  let count := sitemap.entries.length
  match sitemap.kind with
  | .index => do
    let fates := sitemap.entries.map (r.indexFate source parent now)
    (sitemap.entries.zip fates).forM fun (entry, fate) => r.reportIndexEntry source entry fate
    let skipped := fates.countP Fate.isStale
    report .info .sitemapResolver
      s!"Sitemap index (found {count} sitemaps, {skipped} skipped): {source}"
  | .urlSet => do
    let fates := sitemap.entries.map (r.pageFates source parent now)
    (sitemap.entries.zip fates).forM fun (entry, fates) =>
      r.reportPageTargets source entry ((targets entry).zip fates)
    let skipped := fates.countP fun fates => fates.any Fate.isStale
    report .info .sitemapResolver
      s!"Sitemap (found {count} links, {skipped} skipped): {source}"

/-- The flags and the metadata of an item after a look at its content, if that is wanted. -/
def recognise (r : Resolver) (item : WorkItem) : Logged (Flags × Metadata) := do
  let flags := Flags.ofMetadata item.metadata
  if r.settings.sniffsContent then
    let start ← peek r.settings.peekLimit item.content
    match ← detect r.settings.peekLimit item.url start with
    | some verdict => pure (flags.reconcile verdict item.metadata)
    | none => pure (flags, item.metadata)
  else pure (flags, item.metadata)

def readFailure (url : String) (metadata : Metadata) (reason : String) : Logged Outcome := do
  let message := s!"Exception while parsing {url}: {reason}"
  report .error .sitemapResolver message
  pure (.handled (Record.failure url metadata .sitemapParsing message) [])

def filterFailure (origin : Log.Origin) (url : String) (metadata : Metadata)
    (failure : FilterFailure) : Logged Outcome := do
  let message := s!"Exception while running parse filters on {url}: {failure.toText}"
  report .error origin message
  pure (.handled (Record.failure url metadata .contentFiltering message) [])

/-- The link to a sitemap of an index, which is verified if the index is. -/
def markLink (verified : Bool) (link : Link) : Link :=
  let m := link.metadata.setFlag Key.isSitemap true
  ⟨link.target, if verified then m.setFlag Key.isSitemapVerified true else m⟩

def finish (kind : Kind) (flags : Flags) (url : String) (parsed : Parsed) : Outcome :=
  let links := match kind with
    | .index => parsed.links.map (markLink flags.verified)
    | .urlSet => parsed.links
  let metadata := match kind with
    | .index => parsed.metadata.setFlag Key.isSitemapIndex true
    | .urlSet => parsed.metadata.erase Key.isSitemapIndex
  .handled ⟨url, .fetched, metadata.set Key.numLinks (toString links.length)⟩ links

def resolve (r : Resolver) (flags : Flags) (item : WorkItem) (now : Time.Instant) :
    Logged Outcome := do
  let metadata := item.metadata.erase Key.isSitemap
  match Url.parse item.url with
  | .error fault => readFailure item.url metadata fault.message
  | .ok source =>
    let contentType := metadata.first? Key.contentType
    match ← read r.settings.allowPartial item.url item.content contentType with
    | .error fault => readFailure item.url metadata fault.message
    | .ok sitemap =>
      r.reportLinks source metadata now sitemap
      let found : Parsed := ⟨metadata, r.linksOf source metadata now sitemap⟩
      match ParseFilter.runAll item.url item.content r.filters found with
      | (parsed, some failure) =>
        filterFailure .sitemapResolver item.url parsed.metadata failure
      | (parsed, none) => pure (finish sitemap.kind flags item.url parsed)

def process (r : Resolver) (item : WorkItem) (now : Time.Instant) : Logged Outcome := do
  let (flags, metadata) ← r.recognise item
  if flags.needsReading then r.resolve flags { item with metadata } now
  else if flags.sitemap then pure (.handled ⟨item.url, .fetched, metadata⟩ [])
  else pure (.passThrough { item with metadata })

end Resolver

end Recrawl.Sitemap
