import Recrawl.Item.Basic
import Recrawl.Link.UrlFilter
import Recrawl.Log
import Recrawl.Settings.Basic
import Recrawl.Text.Integer

/-!
What a link takes over from the document that holds it: chosen metadata, the
addresses of the documents on the way to it, and its distance from the seed.
-/
namespace Recrawl

structure LinkRules where
  /-- Filters for the target, in order. -/
  filters : List UrlFilter := [.punycode, .stripFragment]
  /-- Keys whose values pass from the document to its links. -/
  inherited : List String := []
  /-- Whether a link records the addresses of the documents on the way to it. -/
  tracksPath : Bool := true
  /-- Whether a link records its distance from the seed. -/
  tracksDepth : Bool := true
  deriving DecidableEq, Repr

namespace LinkRules

/-- The rules for some settings, or the first unknown name of a filter. -/
def ofSettings (settings : LinkSettings) : Except String LinkRules := do
  let filters ← UrlFilter.ofNames settings.filters
  pure ⟨filters, settings.inherited, settings.tracksPath, settings.tracksDepth⟩

/-- The distance of a document from the seed, zero unless it is recorded as a number. -/
def depthOf (parent : Metadata) : UInt32 :=
  match parent.first? Key.depth with
  | some text => UInt32.ofNat ((Text.readUInt32 text.toList).toOption.getD 0)
  | none => 0

def inherit (parent m : Metadata) (key : String) : Metadata :=
  if parent.contains key then m.setAll key (parent.values key) else m

def transfer (rules : LinkRules) (source : String) (parent : Metadata) : Metadata :=
  let copied := rules.inherited.foldl (inherit parent) Metadata.empty
  let withPath :=
    if rules.tracksPath then copied.setAll Key.path (parent.values Key.path ++ [source])
    else copied
  if rules.tracksDepth then withPath.set Key.depth (toString (depthOf parent + 1).toNat)
  else withPath

/-- The link to a target with further metadata on top, or none if a filter rejects the target. -/
def link? (rules : LinkRules) (source : Url) (target : String) (parent : Metadata)
    (tags : List (String × String)) : Option Link :=
  (UrlFilter.applyAll rules.filters target).map fun target =>
    ⟨target, tags.foldl (fun m tag => m.set tag.1 tag.2) (rules.transfer source.toString parent)⟩

/-- As `link?`, with a message for a rejected target. -/
def link (rules : LinkRules) (source : Url) (target : String) (parent : Metadata)
    (tags : List (String × String)) : Logged (Option Link) := do
  match rules.link? source target parent tags with
  | some link => pure (some link)
  | none =>
    report .debug .outlink s!"{source}: outlink rejected by URL filters: {target}"
    pure none

end LinkRules

end Recrawl
