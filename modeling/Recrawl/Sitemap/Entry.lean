import Recrawl.Number.Binary32
import Recrawl.Text.Blank
import Recrawl.Time.Instant
import Recrawl.Url.Basic

/-!
The contents of a sitemap: the entries of a list of pages, or of an index of
further sitemaps.
-/
namespace Recrawl

namespace Sitemap

inductive ChangeFrequency
  | always
  | hourly
  | daily
  | weekly
  | monthly
  | yearly
  | never
  deriving DecidableEq, Repr

namespace ChangeFrequency

def all : List ChangeFrequency := [always, hourly, daily, weekly, monthly, yearly, never]

def name : ChangeFrequency → String
  | always => "Always"
  | hourly => "Hourly"
  | daily => "Daily"
  | weekly => "Weekly"
  | monthly => "Monthly"
  | yearly => "Yearly"
  | never => "Never"

/-- The frequency with this name, in any letter case and with blanks around it. -/
def parse? (text : String) : Option ChangeFrequency :=
  let word := (Text.trimChars text.toList).map Char.toLower
  all.find? fun frequency => frequency.name.toList.map Char.toLower == word

end ChangeFrequency

structure News where
  published : Option Time.Instant := none
  title : Option String := none
  deriving DecidableEq

structure Alternate where
  language : Option String
  target : Url
  deriving DecidableEq

structure Entry where
  location : Url
  modified : Option Time.Instant := none
  priority : Option Number.Binary32 := none
  frequency : Option ChangeFrequency := none
  news : List News := []
  alternates : List Alternate := []
  deriving DecidableEq

inductive Kind
  /-- Further sitemaps. -/
  | index
  /-- Pages. -/
  | urlSet
  deriving DecidableEq, Repr

end Sitemap

structure Sitemap where
  kind : Sitemap.Kind
  entries : List Sitemap.Entry
  /-- Reading stopped at a fault, and later entries may be missing. -/
  isPartial : Bool := false
  deriving DecidableEq

end Recrawl
