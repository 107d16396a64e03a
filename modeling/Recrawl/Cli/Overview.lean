import Recrawl.Number.Binary64
import Recrawl.Settings.Basic
import Recrawl.Text.Table

/-!
The settings as a table for the user.
-/
namespace Recrawl.Cli.Overview

def choice (b : Bool) (yes no : String) : String := if b then yes else no

/-- A number with its unit, unless it is negative. -/
def unlessNegative (n : Int) (unit : String) : String :=
  if n < 0 then "disabled" else toString n ++ unit

/-- A number with its unit, if it is positive. -/
def ifPositive (n : Int) (unit : String) : String :=
  if 0 < n then toString n ++ unit else "disabled"

def rotation (s : RotationSettings) : String :=
  let number := Number.Layout.plain.write
  let size := number s.maxSize ++ " " ++ s.sizeUnit.name
  if 0.0 < s.timeInterval then size ++ " or " ++ number s.timeInterval ++ " " ++ s.timeUnit.title
  else size

def names (texts : List String) : String := ", ".intercalate texts

def rows (s : Settings) : List (List String) :=
  let schedule := s.schedule
  let minutes (n : Int64) : String := toString n.toInt
  [["Sitemap sniffing", choice s.sitemap.sniffsContent "on" "off"],
    ["Sniff prefix", s!"sitemap {s.sitemap.peekLimit}B, feed {s.feed.peekLimit}B"],
    ["Recency window", unlessNegative s.sitemap.recentHours "h"],
    ["Sub-sitemap delay", ifPositive s.sitemap.delayMinutes.toInt "min"],
    ["Partial sitemaps", choice s.sitemap.allowPartial "kept" "rejected"],
    ["URL filters", names s.links.filters],
    ["Transferred keys", names s.links.inherited],
    ["Parse filters", names s.filters.names],
    ["Fetch interval", minutes schedule.defaultInterval ++ "min (adaptive " ++
      minutes schedule.minInterval ++ ".." ++ minutes schedule.maxInterval ++ "min)"],
    ["Fetch error interval", unlessNegative schedule.fetchErrorInterval.toInt "min"],
    ["Error interval", unlessNegative schedule.errorInterval.toInt "min"],
    ["Custom intervals", toString schedule.custom.length],
    ["Set Last-Modified", choice schedule.setsLastModified "true" "false"],
    ["Segment rotation", rotation s.rotation],
    ["Workers", toString s.workers.count]]

def table (s : Settings) : String :=
  Text.Table.render ["Setting", "Value"] (rows s)

end Recrawl.Cli.Overview
