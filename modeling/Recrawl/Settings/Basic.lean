import Recrawl.Metadata.Key

/-!
The settings of the program, by section. Every setting has a default.
-/
namespace Recrawl

structure SitemapSettings where
  /-- Recognise sitemaps by their content, not only by earlier flags. -/
  sniffsContent : Bool := false
  /-- How many bytes of the content are looked at. -/
  peekLimit : Nat := 1024
  /-- Links to what was modified more hours ago are dropped; none are if this is negative. -/
  recentHours : Int := -1
  /-- Minutes between the first fetches of consecutive sitemaps of an index, if positive. -/
  delayMinutes : Int64 := -1
  /-- Keep the entries in front of a fault. -/
  allowPartial : Bool := true
  deriving DecidableEq, Repr

structure FeedSettings where
  /-- How many bytes of the content are looked at. -/
  peekLimit : Nat := 512
  deriving DecidableEq, Repr

structure LinkSettings where
  /-- The names of the URL filters, in order. -/
  filters : List String := ["punycode", "strip_fragment"]
  /-- Keys whose values pass from a document to its links. -/
  inherited : List String := []
  tracksPath : Bool := true
  tracksDepth : Bool := true
  deriving DecidableEq, Repr

structure FilterSettings where
  /-- The names of the filters, in order. -/
  names : List String := ["signature_copy", "content_signature"]
  signatureKey : String := Key.signature
  copyKey : String := Key.signatureOld
  deriving DecidableEq, Repr

/-- Intervals for items whose metadata has a certain value. -/
structure CustomInterval where
  key : String
  value : String
  interval : Int64
  fetchErrorInterval : Option Int64 := none
  deriving DecidableEq, Repr

/-- When items are fetched again, in minutes. -/
structure ScheduleSettings where
  defaultInterval : Int64 := 1440
  fetchErrorInterval : Int64 := 120
  /-- Items in error are never fetched again if this is negative. -/
  errorInterval : Int64 := -1
  minInterval : Int64 := 60
  maxInterval : Int64 := 20160
  /-- Record a change of the content as the date of the last modification. -/
  setsLastModified : Bool := false
  /-- The first that matches counts. -/
  custom : List CustomInterval := []
  deriving DecidableEq, Repr

inductive SizeUnit
  | kilobytes
  | megabytes
  | gigabytes
  | terabytes
  deriving DecidableEq, Repr

namespace SizeUnit

def all : List SizeUnit := [kilobytes, megabytes, gigabytes, terabytes]

def name : SizeUnit → String
  | kilobytes => "KB"
  | megabytes => "MB"
  | gigabytes => "GB"
  | terabytes => "TB"

def bytes : SizeUnit → Nat
  | kilobytes => 1 <<< 10
  | megabytes => 1 <<< 20
  | gigabytes => 1 <<< 30
  | terabytes => 1 <<< 40

end SizeUnit

inductive TimeUnit
  | seconds
  | minutes
  | hours
  | days
  deriving DecidableEq, Repr

namespace TimeUnit

def all : List TimeUnit := [seconds, minutes, hours, days]

def name : TimeUnit → String
  | seconds => "seconds"
  | minutes => "minutes"
  | hours => "hours"
  | days => "days"

def title : TimeUnit → String
  | seconds => "Seconds"
  | minutes => "Minutes"
  | hours => "Hours"
  | days => "Days"

def length : TimeUnit → Nat
  | seconds => 1
  | minutes => 60
  | hours => 3600
  | days => 86400

end TimeUnit

structure RotationSettings where
  maxSize : Float := 1.0
  sizeUnit : SizeUnit := .gigabytes
  /-- Segments are not closed by time if this is negative. -/
  timeInterval : Float := -1.0
  timeUnit : TimeUnit := .hours

structure WorkerSettings where
  count : Nat := 8
  deriving DecidableEq, Repr

structure Settings where
  sitemap : SitemapSettings := {}
  feed : FeedSettings := {}
  links : LinkSettings := {}
  filters : FilterSettings := {}
  schedule : ScheduleSettings := {}
  rotation : RotationSettings := {}
  workers : WorkerSettings := {}

end Recrawl
