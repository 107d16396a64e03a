import Recrawl.Bytes
import Recrawl.Metadata.Basic
import Recrawl.Metadata.Key

/-!
What goes through the program: fetched documents that wait for classification,
the links found in them, and the status records that announce both to the crawl
state.
-/
namespace Recrawl

inductive Status
  | discovered
  | fetched
  | fetchError
  | redirection
  | error
  deriving DecidableEq, Repr

namespace Status

/-- All statuses, in the order in which they are listed to the user. -/
def all : List Status := [discovered, fetched, fetchError, redirection, error]

def name : Status → String
  | discovered => "DISCOVERED"
  | fetched => "FETCHED"
  | fetchError => "FETCH_ERROR"
  | redirection => "REDIRECTION"
  | error => "ERROR"

def ofName? (text : String) : Option Status :=
  all.find? fun status => status.name == text

/-- The status that a user names, in any letter case and with hyphens or underscores. -/
def parse? (text : String) : Option Status :=
  ofName? (String.ofList (text.toList.map fun c => if c == '-' then '_' else c.toUpper))

def unknownMessage (text : String) : String := "unknown status: " ++ text

end Status

structure WorkItem where
  url : String
  content : Bytes
  metadata : Metadata
  deriving DecidableEq

def WorkItem.contentType? (item : WorkItem) : Option String :=
  item.metadata.first? Key.contentType

/-- A discovered link, with the metadata that it passes on to its own document. -/
structure Link where
  target : String
  metadata : Metadata
  deriving DecidableEq

/-- The status of an address, as it is told to the crawl state. -/
structure Record where
  url : String
  status : Status
  metadata : Metadata
  deriving DecidableEq

def Link.toRecord (link : Link) : Record :=
  ⟨link.target, .discovered, link.metadata⟩

inductive Outcome
  /-- Not handled: the unchanged document goes on to the next component. -/
  | passThrough (item : WorkItem)
  /-- Handled: a record for the document itself, and the links found in it. -/
  | handled (record : Record) (discovered : List Link)
  deriving DecidableEq

namespace Outcome

/-- The records of an outcome: the discovered links, then the document. -/
def records : Outcome → List Record
  | passThrough _ => []
  | handled record discovered => discovered.map Link.toRecord ++ [record]

end Outcome

inductive Stage
  | sitemapParsing
  | contentFiltering
  deriving DecidableEq, Repr

def Stage.name : Stage → String
  | sitemapParsing => "sitemap parsing"
  | contentFiltering => "content filtering"

/-- The record of a failed document: it names the stage and the reason, and has no count of
links. -/
def Record.failure (url : String) (metadata : Metadata) (stage : Stage) (message : String) :
    Record :=
  ⟨url, .error,
    ((metadata.set Key.errorSource stage.name).set Key.errorMessage message).erase Key.numLinks⟩

end Recrawl
