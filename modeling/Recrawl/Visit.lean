import Recrawl.Pipeline
import Recrawl.Schedule.Adaptive

/-!
Repeated visits of one address. Each visit handles the fetched document and
decides when the next one is due; the metadata is carried from visit to visit.
-/
namespace Recrawl

structure Crawl where
  pipeline : Pipeline := {}
  schedule : ScheduleSettings := {}

structure Visit where
  kind : DocumentKind
  record : Record
  links : List Link
  next : Option Time.Instant

namespace Outcome

/-- The record for the document itself. A document that nobody handled was fetched. -/
def record : Outcome → Record
  | passThrough item => ⟨item.url, .fetched, item.metadata⟩
  | handled record _ => record

def links : Outcome → List Link
  | passThrough _ => []
  | handled _ links => links

end Outcome

namespace Crawl

def visit (c : Crawl) (item : WorkItem) (now : Time.Instant) : Logged Visit := do
  let outcome ← c.pipeline.process item now
  let record := outcome.record
  let (metadata, next) ← c.schedule.next record.status record.metadata now
  pure ⟨.ofOutcome outcome, { record with metadata }, outcome.links, next⟩

end Crawl

end Recrawl
