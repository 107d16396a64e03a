import Recrawl.Proofs.Schedule.Run
import Recrawl.Proofs.Visit.Signature

/-!
Telling changes over a whole crawl. After any run the signature in the metadata is that
of the last input that was signed, whatever failed or was scheduled in between, so that
a visit counts as a change exactly when its own input is another one.
-/

namespace Recrawl

/-- The digest tells the given inputs apart. -/
def Digest.Blake3.TellsApart (inputs : List Bytes) : Prop :=
  ∀ a ∈ inputs, ∀ b ∈ inputs, digest a = digest b → a = b

instance (inputs : List Bytes) : Decidable (Digest.Blake3.TellsApart inputs) :=
  inferInstanceAs (Decidable (∀ a ∈ inputs, ∀ b ∈ inputs, _))

namespace Crawl

open Digest.Blake3 (digest TellsApart)
open ParseFilter (signedInput)

/-- What happens to the metadata of an item: a visit, or something between two visits. -/
inductive Turn
  | visit (content : Bytes) (now : Time.Instant)
  | between (turn : ScheduleSettings.Turn)

namespace Turn

/-- The metadata after a turn. -/
def apply (c : Crawl) (url : String) (m : Metadata) : Turn → Metadata
  | visit content now => (c.visit ⟨url, content, m⟩ now).value.record.metadata
  | between turn => turn.apply c.schedule m

/-- What a turn signs: the input of a visit that reaches the filters. -/
def signedInput? (c : Crawl) (url : String) (m : Metadata) : Turn → Option Bytes
  | visit content now =>
    if (c.pipeline.course ⟨url, content, m⟩ now).isFiltered then some (signedInput url content)
    else none
  | between _ => none

/-- A visit reaches the filters without a 304, or the item cannot be read. Between visits there are
calls for other statuses than fetched, and edits that leave the signatures alone. -/
def IsRegular (c : Crawl) (url : String) (m : Metadata) : Turn → Prop
  | visit content now =>
    let course := c.pipeline.course ⟨url, content, m⟩ now
    (course.isFiltered = true ∧ m.first? Key.statusCode ≠ some "304") ∨
      course.isUnreadable = true
  | between (.call status _) => status ≠ .fetched
  | between (.edit key _) => key ≠ Key.signature ∧ key ≠ Key.signatureOld

end Turn

/-- The metadata after turns in order. -/
def run (c : Crawl) (url : String) (m : Metadata) (turns : List Turn) : Metadata :=
  turns.foldl (Turn.apply c url) m

/-- The inputs that are signed in a run, in order. -/
def signedInputs (c : Crawl) (url : String) : Metadata → List Turn → List Bytes
  | _, [] => []
  | m, turn :: rest =>
    (turn.signedInput? c url m).toList ++ c.signedInputs url (turn.apply c url m) rest

/-- Every turn of a run is regular where it happens. -/
def IsRegular (c : Crawl) (url : String) : Metadata → List Turn → Prop
  | _, [] => True
  | m, turn :: rest => turn.IsRegular c url m ∧ c.IsRegular url (turn.apply c url m) rest

/-- What a run leaves last is left by the turns behind the first one, or else by that one. -/
theorem getLast?_toList_append {α : Type} (first : Option α) (rest : List α) :
    (first.toList ++ rest).getLast? = rest.getLast?.or first := by
  rw [List.getLast?_append]
  cases first <;> rfl

variable (c : Crawl) (url : String)

theorem signedInputs_append (m : Metadata) (first second : List Turn) :
    c.signedInputs url m (first ++ second) =
      c.signedInputs url m first ++ c.signedInputs url (c.run url m first) second := by
  induction first generalizing m with
  | nil => rfl
  | cons turn rest ih =>
    simp only [List.cons_append, signedInputs, List.append_assoc, ih]
    rfl

theorem isRegular_append (m : Metadata) (first second : List Turn) :
    c.IsRegular url m (first ++ second) ↔
      c.IsRegular url m first ∧ c.IsRegular url (c.run url m first) second := by
  induction first generalizing m with
  | nil => simp [IsRegular, run]
  | cons turn rest ih =>
    simp only [List.cons_append, IsRegular, ih, and_assoc]
    rfl

/-- The signatures in the metadata tell the last input that was signed, if there was one. -/
def Remembers (m : Metadata) : Option Bytes → Prop
  | none => m.values Key.signature = [] ∧ m.values Key.signatureOld = []
  | some input => m.values Key.signature = [digest input]

theorem remembers_congr {m m' : Metadata} {last : Option Bytes}
    (hsignature : m'.values Key.signature = m.values Key.signature)
    (hold : m'.values Key.signatureOld = m.values Key.signatureOld) (h : Remembers m last) :
    Remembers m' last := by
  cases last with
  | none => exact ⟨hsignature.trans h.1, hold.trans h.2⟩
  | some input => exact hsignature.trans h

theorem record_visit (item : WorkItem) (now : Time.Instant) :
    let record := ((c.pipeline.course item now).outcome c.pipeline item).record
    (c.visit item now).value.record =
        { record with metadata := (c.schedule.next record.status record.metadata now).value.1 } ∧
      (c.visit item now).value.next =
        (c.schedule.next record.status record.metadata now).value.2 := by
  rw [← Pipeline.value_process]
  exact ⟨rfl, rfl⟩

/-- What the schedule gets to see of a visit that reaches the filters. -/
theorem record_of_remembers (hp : c.pipeline.IsStandard) (item : WorkItem) (now : Time.Instant)
    {last : Option Bytes} (hlast : Remembers item.metadata last)
    (hfiltered : (c.pipeline.course item now).isFiltered = true) :
    let record := ((c.pipeline.course item now).outcome c.pipeline item).record
    record.status = .fetched ∧
      record.metadata.values Key.signature = [digest (signedInput item.url item.content)] ∧
      record.metadata.values Key.signatureOld = (last.map digest).toList ∧
      record.metadata.values Key.statusCode = item.metadata.values Key.statusCode := by
  intro record
  obtain ⟨hstatus, hvalues⟩ := Course.record_of_isFiltered hp item hfiltered
  have hkept (key : String) (h : key ∉ Key.classifying) :=
    c.pipeline.values_course item now h
  refine ⟨hstatus, ?_, ?_, ?_⟩
  · rw [hvalues _ (by decide) (by decide), Metadata.values_signature_signed]
  · rw [hvalues _ (by decide) (by decide), Metadata.values_signatureOld_signed,
      Metadata.first?_congr (hkept Key.signature (by decide)), hkept _ (by decide)]
    cases last with
    | none =>
      rw [(Metadata.first?_eq_none_iff _ _).mpr hlast.1]
      exact hlast.2
    | some input =>
      rw [Metadata.first?_of_values hlast]
      rfl
  · rw [hvalues _ (by decide) (by decide),
      Metadata.values_signed_of_ne _ _ _ (by decide) (by decide), hkept _ (by decide)]

/-- The first signature of an item cannot be compared with any other. -/
theorem ofMetadata_of_first {m : Metadata} (hold : m.values Key.signatureOld = [])
    (hcode : m.first? Key.statusCode ≠ some "304") : Comparison.ofMetadata m = .unknown := by
  rw [Comparison.ofMetadata_of_missing (.inr ((Metadata.first?_eq_none_iff _ _).mpr hold)),
    if_neg hcode]

theorem ofMetadata_of_later {m : Metadata} {input earlier : Bytes}
    (hsignature : m.values Key.signature = [digest input])
    (hold : m.values Key.signatureOld = [digest earlier]) :
    Comparison.ofMetadata m = if digest input = digest earlier then .same else .changed :=
  Comparison.ofMetadata_of_both (Metadata.first?_of_values hsignature)
    (Metadata.first?_of_values hold)

theorem remembers_visit_filtered (hp : c.pipeline.IsStandard) (item : WorkItem)
    (now : Time.Instant) {last : Option Bytes} (hlast : Remembers item.metadata last)
    (hfiltered : (c.pipeline.course item now).isFiltered = true) :
    Remembers (c.visit item now).value.record.metadata
      (some (signedInput item.url item.content)) := by
  obtain ⟨hstatus, hsignature, -, -⟩ := c.record_of_remembers hp item now hlast hfiltered
  rw [(c.record_visit item now).1]
  simp only [Remembers, hstatus]
  by_cases hunknown : Comparison.ofMetadata
      ((c.pipeline.course item now).outcome c.pipeline item).record.metadata = .unknown
  · rw [ScheduleSettings.value_next_of_unknown _ _ _ hunknown]
    exact hsignature
  · rw [ScheduleSettings.value_next_of_ne_unknown _ _ _ rfl hunknown,
      ScheduleSettings.values_signature_adapted]
    exact hsignature

theorem remembers_visit_unreadable (item : WorkItem) (now : Time.Instant)
    {last : Option Bytes} (hlast : Remembers item.metadata last)
    (hunreadable : (c.pipeline.course item now).isUnreadable = true) :
    Remembers (c.visit item now).value.record.metadata last := by
  obtain ⟨hstatus, hvalues⟩ := Course.record_of_isUnreadable c.pipeline item hunreadable
  have herror : Status.error ≠ .fetched := by decide
  rw [(c.record_visit item now).1]
  simp only [hstatus, ScheduleSettings.value_next_of_ne_fetched _ herror]
  apply remembers_congr _ _ hlast
  · rw [hvalues _ (by decide) (by decide) (by decide), Pipeline.values_course _ _ _ (by decide)]
  · rw [hvalues _ (by decide) (by decide) (by decide), Pipeline.values_course _ _ _ (by decide)]

/-- A turn that signs an input makes it the remembered one, every other turn keeps what was
remembered. -/
theorem remembers_apply (hp : c.pipeline.IsStandard) (m : Metadata) (turn : Turn)
    {last : Option Bytes} (hlast : Remembers m last) (hregular : turn.IsRegular c url m) :
    Remembers (turn.apply c url m) ((turn.signedInput? c url m).or last) := by
  cases turn with
  | visit content now =>
    simp only [Turn.apply, Turn.signedInput?]
    rcases hregular with ⟨hfiltered, -⟩ | hunreadable
    · rw [if_pos hfiltered]
      exact c.remembers_visit_filtered hp ⟨url, content, m⟩ now hlast hfiltered
    · have hfiltered := Course.isFiltered_of_isUnreadable hunreadable
      rw [hfiltered]
      exact c.remembers_visit_unreadable ⟨url, content, m⟩ now hlast hunreadable
  | between turn =>
    cases turn with
    | call status now =>
      simp only [Turn.apply, ScheduleSettings.Turn.apply, Turn.signedInput?,
        ScheduleSettings.value_next_of_ne_fetched _ hregular]
      exact hlast
    | edit key values =>
      have hsignature : Key.signature ≠ key := fun e => hregular.1 e.symm
      have hold : Key.signatureOld ≠ key := fun e => hregular.2 e.symm
      apply remembers_congr _ _ hlast
      · simp [Turn.apply, ScheduleSettings.Turn.apply, hsignature]
      · simp [Turn.apply, ScheduleSettings.Turn.apply, hold]

theorem remembers_run (hp : c.pipeline.IsStandard) (m : Metadata) (turns : List Turn)
    {last : Option Bytes} (hlast : Remembers m last) (hregular : c.IsRegular url m turns) :
    Remembers (c.run url m turns) ((c.signedInputs url m turns).getLast?.or last) := by
  induction turns generalizing m last with
  | nil => exact hlast
  | cons turn rest ih =>
    have hstep := c.remembers_apply url hp m turn hlast hregular.1
    have hrest := ih (turn.apply c url m) hstep hregular.2
    have hinputs : (c.signedInputs url m (turn :: rest)).getLast?.or last =
        (c.signedInputs url (turn.apply c url m) rest).getLast?.or
          ((turn.signedInput? c url m).or last) := by
      rw [signedInputs, getLast?_toList_append, Option.or_assoc]
    rw [hinputs]
    exact hrest

/-- Nothing is remembered: the baseline schedules the visit. -/
theorem visit_of_first (hp : c.pipeline.IsStandard) (item : WorkItem) (now : Time.Instant)
    (hlast : Remembers item.metadata none)
    (hcode : item.metadata.first? Key.statusCode ≠ some "304")
    (hfiltered : (c.pipeline.course item now).isFiltered = true) :
    let record := (c.pipeline.process item now).value.record
    (c.visit item now).value.record = record ∧
      (c.visit item now).value.next = c.schedule.baseline? .fetched record.metadata now := by
  intro record
  obtain ⟨hstatus, -, hcopied, hkept⟩ := c.record_of_remembers hp item now hlast hfiltered
  obtain ⟨hrecord, hnext⟩ := c.record_visit item now
  simp only [← Pipeline.value_process] at hstatus hcopied hkept hrecord hnext
  have hunknown : Comparison.ofMetadata record.metadata = .unknown := by
    apply ofMetadata_of_first hcopied
    rw [Metadata.first?_congr hkept]
    exact hcode
  rw [hstatus, ScheduleSettings.value_next_of_unknown _ _ _ hunknown] at hrecord hnext
  refine ⟨hrecord.trans ?_, hnext⟩
  rw [← hstatus]

/-- An input is remembered: the schedule compares the two digests. -/
theorem visit_of_later (hp : c.pipeline.IsStandard) (item : WorkItem) (now : Time.Instant)
    {earlier : Bytes} (hlast : Remembers item.metadata (some earlier))
    (hfiltered : (c.pipeline.course item now).isFiltered = true) :
    let record := (c.pipeline.process item now).value.record
    let isSame := digest (signedInput item.url item.content) = digest earlier
    let comparison := Comparison.ofMetadata record.metadata
    let visit := (c.visit item now).value
    (comparison = if isSame then .same else .changed) ∧
      (visit.record.metadata, visit.next) = c.schedule.adapted comparison record.metadata now
        (c.schedule.previous record.metadata now) ∧
      visit.record.metadata.values Key.signatureOld = if isSame then [] else [digest earlier] := by
  intro record isSame comparison visit
  obtain ⟨hstatus, hnew, hcopied, -⟩ := c.record_of_remembers hp item now hlast hfiltered
  obtain ⟨hrecord, hnext⟩ := c.record_visit item now
  simp only [← Pipeline.value_process] at hstatus hnew hcopied hrecord hnext
  have hcomparison : comparison = if isSame then .same else .changed :=
    ofMetadata_of_later hnew hcopied
  have hunknown : comparison ≠ .unknown := by
    rw [hcomparison]
    split <;> decide
  rw [hstatus, ScheduleSettings.value_next_of_ne_unknown _ _ _ rfl hunknown] at hrecord hnext
  refine ⟨hcomparison, ?_, ?_⟩
  · simp only [visit, hrecord, hnext]
    rfl
  · simp only [visit, hrecord]
    rw [ScheduleSettings.values_signatureOld_adapted]
    change (if comparison = .same then [] else record.metadata.values Key.signatureOld) = _
    rw [hcomparison, hcopied]
    by_cases h : isSame <;> simp [h]

/-- A crawl with the default settings. -/
def standardCrawl : Crawl :=
  { pipeline := ⟨⟨{}, {}, ParseFilter.standard⟩, ⟨{}, ParseFilter.standard⟩⟩ }

end Crawl

end Recrawl
