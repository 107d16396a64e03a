import Recrawl.Proofs.Segment.Division
import Recrawl.Proofs.Segment.Name

/-!
What one record and one rotation do to a sink. The files of the closed segments hold their
lines, divided as the policy says; at most the segment that is being filled has a draft, and
no other file changes. The meter is in step with the open segment, whatever it counted before.
-/

namespace Recrawl

/-- The segment with these lines is full: any is if the interval is zero, else one that has come to
the greatest number of bytes. -/
def RotationPolicy.isFull (policy : RotationPolicy) (lines : List String) : Bool :=
  policy.interval == some ⟨0⟩ || policy.maxBytes ≤ (String.join lines).utf8ByteSize

/-- The interval is zero, or it has not passed since a segment was opened. -/
def RotationPolicy.IsPunctual (policy : RotationPolicy) (opened now : Nat) : Prop :=
  ∀ interval ∈ policy.interval, interval.nanos = 0 ∨ now - opened < interval.nanos

instance (policy : RotationPolicy) (opened now : Nat) : Decidable (policy.IsPunctual opened now) :=
  inferInstanceAs (Decidable (∀ interval ∈ policy.interval, _))

namespace Sink

/-- When the segment was opened to which a record is written now. -/
def openedAt (s : Sink) (now : Nat) : Nat :=
  if s.current.isSome then s.meter.opened else now

/-- A record that is written now is in time for its segment. -/
def IsPunctual (s : Sink) (now : Nat) : Prop :=
  s.policy.IsPunctual (s.openedAt now) now

instance (s : Sink) (now : Nat) : Decidable (s.IsPunctual now) :=
  inferInstanceAs (Decidable (s.policy.IsPunctual (s.openedAt now) now))

/-- The files of the closed segments, in a directory that began as `before`. -/
structure Settled (before : Directory String) (s : Sink) (closed : List (List String)) :
    Prop where
  finished : s.finished.reverse = (List.range closed.length).map (Segment.fileName s.stem)
  files : ∀ i segment, closed[i]? = some segment →
    s.directory.read? (Segment.fileName s.stem i) = some (String.join segment)
  drafts : ∀ i < closed.length, s.directory.read? (Segment.draftName s.stem i) = none
  frame : ∀ name, (∀ i < s.opened, name ≠ Segment.fileName s.stem i ∧
    name ≠ Segment.draftName s.stem i) → s.directory.read? name = before.read? name

/-- The segment is the one that is being filled. -/
structure Fills (before : Directory String) (s : Sink) (segment : Segment) (d : Division) :
    Prop where
  settled : s.Settled before d.closed
  opened : s.opened = d.closed.length + 1
  index : segment.index = d.closed.length
  lines : segment.lines.reverse = d.pending
  size : segment.size = (String.join d.pending).utf8ByteSize
  place : ∀ other : Directory String,
    other.place (Segment.draftName s.stem segment.index) =
      .ok (Segment.draftName s.stem segment.index) ∧
    other.place (Segment.fileName s.stem segment.index) =
      .ok (Segment.fileName s.stem segment.index)

/-- The meter has counted the segment up to its end. -/
def Counts (s : Sink) (segment : Segment) : Prop :=
  s.meter.offset = segment.size ∧ s.meter.written = segment.size

/-- The sink has divided its lines in this way. -/
def Holds (before : Directory String) (s : Sink) (d : Division) : Prop :=
  match s.current with
  | none => s.Settled before d.closed ∧ s.opened = d.closed.length ∧ d.pending = []
  | some segment => s.Fills before segment d ∧ s.Counts segment ∧ d.pending ≠ []

variable {before : Directory String} {s s' : Sink} {d : Division} {now : Nat}

theorem openedAt_of_none (h : s.current = none) : s.openedAt now = now := by
  simp [openedAt, h]

theorem openedAt_of_some {segment : Segment} (h : s.current = some segment) :
    s.openedAt now = s.meter.opened := by
  simp [openedAt, h]

theorem holds_iff_of_none (h : s.current = none) :
    s.Holds before d ↔
      s.Settled before d.closed ∧ s.opened = d.closed.length ∧ d.pending = [] := by
  unfold Holds
  rw [h]

theorem holds_iff_of_some {segment : Segment} (h : s.current = some segment) :
    s.Holds before d ↔ s.Fills before segment d ∧ s.Counts segment ∧ d.pending ≠ [] := by
  unfold Holds
  rw [h]

theorem isPunctual_self (policy : RotationPolicy) (now : Nat) : policy.IsPunctual now now := by
  intro interval _
  omega

/-- At such a time only an interval of zero has passed. -/
theorem isSome_elapsed? {meter : SegmentMeter} {policy : RotationPolicy}
    (h : policy.IsPunctual meter.opened now) :
    (meter.elapsed? policy now).isSome = (policy.interval == some ⟨0⟩) := by
  unfold SegmentMeter.elapsed?
  cases hinterval : policy.interval with
  | none => rfl
  | some interval =>
    obtain ⟨nanos⟩ := interval
    rcases h _ hinterval with hzero | hlater
    · simp only at hzero
      subst hzero
      simp [Option.filter]
    · simp only at hlater
      have hpassed : ¬ nanos ≤ now - meter.opened := by omega
      have hne : nanos ≠ 0 := by omega
      simp [Option.filter, hpassed, hne]

/-- A meter that has counted everything tells when the segment is full, and counts on if it is
not. -/
theorem mark_of_counted {meter : SegmentMeter} {policy : RotationPolicy} {size : Nat}
    (h : policy.IsPunctual meter.opened now)
    (hwritten : meter.written = meter.offset) (hoffset : meter.offset ≤ size)
    {marked : SegmentMeter} {full : Bool}
    (hmark : (meter.mark policy size now).value = (marked, full)) :
    full = (policy.interval == some ⟨0⟩ || policy.maxBytes ≤ size) ∧
      marked.opened = meter.opened ∧
      (full = false → marked.offset = size ∧ marked.written = size) := by
  have hsum : meter.written + (size - meter.offset) = size := by omega
  rw [SegmentMeter.value_mark, isSome_elapsed? h] at hmark
  split at hmark
  · rename_i hzero
    cases hmark
    simp [hzero]
  · rename_i hzero
    cases hmark
    simp [hzero, SegmentMeter.advance, hsum]

/-- A record gets the open segment, or a new one behind all others. -/
theorem fills_of_openSegment (hstem : '/' ∉ s.stem.toList) (h : s.Holds before d)
    {segment : Segment} (hopen : s.openSegment now = .ok (s', segment)) :
    s'.Fills before segment d ∧ s'.Counts segment ∧ s'.stem = s.stem ∧ s'.policy = s.policy ∧
      s'.meter.opened = s.openedAt now := by
  unfold openSegment at hopen
  cases hcurrent : s.current with
  | some current =>
    rw [holds_iff_of_some hcurrent] at h
    rw [hcurrent] at hopen
    cases hopen
    exact ⟨h.1, h.2.1, rfl, rfl, (openedAt_of_some hcurrent).symm⟩
  | none =>
    rw [holds_iff_of_none hcurrent] at h
    rw [hcurrent] at hopen
    obtain ⟨hsettled, hopened, hpending⟩ := h
    cases hplace : s.directory.place (Segment.draftName s.stem s.opened) with
    | error fault =>
      rw [hplace] at hopen
      cases hopen
    | ok draft =>
      rw [hplace] at hopen
      cases hopen
      obtain ⟨rfl, -⟩ := Segment.place_of_place_draftName hstem hplace s.directory
      refine ⟨⟨⟨hsettled.finished, ?_, ?_, ?_⟩, ?_, hopened, ?_, ?_, ?_⟩, ⟨rfl, rfl⟩, rfl, rfl, ?_⟩
      · intro i closed hi
        rw [Directory.read?_write, if_neg (Segment.draftName_ne_fileName _ _).symm]
        exact hsettled.files i closed hi
      · intro i hi
        have hne : i ≠ s.opened := by omega
        rw [Directory.read?_write, if_neg (by rwa [Segment.draftName_inj])]
        exact hsettled.drafts i hi
      · intro name hname
        rw [Directory.read?_write, if_neg (hname s.opened (by simp)).2]
        exact hsettled.frame name fun i hi => hname i (by simp only; omega)
      · simp only
        omega
      · exact hpending.symm
      · rw [hpending]
        rfl
      · intro other
        exact (Segment.place_of_place_draftName hstem hplace other).2
      · rw [openedAt_of_none hcurrent]
        rfl

/-- The draft goes, and the text of the segment comes. -/
theorem value_rotate {segment : Segment} (now : Nat) (hstem : '/' ∉ s.stem.toList)
    (h : s.Fills before segment d) (hcurrent : s.current = some segment) :
    (s.rotate now).value = { s with
      directory := (s.directory.remove (Segment.draftName s.stem d.closed.length)).write
        (Segment.fileName s.stem d.closed.length) (String.join d.pending),
      meter := .start now,
      current := none,
      finished := Segment.fileName s.stem d.closed.length :: s.finished } := by
  have htext : segment.text = String.join d.pending := by rw [Segment.text, h.lines]
  obtain ⟨hdraft, hname⟩ := h.place s.directory
  rw [h.index] at hdraft hname
  unfold rotate
  rw [hcurrent]
  simp only [Logged.value_bind, Logged.value_pure, Segment.fileName_join hstem, h.index, htext,
    hdraft, hname]

/-- The files of a segment that is closed are those of the others and its own. -/
theorem settled_rotate {segment : Segment} (now : Nat) (hstem : '/' ∉ s.stem.toList)
    (h : s.Fills before segment d) (hcurrent : s.current = some segment) :
    (s.rotate now).value.Settled before (d.closed ++ [d.pending]) := by
  rw [value_rotate now hstem h hcurrent]
  have hopened := h.opened
  refine ⟨?_, ?_, ?_, ?_⟩
  · simp [h.settled.finished, List.range_succ]
  · intro i closed hi
    rw [Directory.read?_write, Directory.read?_remove]
    -- The files of other segments have other names than the draft that goes and the file that comes.
    rcases Nat.lt_trichotomy i d.closed.length with hlt | heq | hgt
    · have hne : i ≠ d.closed.length := by omega
      rw [if_neg (by rwa [Segment.fileName_inj]),
        if_neg (Segment.draftName_ne_fileName _ _).symm]
      rw [List.getElem?_append_left hlt] at hi
      exact h.settled.files i closed hi
    · subst heq
      rw [List.getElem?_concat_length] at hi
      rw [if_pos rfl, Option.some.inj hi]
    · rw [List.getElem?_append_right (by omega), List.getElem?_eq_none (by simp; omega)] at hi
      cases hi
  · intro i hi
    simp only [List.length_append, List.length_singleton] at hi
    rw [Directory.read?_write, if_neg (Segment.draftName_ne_fileName _ _), Directory.read?_remove]
    split
    · rfl
    · rename_i hne
      rw [Segment.draftName_inj] at hne
      exact h.settled.drafts i (by omega)
  · intro name hother
    have hlast := hother d.closed.length (by simp only; omega)
    rw [Directory.read?_write, if_neg hlast.1, Directory.read?_remove, if_neg hlast.2]
    exact h.settled.frame name hother

theorem holds_rotate_of_fills {segment : Segment} (now : Nat) (hstem : '/' ∉ s.stem.toList)
    (h : s.Fills before segment d) (hcurrent : s.current = some segment) (hlines : d.pending ≠ []) :
    (s.rotate now).value.Holds before d.cut := by
  have hsettled := settled_rotate now hstem h hcurrent
  rw [Division.cut_of_pending hlines]
  rw [value_rotate now hstem h hcurrent] at hsettled ⊢
  refine (holds_iff_of_none ?_).mpr ⟨hsettled, ?_, rfl⟩
  · rfl
  · simp [h.opened]

theorem holds_rotate (now : Nat) (hstem : '/' ∉ s.stem.toList) (h : s.Holds before d) :
    (s.rotate now).value.Holds before d.cut := by
  cases hcurrent : s.current with
  | none =>
    obtain ⟨hsettled, hopened, hpending⟩ := (holds_iff_of_none hcurrent).mp h
    rw [rotate, hcurrent, Division.cut, if_pos hpending]
    refine (holds_iff_of_none ?_).mpr ⟨?_, hopened, hpending⟩
    · rfl
    · exact ⟨hsettled.finished, hsettled.files, hsettled.drafts, hsettled.frame⟩
  | some segment =>
    obtain ⟨hfills, -, hpending⟩ := (holds_iff_of_some hcurrent).mp h
    exact holds_rotate_of_fills now hstem hfills hcurrent hpending

theorem frame_rotate (s : Sink) (now : Nat) :
    (s.rotate now).value.current = none ∧ (s.rotate now).value.stem = s.stem ∧
      (s.rotate now).value.policy = s.policy := by
  unfold rotate
  cases hcurrent : s.current with
  | none => exact ⟨rfl, rfl, rfl⟩
  | some segment => exact ⟨rfl, rfl, rfl⟩

/-- The sink with the open segment, behind one more record. -/
def fill (s : Sink) (segment : Segment) (meter : SegmentMeter) : Sink :=
  { s with meter, current := some segment, total := s.total + 1 }

/-- A record is added to its segment, which is closed if it is full then. -/
theorem value_write {front : Sink} {segment : Segment} (record : Record)
    (hopen : s.openSegment now = .ok (front, segment)) {marked : SegmentMeter} {full : Bool}
    (hmark : (front.meter.mark front.policy (segment.add record.line).size now).value =
      (marked, full)) :
    (s.write record now).value =
      let filled := front.fill (segment.add record.line) marked
      .ok (if full then (filled.rotate now).value else filled) := by
  unfold write
  rw [hopen]
  simp only [Logged.value_bind, hmark]
  cases full with
  | true => rfl
  | false => rfl

theorem Fills.fill {segment : Segment} (h : s.Fills before segment d) (line : String)
    (meter : SegmentMeter) :
    (s.fill (segment.add line) meter).Fills before (segment.add line)
      ⟨d.closed, d.pending ++ [line]⟩ := by
  refine ⟨⟨h.settled.finished, h.settled.files, h.settled.drafts, h.settled.frame⟩, h.opened,
    h.index, ?_, ?_, h.place⟩
  · simp [Segment.add, h.lines]
  · simp [Segment.add, h.size, String.utf8ByteSize_append]

theorem holds_write {record : Record} (hstem : '/' ∉ s.stem.toList) (h : s.Holds before d)
    (hpunctual : s.IsPunctual now) (hwrite : (s.write record now).value = .ok s') :
    s'.Holds before (d.add s.policy.isFull record.line) ∧ s'.stem = s.stem ∧
      s'.policy = s.policy ∧ s'.IsPunctual now := by
  cases hopen : s.openSegment now with
  | error fault =>
    rw [write, hopen] at hwrite
    cases hwrite
  | ok opened =>
    obtain ⟨front, segment⟩ := opened
    obtain ⟨hfills, ⟨hoffset, hwritten⟩, hfront, hpolicy, htime⟩ :=
      fills_of_openSegment hstem h hopen
    obtain ⟨⟨meter, full⟩, hmark⟩ : ∃ marked,
        (front.meter.mark front.policy (segment.add record.line).size now).value = marked :=
      ⟨_, rfl⟩
    have htimely : front.policy.IsPunctual front.meter.opened now := by
      rw [htime, hpolicy]
      exact hpunctual
    obtain ⟨hfull, hopened, hcounts⟩ := mark_of_counted htimely (hwritten.trans hoffset.symm)
      (by simp [hoffset, Segment.add]) hmark
    rw [value_write record hopen hmark] at hwrite
    have hfills := hfills.fill record.line meter
    have hfull : s.policy.isFull (d.pending ++ [record.line]) = full := by
      rw [hfull, hfills.size, hpolicy]
      rfl
    have hlines : d.pending ++ [record.line] ≠ [] := by simp
    rw [Division.add]
    simp only [hfull]
    -- A full segment is closed at once, and its meter counts no more.
    cases full with
    | true =>
      cases hwrite
      obtain ⟨hcurrent, hrotated, hkept⟩ :=
        frame_rotate (front.fill (segment.add record.line) meter) now
      refine ⟨?_, hrotated.trans hfront, hkept.trans hpolicy, ?_⟩
      · have hstem : '/' ∉ front.stem.toList := by rwa [hfront]
        exact holds_rotate_of_fills now hstem hfills rfl hlines
      · rw [if_pos rfl, IsPunctual, openedAt_of_none hcurrent]
        exact isPunctual_self _ now
    | false =>
      cases hwrite
      refine ⟨?_, hfront, hpolicy, ?_⟩
      · exact (holds_iff_of_some rfl).mpr ⟨hfills, hcounts rfl, hlines⟩
      · rw [if_neg (by simp), IsPunctual, openedAt_of_some rfl]
        change front.policy.IsPunctual meter.opened now
        rwa [hopened]

end Sink

end Recrawl
