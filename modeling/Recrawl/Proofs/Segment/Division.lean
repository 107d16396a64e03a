/-!
Lines divided into segments, apart from files and their names. A segment ends behind the
line with which it is full, or where a cut is asked for; no line is lost, and no segment is
without lines.
-/

namespace Recrawl

/-- Lines that are divided into segments: those of the closed segments, and those of the segment
that is being filled. -/
structure Division where
  closed : List (List String) := []
  pending : List String := []

namespace Division

/-- Closes the segment that is being filled, if it has any lines. -/
def cut (d : Division) : Division :=
  if d.pending = [] then d else ⟨d.closed ++ [d.pending], []⟩

/-- Adds a line to the segment that is being filled, and closes it if it is full with that line. -/
def add (isFull : List String → Bool) (d : Division) (line : String) : Division :=
  let filled : Division := ⟨d.closed, d.pending ++ [line]⟩
  if isFull filled.pending then filled.cut else filled

/-- What is done to a division: a line is added, or a cut is asked for. -/
inductive Event where
  | line (line : String)
  | cut

/-- The line of an event. -/
def Event.line? : Event → Option String
  | .line text => some text
  | .cut => none

/-- The division after one more event. -/
def step (isFull : List String → Bool) (d : Division) : Event → Division
  | .line line => d.add isFull line
  | .cut => d.cut

/-- The division that some events make. -/
def ofEvents (isFull : List String → Bool) (events : List Event) : Division :=
  events.foldl (step isFull) {}

/-- All lines, in order. -/
def lines (d : Division) : List String :=
  d.closed.flatten ++ d.pending

theorem pending_cut (d : Division) : d.cut.pending = [] := by
  unfold cut
  split
  · assumption
  · rfl

@[simp] theorem cut_cut (d : Division) : d.cut.cut = d.cut := by
  rw [cut, if_pos (pending_cut d)]

theorem cut_of_pending {d : Division} (h : d.pending ≠ []) :
    d.cut = ⟨d.closed ++ [d.pending], []⟩ := by
  rw [cut, if_neg h]

/-- A cut keeps the segments that were closed, and closes at most one more. -/
theorem dropLast_closed_cut_subset (d : Division) : d.cut.closed.dropLast ⊆ d.closed := by
  unfold cut
  split
  · exact List.dropLast_subset _
  · simp

theorem lines_cut (d : Division) : d.cut.lines = d.lines := by
  unfold cut
  split
  · rfl
  · simp [lines]

theorem lines_add (isFull : List String → Bool) (d : Division) (line : String) :
    (d.add isFull line).lines = d.lines ++ [line] := by
  unfold add
  simp only
  split
  · rw [lines_cut]
    simp [lines]
  · simp [lines]

/-- No closed segment is without lines. -/
def IsProper (d : Division) : Prop :=
  ∀ segment ∈ d.closed, segment ≠ []

theorem isProper_cut {d : Division} (h : d.IsProper) : d.cut.IsProper := by
  unfold cut
  split
  · exact h
  · rename_i hpending
    intro segment hmem
    rcases List.mem_append.mp hmem with hclosed | hlast
    · exact h segment hclosed
    · rwa [List.mem_singleton.mp hlast]

theorem isProper_add (isFull : List String → Bool) {d : Division} (h : d.IsProper)
    (line : String) : (d.add isFull line).IsProper := by
  have hfilled : IsProper ⟨d.closed, d.pending ++ [line]⟩ := h
  unfold add
  simp only
  split
  · exact isProper_cut hfilled
  · exact hfilled

/-- Every closed segment has one line, and none is being filled. -/
def IsSingle (d : Division) : Prop :=
  d.pending = [] ∧ d.closed = d.lines.map fun line => [line]

theorem isSingle_cut {d : Division} (h : d.IsSingle) : d.cut.IsSingle := by
  rwa [cut, if_pos h.1]

/-- Where one line fills a segment, each line has its own. -/
theorem isSingle_add {isFull : List String → Bool} (hfull : ∀ lines, isFull lines = true)
    {d : Division} (h : d.IsSingle) (line : String) : (d.add isFull line).IsSingle := by
  obtain ⟨hpending, hclosed⟩ := h
  refine ⟨?_, ?_⟩
  · simp only [add, hfull, if_true]
    exact pending_cut _
  · rw [lines_add, List.map_append, ← hclosed]
    simp [add, hfull, cut, hpending]

/-- No segment was full before its last line, nor is the one that is being filled. -/
structure IsPrompt (isFull : List String → Bool) (d : Division) : Prop where
  closed : ∀ segment ∈ d.closed, ∀ front, front ≠ [] → front <+: segment → front ≠ segment →
    isFull front = false
  pending : ∀ front, front ≠ [] → front <+: d.pending → isFull front = false

theorem isPrompt_cut {isFull : List String → Bool} {d : Division} (h : d.IsPrompt isFull) :
    d.cut.IsPrompt isFull := by
  unfold cut
  split
  · exact h
  · refine ⟨?_, ?_⟩
    · intro segment hmem front hfront hprefix hne
      rcases List.mem_append.mp hmem with hclosed | hlast
      · exact h.closed segment hclosed front hfront hprefix hne
      · rw [List.mem_singleton.mp hlast] at hprefix
        exact h.pending front hfront hprefix
    · intro front hfront hprefix
      exact absurd (List.prefix_nil.mp hprefix) hfront

theorem isPrompt_add {isFull : List String → Bool} {d : Division} (h : d.IsPrompt isFull)
    (line : String) : (d.add isFull line).IsPrompt isFull := by
  have hfront : ∀ front, front ≠ [] → front <+: d.pending ++ [line] →
      front ≠ d.pending ++ [line] → isFull front = false := by
    intro front hfront hprefix hne
    rcases List.prefix_concat_iff.mp hprefix with rfl | hshort
    · exact absurd rfl hne
    · exact h.pending front hfront hshort
  have hlines : d.pending ++ [line] ≠ [] := by simp
  unfold add
  simp only
  split
  · rw [cut_of_pending hlines]
    refine ⟨?_, ?_⟩
    · intro segment hmem front hnil hprefix hne
      rcases List.mem_append.mp hmem with hclosed | hlast
      · exact h.closed segment hclosed front hnil hprefix hne
      · rw [List.mem_singleton.mp hlast] at hprefix hne
        exact hfront front hnil hprefix hne
    · intro front hnil hprefix
      exact absurd (List.prefix_nil.mp hprefix) hnil
  · rename_i hopen
    refine ⟨h.closed, ?_⟩
    intro front hnil hprefix
    by_cases hall : front = d.pending ++ [line]
    · rw [hall]
      simpa using hopen
    · exact hfront front hnil hprefix hall

/-- Every closed segment is full. -/
def IsSaturated (isFull : List String → Bool) (d : Division) : Prop :=
  ∀ segment ∈ d.closed, isFull segment = true

theorem isSaturated_add {isFull : List String → Bool} {d : Division}
    (h : d.IsSaturated isFull) (line : String) : (d.add isFull line).IsSaturated isFull := by
  unfold add
  simp only
  split
  · rename_i hfull
    rw [cut_of_pending (by simp)]
    intro segment hmem
    rcases List.mem_append.mp hmem with hclosed | hlast
    · exact h segment hclosed
    · rwa [List.mem_singleton.mp hlast]
  · exact h

/-- What every event that comes keeps holds of the division that the events make. -/
theorem ofEvents_invariant {isFull : List String → Bool} {P : Division → Prop} (hempty : P {})
    {events : List Event} (hstep : ∀ event ∈ events, ∀ d, P d → P (d.step isFull event)) :
    P (ofEvents isFull events) := by
  unfold ofEvents
  generalize ({} : Division) = d at hempty ⊢
  induction events generalizing d with
  | nil => exact hempty
  | cons event rest ih =>
    refine ih (fun other hother => hstep other (List.mem_cons_of_mem _ hother)) _ ?_
    exact hstep event List.mem_cons_self d hempty

theorem lines_ofEvents (isFull : List String → Bool) (events : List Event) :
    (ofEvents isFull events).lines = events.filterMap Event.line? := by
  have hfold : ∀ d : Division, (events.foldl (step isFull) d).lines =
      d.lines ++ events.filterMap Event.line? := by
    induction events with
    | nil => simp
    | cons event rest ih =>
      intro d
      rw [List.foldl_cons, ih]
      cases event with
      | line line =>
        have hline : Event.line? (.line line) = some line := rfl
        simp [step, lines_add, hline]
      | cut => rw [step, lines_cut, List.filterMap_cons_none rfl]
  exact hfold {}

theorem isProper_ofEvents (isFull : List String → Bool) (events : List Event) :
    (ofEvents isFull events).IsProper := by
  refine ofEvents_invariant (by simp [IsProper]) ?_
  rintro (line | _) - d h
  · exact isProper_add isFull h line
  · exact isProper_cut h

theorem isPrompt_ofEvents (isFull : List String → Bool) (events : List Event) :
    (ofEvents isFull events).IsPrompt isFull := by
  have hempty : IsPrompt isFull {} :=
    ⟨by simp, fun front hfront hprefix => absurd (List.prefix_nil.mp hprefix) hfront⟩
  refine ofEvents_invariant hempty ?_
  rintro (line | _) - d h
  · exact isPrompt_add h line
  · exact isPrompt_cut h

theorem isSingle_ofEvents {isFull : List String → Bool} (hfull : ∀ lines, isFull lines = true)
    (events : List Event) : (ofEvents isFull events).IsSingle := by
  refine ofEvents_invariant (by simp [IsSingle, lines]) ?_
  rintro (line | _) - d h
  · exact isSingle_add hfull h line
  · exact isSingle_cut h

/-- If no cut is asked for, only full segments are closed. -/
theorem isSaturated_ofEvents {isFull : List String → Bool} {events : List Event}
    (hcut : .cut ∉ events) : (ofEvents isFull events).IsSaturated isFull := by
  refine ofEvents_invariant (by simp [IsSaturated]) ?_
  rintro (line | _) hmem d h
  · exact isSaturated_add h line
  · exact absurd hmem hcut

end Division

end Recrawl
