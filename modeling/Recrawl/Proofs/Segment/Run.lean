import Recrawl.Proofs.Segment.Step

/-!
Any run of calls on a new sink, and what the sink leaves once it is closed: the lines of all
records in their order, in files that are numbered from zero. How the lines are divided is told
by the events of the calls alone.
-/

namespace Recrawl

namespace Sink

/-- What a writer asks of a sink. -/
inductive Call where
  | write (record : Record)
  | writeAll (records : List Record)
  | rotate

/-- The records that a call writes. -/
def Call.records : Call → List Record
  | .write record => [record]
  | .writeAll records => records
  | .rotate => []

/-- The lines that a call adds, or the cut that it asks for. -/
def Call.events : Call → List Division.Event
  | .rotate => [.cut]
  | call => call.records.map fun record => .line record.line

/-- A call at a time. -/
structure Turn where
  call : Call
  now : Nat

/-- The sink after a call. -/
def apply (s : Sink) (turn : Turn) : Except FileFault Sink :=
  match turn.call with
  | .write record => (s.write record turn.now).value
  | .writeAll records => (s.writeAll turn.now records).value
  | .rotate => .ok (s.rotate turn.now).value

/-- The sink after some calls, if none of them fails. -/
def run (s : Sink) : List Turn → Except FileFault Sink
  | [] => .ok s
  | turn :: rest =>
    match s.apply turn with
    | .error fault => .error fault
    | .ok s => s.run rest

/-- The interval is zero, or in no segment of the run a record is written once it has passed. -/
def IsPunctualRun (s : Sink) : List Turn → Prop
  | [] => True
  | turn :: rest => (turn.call.records ≠ [] → s.IsPunctual turn.now) ∧
      match s.apply turn with
      | .error _ => True
      | .ok s => s.IsPunctualRun rest

instance decidableIsPunctualRun (s : Sink) : (turns : List Turn) → Decidable (s.IsPunctualRun turns)
  | [] => .isTrue trivial
  | turn :: rest =>
    have : Decidable (match s.apply turn with
        | .error _ => True
        | .ok s => s.IsPunctualRun rest) :=
      match s.apply turn with
      | .error _ => .isTrue trivial
      | .ok s => decidableIsPunctualRun s rest
    inferInstanceAs (Decidable (_ ∧ _))

/-- Nothing was written yet. The meter may have been used for other segments. -/
structure IsNew (s : Sink) : Prop where
  current : s.current = none
  opened : s.opened = 0
  finished : s.finished = []

/-- All lines of a run. -/
def linesOf (turns : List Turn) : List String :=
  turns.flatMap fun turn => turn.call.records.map Record.line

/-- How the policy of the sink divides the lines of a run. -/
def division (s : Sink) (turns : List Turn) : Division :=
  .ofEvents s.policy.isFull (turns.flatMap fun turn => turn.call.events)

/-- The segments that a run leaves once the sink is closed. -/
def segmentsOf (s : Sink) (turns : List Turn) : List (List String) :=
  (s.division turns).cut.closed

variable {before : Directory String} {s s' : Sink} {d : Division}

theorem holds_writeAll {now : Nat} (hstem : '/' ∉ s.stem.toList) (h : s.Holds before d)
    {records : List Record} (hpunctual : records ≠ [] → s.IsPunctual now)
    (hwrite : (s.writeAll now records).value = .ok s') :
    s'.Holds before ((records.map fun record => .line record.line).foldl
      (Division.step s.policy.isFull) d) ∧ s'.stem = s.stem ∧ s'.policy = s.policy := by
  induction records generalizing s d with
  | nil =>
    cases hwrite
    exact ⟨h, rfl, rfl⟩
  | cons record rest ih =>
    simp only [writeAll, Logged.value_bind] at hwrite
    cases hfirst : (s.write record now).value with
    | error fault =>
      rw [hfirst] at hwrite
      cases hwrite
    | ok next =>
      rw [hfirst] at hwrite
      obtain ⟨hholds, hstem', hpolicy, hnext⟩ :=
        holds_write hstem h (hpunctual (by simp)) hfirst
      have hrest := ih (by rwa [hstem']) hholds (fun _ => hnext) hwrite
      rw [hpolicy, hstem'] at hrest
      exact hrest

theorem holds_apply {turn : Turn} (hstem : '/' ∉ s.stem.toList) (h : s.Holds before d)
    (hpunctual : turn.call.records ≠ [] → s.IsPunctual turn.now)
    (happly : s.apply turn = .ok s') :
    s'.Holds before (turn.call.events.foldl (Division.step s.policy.isFull) d) ∧
      s'.stem = s.stem ∧ s'.policy = s.policy := by
  obtain ⟨call, now⟩ := turn
  cases call with
  | write record =>
    obtain ⟨hholds, hstem', hpolicy, -⟩ := holds_write hstem h (hpunctual (by simp [Call.records]))
      happly
    exact ⟨hholds, hstem', hpolicy⟩
  | writeAll records => exact holds_writeAll hstem h hpunctual happly
  | rotate =>
    cases happly
    obtain ⟨-, hstem', hpolicy⟩ := frame_rotate s now
    exact ⟨holds_rotate now hstem h, hstem', hpolicy⟩

theorem holds_run {turns : List Turn} (hstem : '/' ∉ s.stem.toList) (h : s.Holds before d)
    (hpunctual : s.IsPunctualRun turns) (hrun : s.run turns = .ok s') :
    s'.Holds before ((turns.flatMap fun turn => turn.call.events).foldl
      (Division.step s.policy.isFull) d) ∧ s'.stem = s.stem := by
  induction turns generalizing s d with
  | nil =>
    cases hrun
    exact ⟨h, rfl⟩
  | cons turn rest ih =>
    unfold run at hrun
    cases happly : s.apply turn with
    | error fault =>
      rw [happly] at hrun
      cases hrun
    | ok next =>
      obtain ⟨hfirst, hrest⟩ := hpunctual
      rw [happly] at hrun hrest
      obtain ⟨hholds, hstem', hpolicy⟩ := holds_apply hstem h hfirst happly
      have hlast := ih (by rwa [hstem']) hholds hrest hrun
      rw [hpolicy, hstem'] at hlast
      rw [List.flatMap_cons, List.foldl_append]
      exact hlast

theorem holds_of_isNew (h : s.IsNew) : s.Holds s.directory {} := by
  refine (holds_iff_of_none h.current).mpr ⟨⟨?_, ?_, ?_, ?_⟩, h.opened, rfl⟩
  · simp [h.finished]
  · simp
  · simp
  · intro name _
    rfl

theorem line?_events (call : Call) :
    call.events.filterMap Division.Event.line? = call.records.map Record.line := by
  have hline : ∀ record : Record, Division.Event.line? (.line record.line) = some record.line :=
    fun _ => rfl
  cases call with
  | write record => simp [Call.events, Call.records, hline]
  | writeAll records =>
    rw [Call.events, List.filterMap_map]
    · exact congrFun (List.filterMap_eq_map (f := Record.line)) records
    · simp
  | rotate => rfl

theorem cut_not_mem_events {call : Call} (h : call ≠ .rotate) : .cut ∉ call.events := by
  cases call with
  | write record => simp [Call.events]
  | writeAll records => simp [Call.events]
  | rotate => exact absurd rfl h

theorem lines_division (s : Sink) (turns : List Turn) :
    (s.division turns).lines = linesOf turns := by
  rw [division, Division.lines_ofEvents, List.filterMap_flatMap]
  simp only [line?_events, linesOf]

theorem flatten_segmentsOf (s : Sink) (turns : List Turn) :
    (s.segmentsOf turns).flatten = linesOf turns := by
  have hlines := Division.lines_cut (s.division turns)
  rw [Division.lines, Division.pending_cut, List.append_nil, lines_division] at hlines
  exact hlines

theorem line_ne_empty (record : Record) : record.line ≠ "" := by
  intro h
  have hchars := congrArg String.toList h
  simp [Record.line, String.toList_append] at hchars

theorem join_flatten (segments : List (List String)) :
    String.join (segments.map String.join) = String.join segments.flatten := by
  induction segments with
  | nil => rfl
  | cons segment rest ih =>
    rw [List.map_cons, String.join_cons, ih, List.flatten_cons, String.join_append]

theorem join_ne_empty {segment : List String} (hlines : segment ≠ [])
    (h : ∀ line ∈ segment, line ≠ "") : String.join segment ≠ "" := by
  cases segment with
  | nil => exact absurd rfl hlines
  | cons line rest =>
    intro hjoin
    rw [String.join_cons, String.append_eq_empty_iff] at hjoin
    exact h line List.mem_cons_self hjoin.1

theorem opened_eq (h : s.Holds before d) : s.opened = d.cut.closed.length := by
  cases hcurrent : s.current with
  | none =>
    obtain ⟨-, hopened, hpending⟩ := (holds_iff_of_none hcurrent).mp h
    rw [Division.cut, if_pos hpending, hopened]
  | some segment =>
    obtain ⟨hfills, -, hpending⟩ := (holds_iff_of_some hcurrent).mp h
    rw [Division.cut_of_pending hpending, hfills.opened]
    simp

theorem settled_of_holds (h : s.Holds before d) : s.Settled before d.closed := by
  cases hcurrent : s.current with
  | none => exact ((holds_iff_of_none hcurrent).mp h).1
  | some segment => exact ((holds_iff_of_some hcurrent).mp h).1.settled

/-- Of the segments that were opened only the last one may have a draft. -/
theorem succ_eq_opened_of_draft (h : s.Holds before d) {i : Nat} (hi : i < s.opened)
    (hdraft : (s.directory.read? (Segment.draftName s.stem i)).isSome) : i + 1 = s.opened := by
  have hclosed : ¬ i < d.closed.length := by
    intro hlt
    rw [(settled_of_holds h).drafts i hlt] at hdraft
    cases hdraft
  have hlast : d.cut.closed.length ≤ d.closed.length + 1 := by
    rw [Division.cut]
    split
    · omega
    · simp
  rw [opened_eq h] at hi ⊢
  omega

/-- The names of the closed segments and what the files of these names hold. -/
theorem files_of_settled {closed : List (List String)} (h : s.Settled before closed) :
    (s.finished.reverse.map fun name => (name, s.directory.read? name)) =
      closed.mapIdx fun i lines => (Segment.fileName s.stem i, some (String.join lines)) := by
  rw [h.finished]
  apply List.ext_getElem
  · simp
  · intro i hi hi'
    have hlt : i < closed.length := by simpa using hi
    simp [h.files i closed[i] (List.getElem?_eq_getElem hlt)]

/-- A new sink that is closed behind a run of calls has written the lines of all records, in order,
to files that are numbered from zero and hold something each. -/
theorem finish_of_run {s₀ s : Sink} {turns : List Turn} (hnew : s₀.IsNew)
    (hstem : '/' ∉ s₀.stem.toList) (hpunctual : s₀.IsPunctualRun turns)
    (hrun : s₀.run turns = .ok s) (now : Nat) :
    let segments := s₀.segmentsOf turns
    let last := (s.finish now).value
    -- The files, with their names and texts.
    (last.finished.reverse.map fun name => (name, last.directory.read? name)) =
        (segments.mapIdx fun i lines => (Segment.fileName s₀.stem i, some (String.join lines))) ∧
      (∀ lines ∈ segments, String.join lines ≠ "") ∧
      String.join (segments.map String.join) = String.join (linesOf turns) ∧
      -- The division of the lines.
      (s.finished.reverse =
        (List.range (s₀.division turns).closed.length).map (Segment.fileName s₀.stem)) ∧
      (∀ lines ∈ segments, ∀ front, front ≠ [] → front <+: lines → front ≠ lines →
        s₀.policy.isFull front = false) ∧
      ((∀ turn ∈ turns, turn.call ≠ .rotate) →
        ∀ lines ∈ segments.dropLast, s₀.policy.isFull lines = true) ∧
      (s₀.policy.interval = some ⟨0⟩ → segments = (linesOf turns).map fun line => [line]) ∧
      -- The drafts, and all other files.
      (∀ i < segments.length, ∀ j < segments.length,
        (s.directory.read? (Segment.draftName s₀.stem i)).isSome →
        (s.directory.read? (Segment.draftName s₀.stem j)).isSome → i = j) ∧
      (∀ i < segments.length, last.directory.read? (Segment.draftName s₀.stem i) = none) ∧
      ∀ name, (∀ i < segments.length, name ≠ Segment.fileName s₀.stem i ∧
          name ≠ Segment.draftName s₀.stem i) →
        s.directory.read? name = s₀.directory.read? name ∧
        last.directory.read? name = s₀.directory.read? name := by
  intro segments last
  obtain ⟨hholds, hsame⟩ := holds_run hstem (holds_of_isNew hnew) hpunctual hrun
  change s.Holds s₀.directory (s₀.division turns) at hholds
  rw [← hsame] at hstem ⊢
  have hlast : last.Holds s₀.directory (s₀.division turns).cut := holds_rotate now hstem hholds
  have hstem' : last.stem = s.stem := (frame_rotate s now).2.1
  have hsettled : last.Settled s₀.directory segments := settled_of_holds hlast
  have hopened : s.opened = segments.length := opened_eq hholds
  have hopened' : last.opened = segments.length := by
    rw [opened_eq hlast, Division.cut_cut]
    rfl
  have hnonempty : ∀ lines ∈ segments, lines ≠ [] :=
    Division.isProper_cut (Division.isProper_ofEvents _ _)
  have hflat : segments.flatten = linesOf turns := flatten_segmentsOf s₀ turns
  refine ⟨?_, ?_, ?_, ?_, ?_, ?_, ?_, ?_, ?_, ?_⟩
  · rw [files_of_settled hsettled, hstem']
  · intro lines hlines
    refine join_ne_empty (hnonempty lines hlines) ?_
    intro line hline
    have hmem : line ∈ linesOf turns := hflat ▸ List.mem_flatten_of_mem hlines hline
    obtain ⟨turn, -, hturn⟩ := List.mem_flatMap.mp hmem
    obtain ⟨record, -, rfl⟩ := List.mem_map.mp hturn
    exact line_ne_empty record
  · rw [← hflat, join_flatten]
  · exact (settled_of_holds hholds).finished
  · exact (Division.isPrompt_cut (Division.isPrompt_ofEvents _ _)).closed
  · intro hcalls lines hlines
    have hcut : .cut ∉ turns.flatMap fun turn => turn.call.events := by
      intro hmem
      obtain ⟨turn, hturn, hevent⟩ := List.mem_flatMap.mp hmem
      exact cut_not_mem_events (hcalls turn hturn) hevent
    exact Division.isSaturated_ofEvents hcut lines (Division.dropLast_closed_cut_subset _ hlines)
  · intro hzero
    have hfull : ∀ lines, s₀.policy.isFull lines = true := by
      simp [RotationPolicy.isFull, hzero]
    have hsingle : (s₀.division turns).cut.IsSingle :=
      Division.isSingle_cut (Division.isSingle_ofEvents hfull _)
    have hclosed := hsingle.2
    rwa [Division.lines_cut, lines_division] at hclosed
  · intro i hi j hj hdraft hdraft'
    have hi' := succ_eq_opened_of_draft hholds (hopened ▸ hi) hdraft
    have hj' := succ_eq_opened_of_draft hholds (hopened ▸ hj) hdraft'
    omega
  · intro i hi
    rw [← hstem']
    exact hsettled.drafts i hi
  · intro name hother
    refine ⟨(settled_of_holds hholds).frame name ?_, hsettled.frame name ?_⟩
    · rwa [hopened]
    · rwa [hopened', hstem']

/-- A sink whose meter has counted before, beside a file and the draft of a run that failed. -/
def usedSink : Sink where
  path := "out"
  stem := "s"
  policy := ⟨100, some ⟨10⟩⟩
  directory := ⟨[("notes", "kept"), ("s-00000.jsonl.tmp", "stale")]⟩
  meter := ⟨7, 70, 0⟩

/-- The record of a page without metadata. -/
def pageRecord (url : String) : Record :=
  ⟨url, .error, .empty⟩

/-- Of four records two fill a segment, one is cut off, and one is left. -/
def busyRun : List Turn :=
  [⟨.rotate, 50⟩, ⟨.write (pageRecord "/a"), 60⟩,
    ⟨.writeAll [pageRecord "/longer-than-others", pageRecord "/c"], 69⟩, ⟨.rotate, 90⟩,
    ⟨.write (pageRecord "/d"), 90⟩]

theorem finish_of_run_busyRun :
    ∃ s, usedSink.run busyRun = .ok s ∧
      ((s.finish 99).value.finished.reverse.map fun name =>
        (name, (s.finish 99).value.directory.read? name)) =
        [("s-00000.jsonl", some ((pageRecord "/a").line ++ (pageRecord "/longer-than-others").line)),
          ("s-00001.jsonl", some (pageRecord "/c").line),
          ("s-00002.jsonl", some (pageRecord "/d").line)] ∧
      (s.finish 99).value.directory.read? "notes" = some "kept" := by
  obtain ⟨s, hrun⟩ : ∃ s, usedSink.run busyRun = .ok s := by
    cases hrun : usedSink.run busyRun with
    | ok s => exact ⟨s, rfl⟩
    | error fault =>
      have hok : (usedSink.run busyRun).toOption.isSome := by decide +kernel
      rw [hrun] at hok
      cases hok
  obtain ⟨hfiles, -, -, -, -, -, -, -, -, hframe⟩ :=
    finish_of_run ⟨rfl, rfl, rfl⟩ (by decide) (by decide +kernel) hrun 99
  refine ⟨s, hrun, hfiles.trans ?_, ?_⟩
  · decide +kernel
  · exact (hframe "notes" (by decide +kernel)).2

end Sink

end Recrawl
