import Recrawl.Segment.Rotation

/-!
What a meter counts and answers between two resets. Marks at which the interval has passed are
answered and not counted; of the others every byte by which the writer advances is counted once,
and nothing where it steps back. No call in front of a reset matters behind it.
-/

namespace Recrawl

/-- The interval has passed since a segment was opened. -/
def RotationPolicy.HasElapsed (policy : RotationPolicy) (opened now : Nat) : Prop :=
  ∃ interval ∈ policy.interval, interval.nanos ≤ now - opened

instance (policy : RotationPolicy) (opened now : Nat) : Decidable (policy.HasElapsed opened now) :=
  match h : policy.interval with
  | none => .isFalse (by simp [RotationPolicy.HasElapsed, h])
  | some interval =>
    decidable_of_iff (interval.nanos ≤ now - opened) (by simp [RotationPolicy.HasElapsed, h])

namespace SegmentMeter

/-- Where the writer is, and when it tells so. -/
structure Mark where
  offset : Nat
  now : Nat

inductive Call where
  | mark (mark : Mark)
  | reset (now : Nat)

def call (policy : RotationPolicy) (meter : SegmentMeter) : Call → SegmentMeter
  | .mark mark => (meter.mark policy mark.offset mark.now).value.1
  | .reset now => .start now

def after (policy : RotationPolicy) (meter : SegmentMeter) (calls : List Call) : SegmentMeter :=
  calls.foldl (call policy) meter

def answer (policy : RotationPolicy) (meter : SegmentMeter) (mark : Mark) : Bool :=
  (meter.mark policy mark.offset mark.now).value.2

/-- The offsets of the marks that come before the interval has passed. -/
def counted (policy : RotationPolicy) (opened : Nat) (marks : List Mark) : List Nat :=
  (marks.filter fun mark => ¬ policy.HasElapsed opened mark.now).map Mark.offset

/-- The sum of all advances from one offset to the next. A step back is none. -/
def climb (start : Nat) : List Nat → Nat
  | [] => 0
  | offset :: rest => (offset - start) + climb offset rest

theorem climb_append (start : Nat) (offsets more : List Nat) :
    climb start (offsets ++ more) = climb start offsets + climb (offsets.getLastD start) more := by
  induction offsets generalizing start with
  | nil => simp [climb]
  | cons offset rest ih =>
    rw [List.cons_append, climb, climb, ih, List.getLastD_cons]
    omega

theorem climb_snoc (start : Nat) (offsets : List Nat) (offset : Nat) :
    climb start (offsets ++ [offset]) =
      climb start offsets + (offset - offsets.getLastD start) := by
  rw [climb_append, climb, climb, Nat.add_zero]

/-- Without a step back the advances add up to the whole way. -/
theorem climb_of_pairwise {start : Nat} {offsets : List Nat}
    (h : (start :: offsets).Pairwise (· ≤ ·)) :
    climb start offsets + start = offsets.getLastD start := by
  induction offsets generalizing start with
  | nil => simp [climb]
  | cons offset rest ih =>
    obtain ⟨hstart, hrest⟩ := List.pairwise_cons.mp h
    have hfirst : start ≤ offset := hstart offset List.mem_cons_self
    have hway := ih hrest
    rw [climb, List.getLastD_cons]
    omega

theorem climb_zero_of_pairwise {offsets : List Nat} (h : offsets.Pairwise (· ≤ ·)) :
    climb 0 offsets = offsets.getLastD 0 := by
  have hzero : (0 :: offsets).Pairwise (· ≤ ·) := by
    apply List.pairwise_cons.mpr
    exact ⟨fun offset _ => Nat.zero_le offset, h⟩
  exact climb_of_pairwise hzero

variable {policy : RotationPolicy} {opened : Nat} {mark : Mark} {marks more : List Mark}

theorem counted_append (policy : RotationPolicy) (opened : Nat) (marks more : List Mark) :
    counted policy opened (marks ++ more) =
      counted policy opened marks ++ counted policy opened more := by
  simp only [counted, List.filter_append, List.map_append]

theorem counted_of_hasElapsed (h : policy.HasElapsed opened mark.now) :
    counted policy opened [mark] = [] := by
  simp [counted, h]

theorem counted_of_not_hasElapsed (h : ¬ policy.HasElapsed opened mark.now) :
    counted policy opened [mark] = [mark.offset] := by
  simp [counted, h]

theorem counted_sublist (h : marks.Sublist more) :
    (counted policy opened marks).Sublist (counted policy opened more) :=
  (h.filter _).map _

/-- The meter of a segment that was opened then, once these offsets are counted. -/
def metered (opened : Nat) (offsets : List Nat) : SegmentMeter :=
  ⟨offsets.getLastD 0, climb 0 offsets, opened⟩

theorem isSome_elapsed?_iff {meter : SegmentMeter} {now : Nat} :
    (meter.elapsed? policy now).isSome = true ↔ policy.HasElapsed meter.opened now := by
  unfold elapsed? RotationPolicy.HasElapsed
  cases policy.interval with
  | none => simp
  | some interval => simp [Option.filter]

theorem advance_metered (offsets : List Nat) (offset : Nat) :
    (metered opened offsets).advance offset = metered opened (offsets ++ [offset]) := by
  unfold advance metered
  rw [climb_snoc]
  simp

/-- A mark behind the interval leaves the meter as it is; any other is counted. -/
theorem call_mark (offsets : List Nat) :
    call policy (metered opened offsets) (.mark mark) =
      metered opened (offsets ++ counted policy opened [mark]) := by
  change ((metered opened offsets).mark policy mark.offset mark.now).value.1 = _
  rw [value_mark]
  by_cases helapsed : policy.HasElapsed opened mark.now
  · rw [if_pos (isSome_elapsed?_iff.mpr helapsed), counted_of_hasElapsed helapsed, List.append_nil]
  · rw [if_neg (fun h => helapsed (isSome_elapsed?_iff.mp h)), counted_of_not_hasElapsed helapsed]
    exact advance_metered offsets mark.offset

theorem answer_of_hasElapsed (h : policy.HasElapsed opened mark.now) (offsets : List Nat) :
    answer policy (metered opened offsets) mark = true := by
  unfold answer
  rw [value_mark, if_pos (isSome_elapsed?_iff.mpr h)]

theorem answer_of_not_hasElapsed (h : ¬ policy.HasElapsed opened mark.now) (offsets : List Nat) :
    answer policy (metered opened offsets) mark = true ↔
      policy.maxBytes ≤ climb 0 (offsets ++ [mark.offset]) := by
  unfold answer
  rw [value_mark, if_neg (fun helapsed => h (isSome_elapsed?_iff.mp helapsed)), advance_metered]
  exact decide_eq_true_iff

theorem after_append (meter : SegmentMeter) (front back : List Call) :
    after policy meter (front ++ back) = after policy (after policy meter front) back :=
  List.foldl_append

theorem after_marks (offsets : List Nat) (marks : List Mark) :
    after policy (metered opened offsets) (marks.map .mark) =
      metered opened (offsets ++ counted policy opened marks) := by
  induction marks generalizing offsets with
  | nil => exact congrArg (metered opened) (List.append_nil offsets).symm
  | cons mark rest ih =>
    have hfirst : counted policy opened (mark :: rest) =
        counted policy opened [mark] ++ counted policy opened rest :=
      counted_append policy opened [mark] rest
    have hstep := ih (offsets ++ counted policy opened [mark])
    rw [← call_mark, List.append_assoc, ← hfirst] at hstep
    exact hstep

/-- The marks behind a reset are all that the meter knows of. -/
theorem after_reset (meter : SegmentMeter) (before : List Call) (calls : List Call) :
    after policy meter (before ++ .reset opened :: calls) =
      after policy (metered opened []) calls := by
  rw [after_append]
  rfl

/-- The meter of a segment that was opened then, behind these marks. -/
def behind (policy : RotationPolicy) (opened : Nat) (marks : List Mark) : SegmentMeter :=
  metered opened (counted policy opened marks)

theorem after_reset_marks (meter : SegmentMeter) (before : List Call) (marks : List Mark) :
    after policy meter (before ++ .reset opened :: marks.map .mark) =
      behind policy opened marks := by
  rw [after_reset, after_marks, List.nil_append]
  rfl

theorem after_behind (marks more : List Mark) :
    after policy (behind policy opened marks) (more.map .mark) =
      behind policy opened (marks ++ more) := by
  unfold behind
  rw [after_marks, counted_append]

theorem behind_of_hasElapsed (h : policy.HasElapsed opened mark.now) (marks : List Mark) :
    behind policy opened (marks ++ [mark]) = behind policy opened marks := by
  unfold behind
  rw [counted_append, counted_of_hasElapsed h, List.append_nil]

theorem answer_behind_iff (h : ¬ policy.HasElapsed opened mark.now) (marks : List Mark) :
    answer policy (behind policy opened marks) mark = true ↔
      policy.maxBytes ≤ climb 0 (counted policy opened (marks ++ [mark])) := by
  unfold behind
  rw [answer_of_not_hasElapsed h, counted_append, counted_of_not_hasElapsed h]

/-- Once a mark is answered, every later one is. -/
theorem answer_behind_mono {later : Mark} (hclock : mark.now ≤ later.now)
    (h : answer policy (behind policy opened marks) mark = true) (more : List Mark) :
    answer policy (behind policy opened (marks ++ mark :: more)) later = true := by
  by_cases hlater : policy.HasElapsed opened later.now
  · exact answer_of_hasElapsed hlater _
  · -- The interval had not passed at the earlier mark, so that this one was answered by the sum.
    have hmark : ¬ policy.HasElapsed opened mark.now := by
      rintro ⟨interval, hinterval, hpassed⟩
      exact hlater ⟨interval, hinterval, by omega⟩
    have hfull := (answer_behind_iff hmark marks).mp h
    have hsplit : marks ++ mark :: more ++ [later] = (marks ++ [mark]) ++ (more ++ [later]) := by
      simp
    apply (answer_behind_iff hlater _).mpr
    rw [hsplit, counted_append, climb_append]
    omega

theorem getLastD_counted (h : ¬ policy.HasElapsed opened mark.now) :
    (counted policy opened (marks ++ [mark])).getLastD 0 = mark.offset := by
  rw [counted_append, counted_of_not_hasElapsed h]
  simp

/-- If the writer never steps back, a counted mark sets the meter to its offset. -/
theorem behind_of_pairwise (hmark : ¬ policy.HasElapsed opened mark.now)
    (h : (counted policy opened (marks ++ [mark])).Pairwise (· ≤ ·)) :
    behind policy opened (marks ++ [mark]) = ⟨mark.offset, mark.offset, opened⟩ := by
  unfold behind metered
  rw [climb_zero_of_pairwise h, getLastD_counted hmark]

theorem answer_behind_of_pairwise (hmark : ¬ policy.HasElapsed opened mark.now)
    (h : (counted policy opened (marks ++ [mark])).Pairwise (· ≤ ·)) :
    answer policy (behind policy opened marks) mark = true ↔ policy.maxBytes ≤ mark.offset := by
  rw [answer_behind_iff hmark, climb_zero_of_pairwise h, getLastD_counted hmark]

/-- Marks in front of a counted one may be left out. -/
theorem behind_of_sublist {kept early : List Mark} {last : Mark} (hkept : kept.Sublist early)
    (hlast : ¬ policy.HasElapsed opened last.now)
    (h : (counted policy opened (early ++ [last])).Pairwise (· ≤ ·)) :
    answer policy (behind policy opened kept) last =
        answer policy (behind policy opened early) last ∧
      ∀ late, behind policy opened (kept ++ last :: late) =
        behind policy opened (early ++ last :: late) := by
  have h' : (counted policy opened (kept ++ [last])).Pairwise (· ≤ ·) :=
    h.sublist (counted_sublist (hkept.append_right [last]))
  constructor
  · apply Bool.eq_iff_iff.mpr
    rw [answer_behind_of_pairwise hlast h', answer_behind_of_pairwise hlast h]
  · intro late
    rw [List.append_cons kept, List.append_cons early, ← after_behind (kept ++ [last]),
      ← after_behind (early ++ [last]), behind_of_pairwise hlast h', behind_of_pairwise hlast h]

/-- Between a reset and the next one the meter has counted what the writer advanced over the marks
in front of the end of the interval, and a mark is answered by that sum, or by the interval once it
has passed. -/
theorem counts_since_reset (policy : RotationPolicy) (meter : SegmentMeter) (before : List Call)
    (opened : Nat) :
    let since (marks : List Mark) :=
      after policy meter (before ++ .reset opened :: marks.map .mark)
    (∀ marks, (since marks).written = climb 0 (counted policy opened marks)) ∧
      (∀ marks mark, ¬ policy.HasElapsed opened mark.now →
        (answer policy (since marks) mark = true ↔
          policy.maxBytes ≤ climb 0 (counted policy opened (marks ++ [mark])))) ∧
      (∀ marks mark, policy.HasElapsed opened mark.now →
        answer policy (since marks) mark = true ∧ since (marks ++ [mark]) = since marks) ∧
      -- Offsets that do not fall.
      (∀ marks, (counted policy opened marks).Pairwise (· ≤ ·) →
        (since marks).written = (counted policy opened marks).getLastD 0) ∧
      (∀ kept early last, kept.Sublist early → ¬ policy.HasElapsed opened last.now →
        (counted policy opened (early ++ [last])).Pairwise (· ≤ ·) →
        answer policy (since kept) last = answer policy (since early) last ∧
          ∀ late, since (kept ++ last :: late) = since (early ++ last :: late)) ∧
      -- Answers stay.
      (∀ marks mark more later, mark.now ≤ later.now → answer policy (since marks) mark = true →
        answer policy (since (marks ++ mark :: more)) later = true) ∧
      ∀ other before' calls, after policy other (before' ++ .reset opened :: calls) =
        after policy meter (before ++ .reset opened :: calls) := by
  intro since
  have hsince : since = behind policy opened := funext (after_reset_marks meter before)
  rw [hsince]
  refine ⟨?_, ?_, ?_, ?_, ?_, ?_, ?_⟩
  · intro marks
    rfl
  · intro marks mark hmark
    exact answer_behind_iff hmark marks
  · intro marks mark hmark
    exact ⟨answer_of_hasElapsed hmark _, behind_of_hasElapsed hmark marks⟩
  · intro marks hpairwise
    exact climb_zero_of_pairwise hpairwise
  · intro kept early last hkept hlast hpairwise
    exact behind_of_sublist hkept hlast hpairwise
  · intro marks mark more later hclock htrue
    exact answer_behind_mono hclock htrue more
  · intro other before' calls
    rw [after_reset, after_reset]

/-- Two advances with a step back between them. -/
def unevenMarks : List Mark := [⟨30, 1⟩, ⟨10, 2⟩, ⟨90, 3⟩]

/-- A meter that was used before counts 110 bytes of the marks, and none of a mark behind the
interval. Without the step back the first mark may be left out. -/
theorem counts_since_reset_unevenMarks :
    let policy : RotationPolicy := ⟨100, some ⟨60⟩⟩
    let since (marks : List Mark) :=
      after policy ⟨7, 700, 2⟩ (.mark ⟨9, 5⟩ :: .reset 0 :: marks.map .mark)
    (since unevenMarks).written = 110 ∧ answer policy (since unevenMarks) ⟨40, 4⟩ = true ∧
      answer policy (since (unevenMarks ++ [⟨40, 4⟩, ⟨50, 5⟩])) ⟨60, 6⟩ = true ∧
      answer policy (since unevenMarks) ⟨500, 60⟩ = true ∧
      since (unevenMarks ++ [⟨500, 60⟩]) = since unevenMarks ∧
      (since [⟨30, 1⟩, ⟨90, 3⟩]).written = 90 ∧
      since [⟨90, 3⟩, ⟨500, 60⟩] = since [⟨30, 1⟩, ⟨90, 3⟩, ⟨500, 60⟩] := by
  intro policy since
  obtain ⟨hwritten, hanswer, helapsed, hlast, hkept, hstays, -⟩ :=
    counts_since_reset policy ⟨7, 700, 2⟩ [.mark ⟨9, 5⟩] 0
  have hfull : answer policy (since unevenMarks) ⟨40, 4⟩ = true :=
    (hanswer unevenMarks ⟨40, 4⟩ (by decide)).mpr (by decide)
  obtain ⟨htrue, hsame⟩ := helapsed unevenMarks ⟨500, 60⟩ (by decide)
  refine ⟨(hwritten unevenMarks).trans (by decide), hfull, ?_, htrue, hsame, ?_, ?_⟩
  · exact hstays unevenMarks ⟨40, 4⟩ [⟨50, 5⟩] ⟨60, 6⟩ (by decide) hfull
  · exact (hlast [⟨30, 1⟩, ⟨90, 3⟩] (by decide)).trans (by decide)
  · exact (hkept [] [⟨30, 1⟩] ⟨90, 3⟩ (by simp) (by decide) (by decide)).2 [⟨500, 60⟩]

end SegmentMeter

end Recrawl
