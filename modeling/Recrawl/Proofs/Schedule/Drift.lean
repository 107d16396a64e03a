import Recrawl.Proofs.Schedule.Run

/-!
Fetches in a row that find no change. The interval grows with each of them until it is the upper
bound, but only from ten minutes on: a tenth of less is no whole minute, and a shorter interval
stays as it is.
-/

namespace Recrawl

namespace Comparison

/-- The interval over the unbounded integers after so many visits in a row without a change. -/
def drift (low high before : Int) : Nat → Int
  | 0 => before
  | visits + 1 => same.target low high (drift low high before visits)

variable {low high before : Int}

theorem before_le_drift (low : Int) (hbefore : 0 ≤ before) (hhigh : before ≤ high)
    (visits : Nat) :
    before ≤ drift low high before visits := by
  induction visits with
  | zero => exact Int.le_refl before
  | succ visits ih =>
    simp only [drift, target]
    omega

/-- From ten minutes on the interval is longer after each visit, until it is the upper bound. -/
theorem drift_lt_succ (hten : 10 ≤ before) (hhigh : before ≤ high) {visits : Nat}
    (h : drift low high before visits < high) :
    drift low high before visits < drift low high before (visits + 1) := by
  have hgrown := before_le_drift low (by omega) hhigh visits
  simp only [drift, target]
  omega

/-- A minute is gained with each visit, so that the upper bound is reached. -/
theorem drift_eq_high (hten : 10 ≤ before) (hhigh : before ≤ high) {visits : Nat}
    (h : high - before ≤ visits) : drift low high before visits = high := by
  have hgained (visits : Nat) : drift low high before visits ≤ high ∧
      min (before + visits) high ≤ drift low high before visits := by
    induction visits with
    | zero =>
      simp only [drift]
      omega
    | succ visits ih =>
      have hgrown := before_le_drift low (by omega) hhigh visits
      simp only [drift, target]
      omega
  have := hgained visits
  omega

theorem drift_of_lt_ten (hbefore : 0 ≤ before) (hten : before < 10) (hhigh : before ≤ high)
    (visits : Nat) : drift low high before visits = before := by
  induction visits with
  | zero => rfl
  | succ visits ih =>
    simp only [drift, target, ih]
    omega

theorem target_of_ne_changed {comparison : Comparison} (h : comparison ≠ changed) (minutes : Int) :
    comparison.target low high minutes = same.target low high minutes := by
  cases comparison with
  | changed => exact absurd rfl h
  | same => rfl
  | notModified => rfl
  | unknown => rfl

end Comparison

namespace ScheduleSettings

namespace Turn

/-- A turn is a call. -/
def isCall : Turn → Bool
  | call _ _ => true
  | edit _ _ => false

/-- A call is a fetch that counts as unchanged, and an edit leaves the interval alone. -/
def IsUnchanged (m : Metadata) : Turn → Prop
  | call status _ => status = .fetched ∧ m.IsComparable ∧ ¬ m.SignaturesDiffer
  | edit key _ => key ≠ Key.fetchInterval

end Turn

variable (s : ScheduleSettings)

/-- Every call of a run is a fetch that counts as unchanged where it happens. -/
def IsUnchanged : Metadata → List Turn → Prop
  | _, [] => True
  | m, turn :: rest => turn.IsUnchanged m ∧ IsUnchanged (turn.apply s m) rest

/-- The interval in the metadata is so many minutes, and they are within the bounds. -/
def Stores (m : Metadata) (minutes : Int) : Prop :=
  ∃ word : Int64, word.toInt = minutes ∧ m.values Key.fetchInterval = [toString word.toInt] ∧
    (IntervalBounds.ofSettings s).low.toInt ≤ minutes ∧
    minutes ≤ (IntervalBounds.ofSettings s).high.toInt

/-- An interval that was written is the current one. -/
theorem value_currentInterval {m : Metadata} {word : Int64}
    (h : m.values Key.fetchInterval = [toString word.toInt]) (now : Time.Instant) :
    (s.currentInterval m now).value = word := by
  rw [currentInterval, Metadata.first?_of_values h]
  simp only [readMinutes_toString]
  rfl

theorem toInt_previous_of_stores {m : Metadata} {minutes : Int} (h : s.Stores m minutes)
    (now : Time.Instant) : (s.previous m now).toInt = minutes := by
  obtain ⟨word, hword, hvalues, hlow, hhigh⟩ := h
  rw [toInt_previous, s.value_currentInterval hvalues, hword]
  omega

/-- A fetch that counts as unchanged makes the interval a tenth longer, up to the upper bound. -/
theorem stores_call {m : Metadata} (hcomparable : m.IsComparable) (hsame : ¬ m.SignaturesDiffer)
    (now : Time.Instant) :
    s.Stores (s.next .fetched m now).value.1
      (Comparison.same.target (IntervalBounds.ofSettings s).low.toInt
        (IntervalBounds.ofSettings s).high.toInt (s.previous m now).toInt) := by
  have hknown := (Comparison.ofMetadata_ne_unknown_iff m).mpr hcomparable
  have hchanged : Comparison.ofMetadata m ≠ .changed := fun e =>
    hsame ((Comparison.ofMetadata_eq_changed_iff m).mp e)
  have hfollowing := s.toInt_following (Comparison.ofMetadata m) m now
  rw [Comparison.target_of_ne_changed hchanged] at hfollowing
  have hmem := s.following_mem (Comparison.ofMetadata m) m now
  rw [s.value_next_of_ne_unknown m now rfl hknown]
  refine ⟨s.following (Comparison.ofMetadata m) m now, hfollowing,
    s.values_fetchInterval_adapted _ m now, ?_⟩
  rwa [hfollowing] at hmem

theorem stores_run {low high before : Int} {m : Metadata}
    (hlow : (IntervalBounds.ofSettings s).low.toInt = low)
    (hhigh : (IntervalBounds.ofSettings s).high.toInt = high) (visits : Nat)
    (turns : List Turn) (hunchanged : s.IsUnchanged m turns)
    (h : s.Stores m (Comparison.drift low high before visits)) :
    s.Stores (s.run m turns)
      (Comparison.drift low high before (visits + turns.countP Turn.isCall)) := by
  induction turns generalizing m visits with
  | nil => exact h
  | cons turn rest ih =>
    obtain ⟨hturn, hrest⟩ := hunchanged
    cases turn with
    | call status now =>
      obtain ⟨rfl, hcomparable, hsame⟩ := hturn
      have hstep := s.stores_call hcomparable hsame now
      rw [s.toInt_previous_of_stores h, hlow, hhigh] at hstep
      have hcount : (Turn.call .fetched now :: rest).countP Turn.isCall =
          rest.countP Turn.isCall + 1 := List.countP_cons_of_pos rfl
      rw [hcount, ← Nat.add_assoc, Nat.add_right_comm]
      exact ih (visits + 1) hrest hstep
    | edit key values =>
      have hne : Key.fetchInterval ≠ key := fun e => hturn e.symm
      have hcount : (Turn.edit key values :: rest).countP Turn.isCall =
          rest.countP Turn.isCall := List.countP_cons_of_neg Bool.false_ne_true
      rw [hcount]
      apply ih visits hrest
      simpa [Stores, Turn.apply, hne] using h

/-- The intervals that fetches in a row write while each counts as unchanged, whatever other keys
are edited between them. If the interval in front of them, within the bounds, is ten minutes or
more, each fetch makes it longer until it is the upper bound, which takes no more fetches than there
are minutes to go; so it is for every item if the lower bound is ten minutes or more. A shorter
interval never changes, however far away the upper bound is. -/
theorem interval_of_isUnchanged (m : Metadata) (now : Time.Instant) :
    let low := max s.minInterval.toInt 0
    let high := max s.maxInterval.toInt low
    let before := max low (min (s.currentInterval m now).value.toInt high)
    ∃ minutes : Nat → Int, minutes 0 = before ∧
      (∀ rest, s.IsUnchanged m (.call .fetched now :: rest) →
        (s.run m (.call .fetched now :: rest)).values Key.fetchInterval =
          [toString (minutes (rest.countP Turn.isCall + 1))]) ∧
      (10 ≤ before →
        (∀ visits, minutes visits < high → minutes visits < minutes (visits + 1)) ∧
        ∀ visits : Nat, high - before ≤ visits → minutes visits = high) ∧
      (before < 10 → ∀ visits, minutes visits = before) := by
  intro low high before
  have hlow : (IntervalBounds.ofSettings s).low.toInt = low :=
    IntervalBounds.toInt_low_ofSettings s
  have hhigh : (IntervalBounds.ofSettings s).high.toInt = high :=
    IntervalBounds.toInt_high_ofSettings s
  have hbefore : (s.previous m now).toInt = before := by
    rw [toInt_previous, hlow, hhigh]
  have hmem : 0 ≤ before ∧ before ≤ high := by omega
  refine ⟨Comparison.drift low high before, rfl, ?_, ?_, ?_⟩
  · intro rest hunchanged
    obtain ⟨⟨-, hcomparable, hsame⟩, hrest⟩ := hunchanged
    have hfirst := s.stores_call hcomparable hsame now
    rw [hbefore, hlow, hhigh] at hfirst
    obtain ⟨word, hword, hvalues, -⟩ := s.stores_run hlow hhigh 1 rest hrest hfirst
    rw [hword, Nat.add_comm] at hvalues
    exact hvalues
  · intro hten
    exact ⟨fun visits h => Comparison.drift_lt_succ hten hmem.2 h,
      fun visits h => Comparison.drift_eq_high hten hmem.2 h⟩
  · intro hten visits
    exact Comparison.drift_of_lt_ten hmem.1 hten hmem.2 visits

/-- Five minutes, with six allowed: two unchanged fetches leave five. -/
theorem interval_of_isUnchanged_short :
    let s : ScheduleSettings := { minInterval := 0, maxInterval := 6 }
    let m := Metadata.ofPairs [(Key.signature, "a"), (Key.signatureOld, "a"),
      (Key.fetchInterval, "5")]
    let rest : List Turn := [.edit Key.signatureOld ["a"], .call .fetched epoch]
    s.IsUnchanged m (.call .fetched epoch :: rest) ∧
      (s.run m (.call .fetched epoch :: rest)).values Key.fetchInterval = ["5"] := by
  intro s m rest
  have hfirst : m.IsComparable ∧ ¬ m.SignaturesDiffer := by decide +kernel
  let between := Turn.apply s (Turn.apply s m (.call .fetched epoch)) (.edit Key.signatureOld ["a"])
  have hsecond : between.IsComparable ∧ ¬ between.SignaturesDiffer := by decide +kernel
  have hedit : Key.signatureOld ≠ Key.fetchInterval := by decide
  have hunchanged : s.IsUnchanged m (.call .fetched epoch :: rest) :=
    ⟨⟨rfl, hfirst⟩, hedit, ⟨rfl, hsecond⟩, trivial⟩
  obtain ⟨minutes, -, hrun, -, hshort⟩ := s.interval_of_isUnchanged m epoch
  have hbefore : (s.currentInterval m epoch).value.toInt = 5 := by decide +kernel
  have hvalues := hrun rest hunchanged
  rw [hbefore] at hshort
  rw [hshort (by decide)] at hvalues
  exact ⟨hunchanged, hvalues⟩

end ScheduleSettings

end Recrawl
