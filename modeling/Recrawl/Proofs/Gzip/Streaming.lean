import Recrawl.Gzip.Member

/-!
Decompression is a stream: what it delivers first does not depend on how much is asked for.
Where all content can be decompressed, its beginning is the beginning of the content, at
every limit and also in front of damage.
-/

namespace Recrawl.Gzip

namespace Damage

/-- If the damage does not show in a portion, it does not show in a smaller one either, which is
then full unless it stops at the same place. -/
theorem advance_of_le {damage : Damage} {small large : Nat} (hle : small ≤ large)
    {start bound size reached : Nat} (h : damage.advance start large bound size = some reached) :
    ∃ stop, damage.advance start small bound size = some stop ∧
      (small ≤ stop - start ∨ stop = reached) := by
  induction bound generalizing size with
  | zero => cases h
  | succ bound ih =>
    rw [advance] at h ⊢
    generalize (size / windowSize + 1) * windowSize = windowEnd at h ⊢
    cases hmark : damage.marks.find? (start < ·) with
    | some mark =>
      simp only [hmark, Bool.or_eq_true, decide_eq_true_eq] at h ⊢
      by_cases hsmall : small ≤ min mark windowEnd - start
      · exact ⟨_, if_pos (.inl hsmall), .inl hsmall⟩
      · by_cases hend : mark ≤ windowEnd
        -- The piece of content ends here, whatever the room.
        · rw [if_pos (.inr hend)] at h
          exact ⟨_, if_pos (.inr hend), .inr (Option.some.inj h)⟩
        · rw [if_neg (by omega)] at h ⊢
          exact ih h
    | none =>
      simp only [hmark] at h ⊢
      by_cases hshows : damage.total ≤ windowEnd
      · rw [if_pos hshows] at h
        cases h
      · rw [if_neg hshows] at h ⊢
        by_cases hsmall : small ≤ windowEnd - start
        · exact ⟨_, if_pos hsmall, .inl hsmall⟩
        · rw [if_neg (by omega)] at h ⊢
          exact ih h

namespace Taking

@[simp] theorem taken_makeSpace (state : Taking) : state.makeSpace.taken = state.taken := by
  unfold makeSpace
  split <;> rfl

theorem taken_take {damage : Damage} {state next : Taking} {room count : Nat}
    (h : state.take damage room = some (next, count)) :
    next.taken = state.taken + count ∧ count ≤ room := by
  unfold take at h
  split at h
  · cases h
    exact ⟨rfl, Nat.min_le_left _ _⟩
  · obtain ⟨size, -, hsize⟩ := Option.map_eq_some_iff.mp h
    cases hsize
    exact ⟨rfl, Nat.min_le_left _ _⟩

/-- A smaller portion is full or the same. -/
theorem take_of_le {damage : Damage} {state next : Taking} {small large count : Nat}
    (hle : small ≤ large) (h : state.take damage large = some (next, count)) :
    (∃ full, state.take damage small = some (full, small)) ∨
      state.take damage small = some (next, count) := by
  unfold take at h ⊢
  by_cases hheld : state.taken < state.size
  · rw [if_pos hheld] at h ⊢
    by_cases hsmall : small ≤ state.size - state.taken
    · left
      exact ⟨_, by rw [Nat.min_eq_left hsmall]⟩
    · right
      rw [Nat.min_eq_right (by omega)] at h ⊢
      exact h
  · rw [if_neg hheld] at h ⊢
    obtain ⟨reached, hreached, hnext⟩ := Option.map_eq_some_iff.mp h
    obtain ⟨stop, hstop, hfull | rfl⟩ := advance_of_le hle hreached
    · left
      exact ⟨_, by rw [hstop, Option.map_some, Nat.min_eq_left hfull]⟩
    · rw [hstop, Option.map_some]
      by_cases hsmall : small ≤ stop - state.taken
      · left
        exact ⟨_, by rw [Nat.min_eq_left hsmall]⟩
      · right
        rw [Nat.min_eq_right (by omega)] at hnext ⊢
        exact congrArg some hnext

theorem run_of_limit_le (damage : Damage) {limit : Nat} (bound : Nat) {state : Taking}
    (h : limit ≤ state.taken) : run damage limit bound state = state.taken := by
  cases bound with
  | zero => rfl
  | succ bound => rw [run, if_pos h]

theorem run_le (damage : Damage) (limit bound : Nat) (state : Taking)
    (h : state.taken ≤ limit) : run damage limit bound state ≤ limit := by
  induction bound generalizing state with
  | zero => exact h
  | succ bound ih =>
    rw [run]
    split
    · exact h
    · simp only
      split
      · rw [taken_makeSpace]
        exact h
      · rename_i next count htake
        obtain ⟨htaken, hcount⟩ := taken_take htake
        rw [taken_makeSpace] at htaken hcount
        apply ih
        change next.taken ≤ limit
        omega

/-- Taking that reaches a limit reaches every smaller one. -/
theorem run_of_le {damage : Damage} {limit greater : Nat} (hle : limit ≤ greater) (bound : Nat)
    (state : Taking) (htaken : state.taken ≤ limit)
    (hfull : greater ≤ run damage greater bound state) :
    run damage limit bound state = limit := by
  induction bound generalizing state with
  | zero =>
    change greater ≤ state.taken at hfull
    change state.taken = limit
    omega
  | succ bound ih =>
    by_cases hdone : limit ≤ state.taken
    · rw [run_of_limit_le damage _ hdone]
      omega
    rw [run, if_neg (by omega)] at hfull
    rw [run, if_neg hdone]
    simp only [taken_makeSpace] at hfull ⊢
    generalize min (state.makeSpace.space - state.taken) state.makeSpace.portion = room
      at hfull ⊢
    cases htake : state.makeSpace.take damage (min room (greater - state.taken)) with
    | none =>
      simp only [htake] at hfull
      omega
    | some taken =>
      obtain ⟨next, count⟩ := taken
      simp only [htake] at hfull
      have hportion : min room (limit - state.taken) ≤ min room (greater - state.taken) := by omega
      rcases take_of_le hportion htake with ⟨full, hsmall⟩ | hsame
      -- A full portion either ends at the limit or had no limit to stop at.
      · by_cases hroom : room ≤ limit - state.taken
        · rw [show min room (limit - state.taken) = min room (greater - state.taken) by omega]
          obtain ⟨hnext, hcount⟩ := taken_take htake
          rw [taken_makeSpace] at hnext
          simp only [htake]
          refine ih _ ?_ hfull
          change next.taken ≤ limit
          omega
        · obtain ⟨hnext, -⟩ := taken_take hsmall
          rw [taken_makeSpace] at hnext
          simp only [hsmall]
          rw [run_of_limit_le]
          · change full.taken = limit
            omega
          · change limit ≤ full.taken
            omega
      · obtain ⟨hnext, hcount⟩ := taken_take hsame
        rw [taken_makeSpace] at hnext
        simp only [hsame]
        refine ih _ ?_ hfull
        change next.taken ≤ limit
        omega

end Taking

theorem deliver_le (damage : Damage) (limit : Nat) : damage.deliver limit ≤ limit := by
  unfold deliver
  split
  · omega
  · split
    · omega
    · rename_i state count htake
      obtain ⟨htaken, hcount⟩ := Taking.taken_take htake
      apply Taking.run_le
      change state.taken ≤ limit
      change state.taken = 0 + count at htaken
      omega

/-- If everything up to a limit is delivered, so is everything up to a smaller one. -/
theorem deliver_of_le {damage : Damage} {limit greater : Nat} (hle : limit ≤ greater)
    (hfull : greater ≤ damage.deliver greater) : damage.deliver limit = limit := by
  by_cases hzero : limit = 0
  · subst hzero
    rfl
  unfold deliver at hfull ⊢
  rw [if_neg (by simpa using hzero)]
  rw [if_neg (by simpa using (by omega : greater ≠ 0))] at hfull
  cases htake : Taking.take damage {} (min leastSpace greater) with
  | none =>
    simp only [htake] at hfull
    omega
  | some taken =>
    obtain ⟨state, count⟩ := taken
    simp only [htake] at hfull
    have hgrown {state : Taking} {count : Nat} {room : Nat}
        (h : Taking.take damage {} room = some (state, count)) :
        state.taken = count ∧ count ≤ room := by
      simpa using Taking.taken_take h
    have hportion : min leastSpace limit ≤ min leastSpace greater := by omega
    rcases Taking.take_of_le hportion htake with ⟨full, hsmall⟩ | hsame
    · by_cases hleast : leastSpace ≤ limit
      · rw [show min leastSpace limit = min leastSpace greater by omega, htake]
        obtain ⟨htaken, hcount⟩ := hgrown htake
        refine Taking.run_of_le hle _ _ ?_ hfull
        change state.taken ≤ limit
        omega
      · obtain ⟨htaken, -⟩ := hgrown hsmall
        simp only [hsmall]
        rw [Taking.run_of_limit_le]
        · change full.taken = limit
          omega
        · change limit ≤ full.taken
          omega
    · obtain ⟨htaken, hcount⟩ := hgrown hsame
      simp only [hsame]
      refine Taking.run_of_le hle _ _ ?_ hfull
      change state.taken ≤ limit
      omega

end Damage

/-- Corrupt data delivers what the damage lets through, other content all of its output. -/
theorem deliverable_cases (content : Bytes) (delivery : Delivery) :
    (∃ damage : Damage, delivery.fault = some .corruptData ∧
        ∀ limit, deliverable limit content delivery = damage.deliver limit) ∨
      ∀ limit, deliverable limit content delivery = min limit delivery.output.length := by
  unfold deliverable
  split
  · rename_i data hfault hdata
    exact .inl ⟨_, hfault, fun _ => rfl⟩
  · exact .inr fun _ => rfl

theorem deliverable_le (limit : Nat) (content : Bytes) (delivery : Delivery) :
    deliverable limit content delivery ≤ limit := by
  obtain ⟨damage, -, hcount⟩ | hcount := deliverable_cases content delivery
  · rw [hcount]
    exact damage.deliver_le limit
  · rw [hcount]
    exact Nat.min_le_left _ _

theorem length_output_peek_le (limit : Nat) (content : Bytes) :
    (peek limit content).output.length ≤ limit := by
  unfold peek
  split
  · have hcount := deliverable_le limit content (decompress content)
    simp only [List.length_take]
    omega
  · simp only [List.length_take]
    omega

theorem output_peek_of_not_isGzip {content : Bytes} (h : isGzip content = false) (limit : Nat) :
    (peek limit content).output = content.take limit := by
  simp [peek, h]

theorem decode_of_not_isGzip {content : Bytes} (h : isGzip content = false) :
    decode content = .ok content := by
  simp [decode, h]

theorem decode_of_isGzip {packed content : Bytes} (hpacked : isGzip packed = true)
    (h : decode packed = .ok content) :
    (peek decompressedLimit packed).output = content ∧
      (peek decompressedLimit packed).fault = none := by
  unfold decode at h
  rw [if_pos hpacked] at h
  cases hfault : (peek decompressedLimit packed).fault with
  | none =>
    simp only [hfault] at h
    exact ⟨Except.ok.inj h, rfl⟩
  | some fault =>
    simp only [hfault] at h
    cases h

/-- What is delivered up to a limit that the decompression reaches is cut from all output at that
limit. -/
theorem output_peek_of_le {packed : Bytes} (hpacked : isGzip packed = true) {limit greater : Nat}
    (hle : limit ≤ greater) (h : (peek greater packed).fault = none) :
    (peek limit packed).output = (peek greater packed).output.take limit := by
  unfold peek at h ⊢
  simp only [hpacked, if_true] at h ⊢
  generalize decompress packed = delivery at h ⊢
  obtain ⟨damage, hfault, hcount⟩ | hcount := deliverable_cases packed delivery
  · rw [hcount, hfault] at h
    have hfull : greater ≤ damage.deliver greater := by
      refine Nat.le_of_not_lt fun hless => ?_
      rw [if_pos hless] at h
      cases h
    rw [hcount, hcount, Damage.deliver_of_le hle hfull, List.take_take, Nat.min_eq_left (by omega)]
  · rw [hcount, hcount, List.take_take, List.take_eq_take_iff]
    omega

/-- The beginning of content that can be decompressed is that of the decompressed content, at every
limit up to the most that is decompressed. -/
theorem output_peek_of_decode {packed content : Bytes} (hpacked : isGzip packed = true)
    (h : decode packed = .ok content) {limit : Nat} (hle : limit ≤ decompressedLimit) :
    (peek limit packed).output = content.take limit := by
  obtain ⟨houtput, hfault⟩ := decode_of_isGzip hpacked h
  rw [output_peek_of_le hpacked hle hfault, houtput]

theorem output_peek_eq_take {content decoded : Bytes} (hdecode : decode content = .ok decoded)
    {limit : Nat} (h : isGzip content = false ∨ limit ≤ decompressedLimit) :
    (peek limit content).output = decoded.take limit := by
  cases hgzip : isGzip content with
  | true =>
    rw [hgzip] at h
    exact output_peek_of_decode hgzip hdecode (h.resolve_left (by decide))
  | false =>
    rw [decode_of_not_isGzip hgzip] at hdecode
    cases hdecode
    exact output_peek_of_not_isGzip hgzip limit

/-- At every limit, what is delivered and the decompressed content begin alike: one is cut from the
same output as the other. -/
theorem exists_output_of_decode {content decoded : Bytes} (h : decode content = .ok decoded)
    (limit : Nat) : ∃ output, (peek limit content).output <+: output ∧ decoded <+: output := by
  cases hgzip : isGzip content with
  | true =>
    obtain ⟨houtput, -⟩ := decode_of_isGzip hgzip h
    refine ⟨(decompress content).output, ?_, ?_⟩
    · simp only [peek, hgzip, if_true]
      exact List.take_prefix _ _
    · rw [← houtput]
      simp only [peek, hgzip, if_true]
      exact List.take_prefix _ _
  | false =>
    rw [decode_of_not_isGzip hgzip] at h
    cases h
    rw [output_peek_of_not_isGzip hgzip]
    exact ⟨content, List.take_prefix _ _, List.prefix_refl _⟩

/-- The content, decompressed as far as it goes if it is gzip. -/
def unpacked (content : Bytes) : Bytes :=
  if isGzip content then (decompress content).output else content

/-- What is delivered up to a limit is the beginning of the content. -/
theorem output_peek_prefix (limit : Nat) (content : Bytes) :
    (peek limit content).output <+: (unpacked content).take limit := by
  unfold peek unpacked
  split
  · exact List.take_prefix_take_left (deliverable_le limit content _)
  · exact List.prefix_refl _

/-- All of it up to the limit is delivered, unless the data is corrupt. -/
theorem output_peek_eq_take_unpacked (limit : Nat) (content : Bytes) :
    (peek limit content).output = (unpacked content).take limit ∨
      isGzip content = true ∧ (decompress content).fault = some .corruptData := by
  cases hgzip : isGzip content with
  | false =>
    left
    rw [output_peek_of_not_isGzip hgzip]
    simp [unpacked, hgzip]
  | true =>
    obtain ⟨damage, hfault, -⟩ | hcount := deliverable_cases content (decompress content)
    · exact .inr ⟨rfl, hfault⟩
    · left
      simp [peek, unpacked, hgzip, hcount, List.take_eq_take_iff]

end Recrawl.Gzip
