import Mathlib.Algebra.Group.Nat.Defs
import Recrawl.Proofs.Text.Ascii

/-!
Lossy reading at a byte of ASCII. Such a byte ends whatever was begun in front of it, so that text
that is cut there is read in two parts as in one. It is never told as a part of another
character, and neither is the byte order mark told for other bytes than its own.
-/

namespace Recrawl.Text.Utf8

/-- The character that stands for a piece. -/
def Piece.shown : Piece → Char
  | .char c _ => c
  | .illFormed _ => replacement
  | .cut _ => replacement

/-- What is shown of the bytes behind a state. -/
def shown (state : State) (bytes : Bytes) : List Char :=
  (run state [] bytes).map Piece.shown

theorem lossy_eq_shown (bytes : Bytes) : lossy bytes = shown none bytes := by
  unfold lossy shown pieces
  apply List.map_congr_left
  intro piece _
  cases piece <;> rfl

theorem shown_cons (state : State) (byte : UInt8) (rest : Bytes) :
    shown state (byte :: rest) =
      (step state byte).2.map Piece.shown ++ shown (step state byte).1 rest := by
  have hrun : run state [] (byte :: rest) =
      (step state byte).2 ++ run (step state byte).1 [] rest := by
    change run (step state byte).1 ((step state byte).2.reverse ++ []) rest = _
    rw [run_reported, List.append_nil, List.reverse_reverse]
  rw [shown, hrun, List.map_append]
  rfl

namespace Begun

/-- The least code that may come of it. -/
def least (begun : Begun) : Nat :=
  (begun.code * 64 + (begun.low.toNat - 0x80)) * 64 ^ (begun.owed - 1)

/-- The least code that is too great to come of it. -/
def bound (begun : Begun) : Nat :=
  (begun.code * 64 + (begun.high.toNat - 0x80) + 1) * 64 ^ (begun.owed - 1)

/-- No byte of ASCII continues it, and no code of ASCII comes of it. -/
structure IsSound (begun : Begun) : Prop where
  low_ge : 0x80 ≤ begun.low.toNat
  least_ge : 0x80 ≤ begun.least

/-- What is begun with one more byte. -/
def continued (begun : Begun) (byte : UInt8) : Begun :=
  ⟨begun.owed - 1, 0x80, 0xBF, begun.code * 64 + (byte.toNat - 0x80), begun.seen + 1⟩

variable {begun : Begun} {byte : UInt8}

theorem least_continued (h : 1 < begun.owed) :
    (begun.continued byte).least =
      (begun.code * 64 + (byte.toNat - 0x80)) * 64 ^ (begun.owed - 1) := by
  obtain ⟨more, hmore⟩ : ∃ more, begun.owed - 1 = more + 1 := ⟨begun.owed - 2, by omega⟩
  have hlow : (0x80 : UInt8).toNat - 0x80 = 0 := rfl
  simp only [least, continued, hlow, hmore, Nat.add_sub_cancel, Nat.add_zero, pow_succ',
    Nat.mul_assoc]

theorem bound_continued (h : 1 < begun.owed) :
    (begun.continued byte).bound =
      (begun.code * 64 + (byte.toNat - 0x80) + 1) * 64 ^ (begun.owed - 1) := by
  obtain ⟨more, hmore⟩ : ∃ more, begun.owed - 1 = more + 1 := ⟨begun.owed - 2, by omega⟩
  have hhigh (code : Nat) : code * 64 + ((0xBF : UInt8).toNat - 0x80) + 1 = (code + 1) * 64 := by
    have hbyte : (0xBF : UInt8).toNat - 0x80 = 63 := rfl
    omega
  simp only [bound, continued, hhigh, hmore, Nat.add_sub_cancel, pow_succ', Nat.mul_assoc]

/-- One more byte narrows what may come of it. -/
theorem narrows_continued (h : 1 < begun.owed) (hlow : begun.low ≤ byte)
    (hhigh : byte ≤ begun.high) :
    begun.least ≤ (begun.continued byte).least ∧ (begun.continued byte).bound ≤ begun.bound := by
  have hlow' := UInt8.le_iff_toNat_le.mp hlow
  have hhigh' := UInt8.le_iff_toNat_le.mp hhigh
  rw [least_continued h, bound_continued h]
  constructor
  · apply Nat.mul_le_mul_right
    omega
  · apply Nat.mul_le_mul_right
    omega

theorem IsSound.continued (h : begun.IsSound) (howed : 1 < begun.owed)
    (hlow : begun.low ≤ byte) (hhigh : byte ≤ begun.high) : (begun.continued byte).IsSound := by
  have hleast := h.least_ge
  have hnarrow := (narrows_continued howed hlow hhigh).1
  exact ⟨Nat.le_refl 0x80, by omega⟩

end Begun

variable {begun : Begun} {byte : UInt8}

/-- A byte completes what was begun, continues it, or leaves it ill-formed. -/
theorem step_begun_cases (begun : Begun) (byte : UInt8) :
    (∃ size, step (some begun) byte =
        (none, [.char (Char.ofNat (begun.code * 64 + (byte.toNat - 0x80))) size]) ∧
      begun.owed ≤ 1 ∧ begun.low ≤ byte ∧ byte ≤ begun.high) ∨
    (step (some begun) byte = (some (begun.continued byte), []) ∧
      1 < begun.owed ∧ begun.low ≤ byte ∧ byte ≤ begun.high) ∨
    step (some begun) byte = ((start byte).1, .illFormed begun.seen :: (start byte).2) := by
  unfold step
  simp only [Bool.and_eq_true, decide_eq_true_eq]
  split
  · rename_i hrange
    split
    · rename_i howed
      exact .inl ⟨_, rfl, howed, hrange⟩
    · rename_i howed
      exact .inr (.inl ⟨rfl, by omega, hrange⟩)
  · exact .inr (.inr rfl)

/-- The mark that is not shown. -/
def markCode : Nat := 0xFEFF

/-- A byte by itself is a character of ASCII, is ill-formed, or begins a character. Only one byte
can begin the byte order mark. -/
theorem start_cases (byte : UInt8) :
    (byte < 0x80 ∧ start byte = (none, [.char (asciiChar byte) 1])) ∨
    start byte = (none, [.illFormed 1]) ∨
    ∃ begun, start byte = (some begun, []) ∧ begun.IsSound ∧
      (begun.least ≤ markCode → markCode < begun.bound →
        byte = 0xEF ∧ begun = ⟨2, 0x80, 0xBF, 0x0F, 1⟩) := by
  unfold start
  simp only [Bool.and_eq_true, decide_eq_true_eq, beq_iff_eq, UInt8.le_iff_toNat_le,
    ← UInt8.toNat_inj, UInt8.reduceToNat]
  have hbegins {begun : Begun} (hlow : 0x80 ≤ begun.low.toNat) (hleast : 0x80 ≤ begun.least)
      (hmark : begun.least ≤ markCode → markCode < begun.bound →
        byte.toNat = 0xEF ∧ begun = ⟨2, 0x80, 0xBF, 0x0F, 1⟩) :
      ∃ other, ((some begun, []) : State × List Piece) = (some other, []) ∧ other.IsSound ∧
        (other.least ≤ markCode → markCode < other.bound →
          byte.toNat = 0xEF ∧ other = ⟨2, 0x80, 0xBF, 0x0F, 1⟩) :=
    ⟨begun, rfl, ⟨hlow, hleast⟩, hmark⟩
  split
  · rename_i hascii
    exact .inl ⟨hascii, rfl⟩
  right
  -- Two bytes, three bytes with four kinds of first byte, four bytes with three.
  repeat' split
  all_goals first
    | exact .inl rfl
    | right; apply hbegins <;> simp [Begun.least, Begun.bound, markCode] <;> omega

/-- Whatever is begun is sound. -/
def State.IsSound (state : State) : Prop :=
  ∀ begun ∈ state, begun.IsSound

theorem State.isSound_none : State.IsSound none := by
  intro begun hbegun
  cases hbegun

theorem State.isSound_start (byte : UInt8) : State.IsSound (start byte).1 := by
  rcases start_cases byte with ⟨-, hstart⟩ | hstart | ⟨begun, hstart, hsound, -⟩
  · rw [hstart]
    exact State.isSound_none
  · rw [hstart]
    exact State.isSound_none
  · rw [hstart]
    intro other hother
    cases hother
    exact hsound

theorem State.IsSound.step {state : State} (h : state.IsSound) (byte : UInt8) :
    State.IsSound (step state byte).1 := by
  cases state with
  | none => exact State.isSound_start byte
  | some begun =>
    have hbegun : begun.IsSound := h begun rfl
    rcases step_begun_cases begun byte with ⟨size, hstep, -⟩ | ⟨hstep, howed, hlow, hhigh⟩ | hstep
    · rw [hstep]
      exact State.isSound_none
    · rw [hstep]
      intro other hother
      cases hother
      exact hbegun.continued howed hlow hhigh
    · rw [hstep]
      exact State.isSound_start byte

theorem start_ascii (h : byte < 0x80) : start byte = (none, [.char (asciiChar byte) 1]) := by
  unfold start
  rw [if_pos h]
  rfl

/-- A byte of ASCII ends what was begun as the end of the content does. -/
theorem shown_ascii {state : State} (hstate : state.IsSound) (h : byte < 0x80) (rest : Bytes) :
    shown state (byte :: rest) = shown state [] ++ asciiChar byte :: shown none rest := by
  rw [shown_cons]
  cases state with
  | none =>
    have hstep : step none byte = (none, [.char (asciiChar byte) 1]) := start_ascii h
    rw [hstep]
    rfl
  | some begun =>
    have hlow : 0x80 ≤ begun.low.toNat := (hstate begun rfl).low_ge
    have hbyte : byte.toNat < 0x80 := UInt8.lt_iff_toNat_lt.mp h
    have hout : ¬ begun.low ≤ byte := by
      rw [UInt8.le_iff_toNat_le]
      omega
    rcases step_begun_cases begun byte with ⟨size, -, -, hin, -⟩ | ⟨-, -, hin, -⟩ | hstep
    · exact absurd hin hout
    · exact absurd hin hout
    · rw [hstep, start_ascii h]
      rfl

theorem shown_append_ascii {state : State} (hstate : state.IsSound) (h : byte < 0x80)
    (front rest : Bytes) :
    shown state (front ++ byte :: rest) =
      shown state front ++ asciiChar byte :: shown none rest := by
  induction front generalizing state with
  | nil => exact shown_ascii hstate h rest
  | cons first front ih =>
    rw [List.cons_append, shown_cons, ih (hstate.step first), shown_cons, List.append_assoc]

/-- Text is read alike in front of a byte of ASCII and behind it, whatever is ill-formed. -/
theorem lossy_append_ascii (h : byte < 0x80) (front rest : Bytes) :
    lossy (front ++ byte :: rest) = lossy front ++ asciiChar byte :: lossy rest := by
  simp only [lossy_eq_shown]
  exact shown_append_ascii State.isSound_none h front rest

theorem toNat_ofNat_cases (code : Nat) :
    (Char.ofNat code).toNat = code ∨ (Char.ofNat code).toNat = 0 := by
  by_cases h : code.isValidChar
  · exact .inl (congrArg Char.toNat (dif_pos h))
  · exact .inr (congrArg Char.toNat (dif_neg h))

theorem newline_ne_replacement : '\n' ≠ replacement := by decide

theorem newline_ne_ofNat {code : Nat} (h : 0x80 ≤ code) : '\n' ≠ Char.ofNat code := by
  intro hc
  have hcode : 10 = (Char.ofNat code).toNat := congrArg Char.toNat hc
  rcases toNat_ofNat_cases code with heq | heq
  · omega
  · omega

theorem newline_not_mem_start (h : byte ≠ 0x0A) : '\n' ∉ (start byte).2.map Piece.shown := by
  rcases start_cases byte with ⟨hascii, hstart⟩ | hstart | ⟨begun, hstart, -⟩
  · rw [hstart]
    intro hmem
    have hcode : 10 = (Char.ofNat byte.toNat).toNat :=
      congrArg Char.toNat (List.mem_singleton.mp hmem)
    rcases toNat_ofNat_cases byte.toNat with heq | heq
    · exact h (UInt8.toNat_inj.mp (heq.symm.trans hcode.symm))
    · omega
  · rw [hstart]
    intro hmem
    exact newline_ne_replacement (List.mem_singleton.mp hmem)
  · rw [hstart]
    exact List.not_mem_nil

theorem newline_not_mem_step {state : State} (hstate : state.IsSound) (h : byte ≠ 0x0A) :
    '\n' ∉ (step state byte).2.map Piece.shown := by
  cases state with
  | none => exact newline_not_mem_start h
  | some begun =>
    have hleast := (hstate begun rfl).least_ge
    rcases step_begun_cases begun byte with
      ⟨size, hstep, howed, hlow, -⟩ | ⟨hstep, -⟩ | hstep
    · rw [hstep]
      intro hmem
      have hpower : begun.owed - 1 = 0 := by omega
      have hlow' := UInt8.le_iff_toNat_le.mp hlow
      rw [Begun.least, hpower, pow_zero, Nat.mul_one] at hleast
      exact newline_ne_ofNat (by omega) (List.mem_singleton.mp hmem)
    · rw [hstep]
      exact List.not_mem_nil
    · rw [hstep]
      intro hmem
      rcases List.mem_cons.mp hmem with hfirst | hrest
      · exact newline_ne_replacement hfirst
      · exact newline_not_mem_start h hrest

theorem newline_not_mem_shown {state : State} (hstate : state.IsSound) {bytes : Bytes}
    (h : 0x0A ∉ bytes) : '\n' ∉ shown state bytes := by
  induction bytes generalizing state with
  | nil =>
    cases state with
    | none => exact List.not_mem_nil
    | some begun =>
      intro hmem
      exact newline_ne_replacement (List.mem_singleton.mp hmem)
  | cons byte rest ih =>
    obtain ⟨hbyte, hrest⟩ := not_or.mp (mt List.mem_cons.mpr h)
    rw [shown_cons]
    intro hmem
    rcases List.mem_append.mp hmem with hfirst | hlater
    · exact newline_not_mem_step hstate (Ne.symm hbyte) hfirst
    · exact ih (hstate.step byte) hrest hlater

/-- The lines of the text are those of the bytes, each read by itself. -/
theorem splitOnP_lossy (bytes : Bytes) :
    (lossy bytes).splitOnP (· == '\n') = (bytes.splitOnP (· == 0x0A)).map lossy := by
  by_cases hmem : 0x0A ∈ bytes
  · obtain ⟨front, rest, hsplit⟩ := List.append_of_mem hmem
    have hlength := congrArg List.length hsplit
    simp only [List.length_append, List.length_cons] at hlength
    rw [hsplit, lossy_append_ascii (by decide), List.splitOnP_append_cons _ _ rfl,
      List.splitOnP_append_cons _ _ rfl, splitOnP_lossy front, splitOnP_lossy rest,
      List.map_append]
  · have hline : ∀ byte ∈ bytes, (byte == 0x0A) = false := by
      intro byte hbyte
      exact beq_eq_false_iff_ne.mpr fun heq => hmem (heq ▸ hbyte)
    have hchars : ∀ c ∈ lossy bytes, (c == '\n') = false := by
      intro c hc
      rw [lossy_eq_shown] at hc
      exact beq_eq_false_iff_ne.mpr fun heq =>
        newline_not_mem_shown State.isSound_none hmem (heq ▸ hc)
    rw [List.splitOnP_eq_singleton hline, List.splitOnP_eq_singleton hchars, List.map_singleton]
termination_by bytes.length

/-- What is begun shows the mark only if the mark may come of it and the next byte continues it. -/
theorem exists_of_mark {begun : Begun} {bytes : Bytes} {c : Char}
    (h : (shown (some begun) bytes).head? = some c) (hc : c.toNat = markCode) :
    begun.least ≤ markCode ∧ markCode < begun.bound ∧
      ∃ byte rest, bytes = byte :: rest ∧ begun.low ≤ byte ∧ byte ≤ begun.high ∧
        (begun.owed ≤ 1 → begun.code * 64 + (byte.toNat - 0x80) = markCode) ∧
        (1 < begun.owed → (shown (some (begun.continued byte)) rest).head? = some c) := by
  have hreplacement : c ≠ replacement := by
    rintro rfl
    exact absurd hc (by decide)
  induction bytes generalizing begun with
  | nil => exact absurd (Option.some.inj h).symm hreplacement
  | cons byte rest ih =>
    rw [shown_cons] at h
    rcases step_begun_cases begun byte with
      ⟨size, hstep, howed, hlow, hhigh⟩ | ⟨hstep, howed, hlow, hhigh⟩ | hstep
    · rw [hstep] at h
      have hcode : (Char.ofNat (begun.code * 64 + (byte.toNat - 0x80))).toNat = markCode := by
        rw [← hc]
        exact congrArg Char.toNat (Option.some.inj h)
      have hmark : begun.code * 64 + (byte.toNat - 0x80) = markCode := by
        rcases toNat_ofNat_cases (begun.code * 64 + (byte.toNat - 0x80)) with heq | heq
        · exact heq.symm.trans hcode
        · rw [heq] at hcode
          exact absurd hcode (by decide)
      have hpower : begun.owed - 1 = 0 := by omega
      have hlow' := UInt8.le_iff_toNat_le.mp hlow
      have hhigh' := UInt8.le_iff_toNat_le.mp hhigh
      refine ⟨?_, ?_, byte, rest, rfl, hlow, hhigh, fun _ => hmark, fun hmore => ?_⟩
      · rw [Begun.least, hpower, pow_zero, Nat.mul_one]
        omega
      · rw [Begun.bound, hpower, pow_zero, Nat.mul_one]
        omega
      · omega
    · rw [hstep] at h
      obtain ⟨hleast, hbound, -⟩ := ih h
      obtain ⟨hleast', hbound'⟩ := Begun.narrows_continued howed hlow hhigh
      refine ⟨by omega, by omega, byte, rest, rfl, hlow, hhigh, fun hlast => ?_, fun _ => h⟩
      omega
    · rw [hstep] at h
      exact absurd (Option.some.inj h).symm hreplacement

/-- Only the three bytes of the mark are shown as the mark. -/
theorem eq_mark_of_head? {bytes : Bytes} {c : Char} (h : (lossy bytes).head? = some c)
    (hc : c.toNat = markCode) : ∃ rest, bytes = 0xEF :: 0xBB :: 0xBF :: rest := by
  rw [lossy_eq_shown] at h
  cases bytes with
  | nil => cases h
  | cons first bytes =>
    rw [shown_cons, step] at h
    rcases start_cases first with ⟨-, hstart⟩ | hstart | ⟨begun, hstart, -, hmark⟩
    · rw [hstart] at h
      have hcode : (Char.ofNat first.toNat).toNat = 0xFEFF :=
        (congrArg Char.toNat (Option.some.inj h)).trans hc
      have hfirst := first.toNat_lt
      rcases toNat_ofNat_cases first.toNat with heq | heq
      · omega
      · omega
    · rw [hstart] at h
      rw [← Option.some.inj h] at hc
      exact absurd hc (by decide)
    · rw [hstart] at h
      obtain ⟨hleast, hbound, second, bytes, rfl, -, -, -, hnext⟩ := exists_of_mark h hc
      obtain ⟨rfl, rfl⟩ := hmark hleast hbound
      obtain ⟨hleast, hbound, third, rest, rfl, hlow, -, hlast, -⟩ :=
        exists_of_mark (hnext (by decide)) hc
      have hthird := hlast (Nat.le_refl 1)
      have hlow' : 0x80 ≤ third.toNat := UInt8.le_iff_toNat_le.mp hlow
      simp only [Begun.least, Begun.bound, Begun.continued, markCode, UInt8.reduceToNat]
        at hleast hbound hthird
      have hsecond : second = 0xBB := by
        apply UInt8.toNat_inj.mp
        change second.toNat = 0xBB
        omega
      have hlastByte : third = 0xBF := by
        apply UInt8.toNat_inj.mp
        change third.toNat = 0xBF
        omega
      exact ⟨rest, by rw [hsecond, hlastByte]⟩

theorem lossy_mark (rest : Bytes) :
    lossy (0xEF :: 0xBB :: 0xBF :: rest) = Char.ofNat markCode :: lossy rest := by
  have hfirst : step none 0xEF = (some ⟨2, 0x80, 0xBF, 0x0F, 1⟩, []) := rfl
  have hsecond : step (some ⟨2, 0x80, 0xBF, 0x0F, 1⟩) 0xBB =
      (some ⟨1, 0x80, 0xBF, 0x3FB, 2⟩, []) := rfl
  have hthird : step (some ⟨1, 0x80, 0xBF, 0x3FB, 2⟩) 0xBF =
      (none, [.char (Char.ofNat markCode) 3]) := rfl
  rw [lossy_eq_shown, shown_cons, hfirst, shown_cons, hsecond, shown_cons, hthird, lossy_eq_shown]
  rfl

end Recrawl.Text.Utf8
