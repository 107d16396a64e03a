import Recrawl.Text.Utf8

/-!
Reading ASCII in front of UTF-8 and behind it. A byte below 128 is a character of its own, so that
well-formed text stays what it is when ASCII is put at its ends.
-/

namespace Recrawl.Text

/-- What holds of the characters of all codes below 128. -/
theorem of_ascii {P : Char → Prop} {c : Char} (hc : c.toNat < 0x80)
    (h : ∀ code < 0x80, P (Char.ofNat code)) : P c := by
  have hcode := h c.toNat hc
  rwa [Char.ofNat_toNat] at hcode

theorem toNat_lt_of_isDigit {c : Char} (h : c.isDigit = true) : c.toNat < 0x80 := by
  simp only [Char.isDigit, Bool.and_eq_true, decide_eq_true_eq] at h
  exact Nat.lt_of_le_of_lt h.2 (by decide)

namespace Utf8

/-- The character of an ASCII byte. -/
def asciiChar (byte : UInt8) : Char := Char.ofNat byte.toNat

/-- Well-formed text is read alike behind other text. -/
theorem gather_of_eq_ok {pieces : List Piece} {offset : Nat} {read chars : List Char}
    (h : gather offset read pieces = .ok chars) (offset' : Nat) (before : List Char) :
    gather offset' (read ++ before) pieces = .ok (before.reverse ++ chars) := by
  induction pieces generalizing offset read offset' with
  | nil =>
    obtain rfl : read.reverse = chars := by simpa [gather] using h
    simp [gather]
  | cons piece rest ih =>
    cases piece with
    | char c size => exact ih h _
    | illFormed size => cases h
    | cut size => cases h

/-- What is behind well-formed text is read on from there. -/
theorem gather_append {pieces : List Piece} {offset : Nat} {read chars : List Char}
    (h : gather offset read pieces = .ok chars) :
    ∃ offset', ∀ more, gather offset read (pieces ++ more) = gather offset' chars.reverse more := by
  induction pieces generalizing offset read with
  | nil =>
    obtain rfl : read.reverse = chars := by simpa [gather] using h
    exact ⟨offset, fun more => by simp⟩
  | cons piece rest ih =>
    cases piece with
    | char c size => exact ih h
    | illFormed size => cases h
    | cut size => cases h

theorem gather_cut_ne_ok (pieces : List Piece) (size offset : Nat) (read chars : List Char) :
    gather offset read (pieces ++ [.cut size]) ≠ .ok chars := by
  induction pieces generalizing offset read with
  | nil => simp [gather]
  | cons piece rest ih =>
    cases piece with
    | char c size => exact ih _ _
    | illFormed size => simp [gather]
    | cut size => simp [gather]

theorem run_reported (state : State) (reported : List Piece) (bytes : Bytes) :
    run state reported bytes = reported.reverse ++ run state [] bytes := by
  induction bytes generalizing state reported with
  | nil => rfl
  | cons byte rest ih =>
    simp only [run]
    rw [ih, ih _ ((step state byte).2.reverse ++ [])]
    simp

/-- Well-formed text leaves the decoder between two characters. -/
theorem run_append_of_eq_ok {bytes : Bytes} {state : State} {reported : List Piece} {offset : Nat}
    {read chars : List Char} (h : gather offset read (run state reported bytes) = .ok chars)
    (more : Bytes) :
    run state reported (bytes ++ more) = run state reported bytes ++ run none [] more := by
  induction bytes generalizing state reported with
  | nil =>
    cases state with
    | none => simpa [run, finish] using run_reported none reported more
    | some begun => exact absurd h (gather_cut_ne_ok reported.reverse _ _ _ _)
  | cons byte rest ih => exact ih h

variable {ascii : Bytes}

theorem run_ascii (h : ∀ byte ∈ ascii, byte < 0x80) (reported : List Piece) (rest : Bytes) :
    run none reported (ascii ++ rest) =
      run none ((ascii.map fun byte => .char (asciiChar byte) 1).reverse ++ reported) rest := by
  induction ascii generalizing reported with
  | nil => rfl
  | cons byte more ih =>
    have hbyte : step none byte = (none, [.char (asciiChar byte) 1]) := by
      simp only [step, start, h byte List.mem_cons_self, if_true]
      rfl
    have hmore := ih (fun other hother => h other (List.mem_cons_of_mem _ hother))
      (.char (asciiChar byte) 1 :: reported)
    rw [List.cons_append, run, hbyte]
    simpa using hmore

theorem gather_ascii (offset : Nat) (read : List Char) (ascii : Bytes) (pieces : List Piece) :
    gather offset read ((ascii.map fun byte => .char (asciiChar byte) 1) ++ pieces) =
      gather (offset + ascii.length) ((ascii.map asciiChar).reverse ++ read) pieces := by
  induction ascii generalizing offset read with
  | nil => rfl
  | cons byte more ih =>
    have hlength : offset + (byte :: more).length = offset + 1 + more.length := by
      simp only [List.length_cons]
      omega
    rw [hlength, List.map_cons, List.cons_append, gather, ih]
    simp

/-- ASCII around well-formed text. -/
theorem strict_append {front back bytes : Bytes} {chars : List Char} (h : strict bytes = .ok chars)
    (hfront : ∀ byte ∈ front, byte < 0x80) (hback : ∀ byte ∈ back, byte < 0x80) :
    strict (front ++ bytes ++ back) = .ok (front.map asciiChar ++ chars ++ back.map asciiChar) := by
  have hread : gather front.length (front.map asciiChar).reverse (pieces bytes) =
      .ok (front.map asciiChar ++ chars) := by
    have hbefore := gather_of_eq_ok h front.length (front.map asciiChar).reverse
    rwa [List.nil_append, List.reverse_reverse] at hbefore
  have hall : pieces (front ++ bytes ++ back) =
      (front.map fun byte => .char (asciiChar byte) 1) ++
        (pieces bytes ++ (back.map fun byte => .char (asciiChar byte) 1)) := by
    have hbackPieces : run none [] back = back.map fun byte => .char (asciiChar byte) 1 := by
      have hrun := run_ascii hback [] []
      rw [List.append_nil] at hrun
      rw [hrun]
      simp [run, finish]
    rw [List.append_assoc, pieces, run_ascii hfront, run_reported, run_append_of_eq_ok h,
      hbackPieces]
    simp [pieces]
  obtain ⟨offset, hmore⟩ := gather_append hread
  rw [strict, hall, gather_ascii, List.append_nil, Nat.zero_add, hmore]
  have hend := gather_ascii offset (front.map asciiChar ++ chars).reverse back []
  rw [List.append_nil] at hend
  rw [hend, gather, List.reverse_append, List.reverse_reverse, List.reverse_reverse]

/-- ASCII is encoded in one byte for each character, and read back. -/
theorem strict_flatMap_of_ascii {text : List Char} (h : ∀ c ∈ text, c.toNat < 0x80) :
    strict (text.flatMap String.utf8EncodeChar) = .ok text := by
  have hbyte : ∀ c ∈ text, (UInt8.ofNat c.toNat).toNat = c.toNat := fun c hc =>
    UInt8.toNat_ofNat_of_lt' (Nat.lt_trans (h c hc) (by decide))
  have hencode : text.flatMap String.utf8EncodeChar = text.map fun c => UInt8.ofNat c.toNat := by
    have hsingle : text.map String.utf8EncodeChar = text.map fun c => [UInt8.ofNat c.toNat] :=
      List.map_congr_left fun c hc => if_pos (Nat.le_of_lt_succ (h c hc))
    rw [List.map_eq_flatMap, List.flatMap_def, hsingle, ← List.flatMap_def]
  have hread : (text.map fun c => UInt8.ofNat c.toNat).map asciiChar = text := by
    have hchar : ∀ c ∈ text, (asciiChar ∘ fun c => UInt8.ofNat c.toNat) c = id c := by
      intro c hc
      rw [Function.comp_apply, asciiChar, hbyte c hc, Char.ofNat_toNat, id]
    rw [List.map_map, List.map_congr_left hchar, List.map_id]
  have hsmall : ∀ byte ∈ text.map fun c => UInt8.ofNat c.toNat, byte < 0x80 := by
    intro byte hmem
    obtain ⟨c, hc, rfl⟩ := List.mem_map.mp hmem
    rw [UInt8.lt_iff_toNat_lt, hbyte c hc]
    exact h c hc
  have hstrict := strict_append (show strict [] = .ok [] from rfl) hsmall
    (fun byte hnone => absurd hnone List.not_mem_nil)
  rw [hencode]
  simpa [hread] using hstrict

end Utf8

end Recrawl.Text
