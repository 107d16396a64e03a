import Recrawl.Json.Reader
import Recrawl.Json.Writer
import Recrawl.Proofs.Except

/-!
A string is read back as it was written, whatever characters are in it, and no newline stands in
what is written.
-/

namespace Recrawl.Json

theorem skipBlanks_cons {c : Char} (h : isBlank c = false) (rest : List Char) :
    skipBlanks (c :: rest) = c :: rest := by
  simp [skipBlanks, h]

theorem skipBlanks_skipBlanks (chars : List Char) :
    skipBlanks (skipBlanks chars) = skipBlanks chars := by
  induction chars with
  | nil => rfl
  | cons c rest ih =>
    cases hblank : isBlank c with
    | true => simpa [skipBlanks, hblank] using ih
    | false => rw [skipBlanks_cons hblank, skipBlanks_cons hblank]

theorem digitValue?_hexDigit {n : Nat} (h : n < 16) :
    Text.digitValue? 16 (Bytes.hexDigit n) = some n := by
  have hall : ∀ n < 16, Text.digitValue? 16 (Bytes.hexDigit n) = some n := by decide
  exact hall n h

/-- Four digits are read as the code of a control character. -/
theorem unitEscape_control {c : Char} (h : c.toNat < 0x20) (rest : List Char) :
    unitEscape false ('0' :: '0' :: Bytes.hexDigit (c.toNat / 16) ::
      Bytes.hexDigit (c.toNat % 16) :: rest) = .ok (c, rest) := by
  have hhigh := digitValue?_hexDigit (show c.toNat / 16 < 16 by omega)
  have hlow := digitValue?_hexDigit (show c.toNat % 16 < 16 by omega)
  have hzero : Text.digitValue? 16 '0' = some 0 := by decide
  have hcode : c.toNat / 16 * 16 + c.toNat % 16 = c.toNat := by omega
  have hplain : isLowSurrogate c.toNat = false ∧ isHighSurrogate c.toNat = false := by
    simp only [isLowSurrogate, isHighSurrogate, Bool.and_eq_false_iff, decide_eq_false_iff_not]
    omega
  have hunit : hexUnit ('0' :: '0' :: Bytes.hexDigit (c.toNat / 16) ::
      Bytes.hexDigit (c.toNat % 16) :: rest) = .ok (c.toNat, rest) := by
    simp [hexUnit, hzero, hhigh, hlow, hcode]
  unfold unitEscape
  rw [hunit]
  simp [ok_bind, hplain, Char.ofNat_toNat]

/-- A character is escaped by a letter or by its code, or stands for itself. -/
theorem escape_cases (c : Char) :
    (∃ e, escape c = ['\\', e] ∧ e ≠ 'u' ∧ e ≠ '\n' ∧ letterEscape? e = some c) ∨
      (c.toNat < 0x20 ∧ escape c = ['\\', 'u', '0', '0', Bytes.hexDigit (c.toNat / 16),
        Bytes.hexDigit (c.toNat % 16)]) ∨
      (¬ c.toNat < 0x20 ∧ c ≠ '\x22' ∧ c ≠ '\\' ∧ escape c = [c]) := by
  by_cases hletter : c ∈ ['\x22', '\\', '\x08', '\x0c', '\n', '\r', '\t']
  · left
    simp only [List.mem_cons, List.not_mem_nil, or_false] at hletter
    rcases hletter with rfl | rfl | rfl | rfl | rfl | rfl | rfl
    all_goals exact ⟨_, rfl, by decide, by decide, by decide⟩
  · right
    simp only [List.mem_cons, List.not_mem_nil, or_false, not_or] at hletter
    by_cases hcontrol : c.toNat < 0x20
    · exact .inl ⟨hcontrol, by simp [escape, hletter, hcontrol]⟩
    · exact .inr ⟨hcontrol, hletter.1, hletter.2.1, by simp [escape, hletter, hcontrol]⟩

/-- An escaped character is read as itself. -/
theorem stringBody_escape (bound : Nat) (read : List Char) (c : Char) (rest : List Char) :
    stringBody false (bound + 1) read (escape c ++ rest) =
      stringBody false bound (c :: read) rest := by
  obtain ⟨e, hescape, hunit, -, hletter⟩ | ⟨hcontrol, hescape⟩ |
    ⟨hcontrol, hquote, hslash, hescape⟩ := escape_cases c
  · rw [hescape]
    simp [stringBody, hunit, hletter]
  · rw [hescape]
    simp [stringBody, unitEscape_control hcontrol, ok_bind]
  · rw [hescape]
    simp only [List.cons_append, List.nil_append, stringBody.eq_def false (bound + 1)]
    simp [hquote, hslash, hcontrol]

theorem one_le_length_escape (c : Char) : 1 ≤ (escape c).length := by
  obtain ⟨e, hescape, -⟩ | ⟨-, hescape⟩ | ⟨-, -, -, hescape⟩ := escape_cases c
  all_goals simp [hescape]

theorem newline_not_mem_escape (c : Char) : '\n' ∉ escape c := by
  have hdigit (n : Nat) (h : n < 16) : '\n' ≠ Bytes.hexDigit n := by
    intro heq
    have hvalue := digitValue?_hexDigit h
    rw [← heq] at hvalue
    exact absurd hvalue (by simp [Text.digitValue?])
  obtain ⟨e, hescape, -, hnewline, -⟩ | ⟨hcontrol, hescape⟩ | ⟨hcontrol, -, -, hescape⟩ :=
    escape_cases c
  · simp [hescape, hnewline.symm]
  · simp [hescape, hdigit (c.toNat / 16) (by omega), hdigit (c.toNat % 16) (by omega)]
  · have hne : '\n' ≠ c := by
      rintro rfl
      exact hcontrol (by decide)
    simp [hescape, hne]

theorem stringBody_flatMap_escape {bound : Nat} {chars : List Char} (h : chars.length < bound)
    (read rest : List Char) :
    stringBody false bound read (chars.flatMap escape ++ '\x22' :: rest) =
      .ok (read.reverse ++ chars, rest) := by
  induction chars generalizing bound read with
  | nil =>
    obtain ⟨bound, rfl⟩ : ∃ n, bound = n + 1 := ⟨bound - 1, by simp at h; omega⟩
    simp [stringBody]
  | cons c chars ih =>
    obtain ⟨bound, rfl⟩ : ∃ n, bound = n + 1 := ⟨bound - 1, by simp at h; omega⟩
    have hrest : chars.length < bound := by simpa using h
    rw [List.flatMap_cons, List.append_assoc, stringBody_escape, ih hrest]
    simp

theorem length_le_length_flatMap_escape (chars : List Char) :
    chars.length ≤ (chars.flatMap escape).length := by
  induction chars with
  | nil => simp
  | cons c chars ih =>
    have hone := one_le_length_escape c
    simp only [List.flatMap_cons, List.length_append, List.length_cons]
    omega

theorem restOfString_flatMap_escape (s : String) (rest : List Char) :
    restOfString false (s.toList.flatMap escape ++ '\x22' :: rest) = .ok (s, rest) := by
  have hlength := length_le_length_flatMap_escape s.toList
  have hbound : s.toList.length <
      (s.toList.flatMap escape ++ '\x22' :: rest).length + 1 := by
    simp only [List.length_append, List.length_cons]
    omega
  unfold restOfString
  rw [stringBody_flatMap_escape hbound]
  simp [ok_bind]

theorem writeString_append (s : String) (rest : List Char) :
    writeString s ++ rest = '\x22' :: (s.toList.flatMap escape ++ '\x22' :: rest) := by
  simp [writeString]

theorem newline_not_mem_writeString (s : String) : '\n' ∉ writeString s := by
  simp [writeString, newline_not_mem_escape]

end Recrawl.Json
