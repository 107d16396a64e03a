import Mathlib.Data.List.Basic
import Recrawl.Time.Field
import Recrawl.Time.Format

/-!
Numbers of a fixed width in a date. A number that fits its width is written with exactly that many
digits, and a reader of up to so many digits takes all of them and nothing else.
-/

namespace Recrawl.Time

section Padded

variable {width n : Nat}

theorem toList_padded (width n : Nat) :
    (padded width n).toList =
      List.replicate (width - (Nat.toDigits 10 n).length) '0' ++ Nat.toDigits 10 n :=
  String.toList_ofList

theorem isDigit_of_mem_padded {c : Char} (h : c ∈ (padded width n).toList) : c.isDigit = true := by
  rw [toList_padded, List.mem_append, List.mem_replicate] at h
  rcases h with ⟨-, rfl⟩ | hdigit
  · rfl
  · exact Nat.isDigit_of_mem_toDigits (by decide) (by decide) hdigit

theorem length_padded (hwidth : 0 < width) (hn : n < Nat.pow 10 width) :
    (padded width n).toList.length = width := by
  have hdigits := (Nat.length_toDigits_le_iff (by decide) hwidth).mpr hn
  rw [toList_padded, List.length_append, List.length_replicate]
  omega

theorem ofDigitChars_padded (width n : Nat) :
    Nat.ofDigitChars 10 (padded width n).toList 0 = n := by
  rw [toList_padded, Nat.ofDigitChars_append, Nat.ofDigitChars_replicate_zero, Nat.mul_zero,
    Nat.ofDigitChars_toDigits (by decide) (by decide)]

theorem padded_inj {width m n : Nat} : padded width m = padded width n ↔ m = n := by
  constructor
  · intro h
    rw [← ofDigitChars_padded width m, h, ofDigitChars_padded]
  · rintro rfl
    rfl

/-- A written number is a digit with digits behind it. -/
theorem exists_padded_eq_cons (width n : Nat) :
    ∃ c rest, (padded width n).toList = c :: rest ∧ c.isDigit = true := by
  cases hchars : (padded width n).toList with
  | nil =>
    rw [toList_padded] at hchars
    exact absurd (List.append_eq_nil_iff.mp hchars).2 Nat.toDigits_ne_nil
  | cons c rest => exact ⟨c, rest, rfl, isDigit_of_mem_padded (by rw [hchars]; simp)⟩

theorem padded_ne_nil (width n : Nat) : (padded width n).toList ≠ [] := by
  obtain ⟨c, rest, hchars, -⟩ := exists_padded_eq_cons width n
  simp [hchars]

end Padded

namespace Read

/-- No number continues here. -/
def EndsNumber (chars : List Char) : Prop :=
  ∀ c ∈ chars.head?, c.isDigit = false

@[simp] theorem endsNumber_cons {c : Char} {rest : List Char} :
    EndsNumber (c :: rest) ↔ c.isDigit = false := by
  simp [EndsNumber]

@[simp] theorem char_self (c : Char) (rest : List Char) : char c (c :: rest) = some rest := by
  simp [char]

theorem digit?_of_isDigit {c : Char} (h : c.isDigit = true) :
    digit? c = some (c.toNat - '0'.toNat) :=
  if_pos (by simpa using Char.isDigit_iff_toNat.mp h)

theorem digit?_eq_none {c : Char} (h : c.isDigit = false) : digit? c = none := by
  refine if_neg fun hrange => ?_
  have : c.isDigit = true := Char.isDigit_iff_toNat.mpr (by simpa using hrange)
  rw [this] at h
  cases h

theorem moreDigits_of_endsNumber {rest : List Char} (h : EndsNumber rest) (max count acc : Nat) :
    moreDigits max count acc rest = (count, acc, rest) := by
  cases max with
  | zero => rfl
  | succ max =>
    cases rest with
    | nil => rfl
    | cons c rest => simp only [moreDigits, digit?_eq_none (endsNumber_cons.mp h)]

theorem moreDigits_append {digits : List Char} (hdigits : ∀ c ∈ digits, c.isDigit = true)
    (max count acc : Nat) (rest : List Char) :
    moreDigits (digits.length + max) count acc (digits ++ rest) =
      moreDigits max (count + digits.length) (Nat.ofDigitChars 10 digits acc) rest := by
  induction digits generalizing count acc with
  | nil => simp
  | cons c digits ih =>
    have hmax : (c :: digits).length + max = digits.length + max + 1 := by
      rw [List.length_cons]
      omega
    have hcount : count + (c :: digits).length = count + 1 + digits.length := by
      rw [List.length_cons]
      omega
    rw [hmax, hcount, List.cons_append, moreDigits, digit?_of_isDigit (hdigits c (by simp)),
      Nat.ofDigitChars_cons, Nat.mul_comm 10 acc]
    exact ih (fun d hd => hdigits d (by simp [hd])) _ _

/-- A number of a fixed width is read up to its end: behind it there is no digit, or no more than
its digits may be read. -/
theorem number_padded {min max width n : Nat} {rest : List Char} (hwidth : 0 < width)
    (hn : n < Nat.pow 10 width) (hmin : min ≤ width) (hmax : width ≤ max)
    (hrest : width = max ∨ EndsNumber rest) :
    number min max ((padded width n).toList ++ rest) = some (width, n, rest) := by
  have hlength := length_padded hwidth hn
  have hread : moreDigits max 0 0 ((padded width n).toList ++ rest) = (width, n, rest) := by
    have hdigits : ∀ c ∈ (padded width n).toList, c.isDigit = true :=
      fun _ hc => isDigit_of_mem_padded hc
    have happend := moreDigits_append hdigits (max - width) 0 0 rest
    rw [hlength, ofDigitChars_padded, Nat.zero_add, Nat.add_sub_cancel' hmax] at happend
    rw [happend]
    rcases hrest with rfl | hends
    · rw [Nat.sub_self]
      rfl
    · exact moreDigits_of_endsNumber hends _ _ _
  simp only [number, hread, if_pos hmin]

/-- Two digits are read as a bounded number. -/
theorem bounded_padded {min low high n : Nat} (hmin : min ≤ 2) (hn : n < 100) (rest : List Char) :
    bounded min 2 low high ((padded 2 n).toList ++ rest) =
      if low ≤ n ∧ n ≤ high then some (n, rest) else none := by
  simp only [bounded, number_padded (by decide) hn hmin (Nat.le_refl 2) (.inl rfl),
    Bool.and_eq_true, decide_eq_true_eq]

theorem bounded_padded_of_mem {min low high n : Nat} (hmin : min ≤ 2) (hhigh : high < 100)
    (hlow : low ≤ n) (hn : n ≤ high) (rest : List Char) :
    bounded min 2 low high ((padded 2 n).toList ++ rest) = some (n, rest) := by
  rw [bounded_padded hmin (by omega), if_pos ⟨hlow, hn⟩]

theorem twoDigits_padded {n : Nat} (hn : n < 100) (rest : List Char) :
    twoDigits ((padded 2 n).toList ++ rest) = some (n, rest) := by
  have hdigits (c : Char) (hc : c ∈ (padded 2 n).toList) := isDigit_of_mem_padded hc
  have hvalue := ofDigitChars_padded 2 n
  have hlength : (padded 2 n).toList.length = 2 := length_padded (by decide) hn
  obtain ⟨a, b, hpair⟩ := List.length_eq_two.mp hlength
  rw [hpair] at hdigits hvalue ⊢
  have ha := digit?_of_isDigit (hdigits a (by simp))
  have hb := digit?_of_isDigit (hdigits b (by simp))
  simp only [Nat.ofDigitChars_cons, Nat.ofDigitChars_nil, Nat.mul_zero, Nat.zero_add] at hvalue
  simp only [List.cons_append, List.nil_append, twoDigits, ha, hb, hvalue]

end Read

end Recrawl.Time
