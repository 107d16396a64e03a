import Recrawl.Proofs.Except
import Recrawl.Schedule.Baseline

/-!
Writing a number and reading it again. The decimal form of an integer has no blanks,
so that reading it with or without trimming gives the integer back as long as it fits
into the word.
-/

namespace Recrawl.Text

theorem isBlank_of_isDigit {c : Char} (h : c.isDigit = true) : isBlank c = false := by
  obtain ⟨hlow, hhigh⟩ : 0x30 ≤ c.toNat ∧ c.toNat ≤ 0x39 := Char.isDigit_iff_toNat.mp h
  simp only [isBlank, Bool.or_eq_false_iff, Bool.and_eq_false_iff, decide_eq_false_iff_not,
    beq_eq_false_iff_ne]
  omega

/-- Trimming changes nothing where there is no blank. -/
theorem trimChars_eq_self {chars : List Char} (h : ∀ c ∈ chars, isBlank c = false) :
    trimChars chars = chars := by
  have keep (l : List Char) (hl : ∀ c ∈ l, isBlank c = false) : l.dropWhile isBlank = l := by
    cases l with
    | nil => rfl
    | cons c rest => simp [hl c (by simp)]
  unfold trimChars trimStart trimEnd
  rw [keep chars h, keep chars.reverse (by simpa using h), List.reverse_reverse]

theorem digitValue?_of_isDigit {c : Char} (h : c.isDigit = true) :
    digitValue? 10 c = some (c.toNat - '0'.toNat) := by
  obtain ⟨hlow, hhigh⟩ : 0x30 ≤ c.toNat ∧ c.toNat ≤ 0x39 := Char.isDigit_iff_toNat.mp h
  simp only [digitValue?, hlow, hhigh, decide_true, Bool.and_self, if_true]
  have hvalue : c.toNat - 0x30 < 10 := by omega
  simp [hvalue]

theorem le_ofDigitChars (digits : List Char) (acc : Nat) :
    acc ≤ Nat.ofDigitChars 10 digits acc := by
  induction digits generalizing acc with
  | nil => simp
  | cons c rest ih =>
    rw [Nat.ofDigitChars_cons]
    have := ih (10 * acc + (c.toNat - '0'.toNat))
    omega

/-- Digits are read as the number that they spell, as long as it does not pass the bound. -/
theorem readDigits_eq_ok (bound : Nat) (overflow : IntegerFault) (digits : List Char) (acc : Nat)
    (hdigits : ∀ c ∈ digits, c.isDigit = true) (hbound : Nat.ofDigitChars 10 digits acc ≤ bound) :
    readDigits 10 bound overflow acc digits = .ok (Nat.ofDigitChars 10 digits acc) := by
  induction digits generalizing acc with
  | nil => simp [readDigits]
  | cons c rest ih =>
    rw [Nat.ofDigitChars_cons] at hbound ⊢
    have hnext : 10 * acc + (c.toNat - '0'.toNat) ≤ bound := by
      exact Nat.le_trans (le_ofDigitChars rest _) hbound
    rw [Nat.mul_comm] at hnext hbound ⊢
    simp only [readDigits, digitValue?_of_isDigit (hdigits c (by simp)), if_pos hnext]
    exact ih _ (fun d hd => hdigits d (by simp [hd])) hbound

/-- A character that is neither a digit nor a sign makes a text no number. -/
theorem toOption_readDigits_of_mem {base bound : Nat} {overflow : IntegerFault} {acc : Nat}
    {chars : List Char} {c : Char} (hc : c ∈ chars) (hvalue : digitValue? base c = none) :
    (readDigits base bound overflow acc chars).toOption = none := by
  induction chars generalizing acc with
  | nil => cases hc
  | cons first rest ih =>
    rw [readDigits]
    rcases List.mem_cons.mp hc with rfl | hrest
    · rw [hvalue]
      rfl
    · cases digitValue? base first with
      | none => rfl
      | some digit =>
        simp only
        split
        · exact ih hrest
        · rfl

@[inherit_doc toOption_readDigits_of_mem]
theorem toOption_readNat_of_mem {base bound : Nat} {chars : List Char} {c : Char} (hc : c ∈ chars)
    (hplus : c ≠ '+') (hvalue : digitValue? base c = none) :
    (readNat base bound chars).toOption = none := by
  unfold readNat
  split
  · rfl
  · rfl
  · have hrest := (List.mem_cons.mp hc).resolve_left hplus
    exact toOption_readDigits_of_mem hrest hvalue
  · exact toOption_readDigits_of_mem hc hvalue

/-- At least one decimal digit and nothing else, and the number that they spell. -/
def SpellsNat (digits : List Char) (n : Nat) : Prop :=
  digits ≠ [] ∧ (∀ c ∈ digits, c.isDigit = true) ∧ Nat.ofDigitChars 10 digits 0 = n

/-- The integer that a text spells in decimal, with a sign or without. -/
inductive Spells : List Char → Int → Prop
  | unsigned {digits : List Char} {n : Nat} : SpellsNat digits n → Spells digits n
  | positive {digits : List Char} {n : Nat} : SpellsNat digits n → Spells ('+' :: digits) n
  | negative {digits : List Char} {n : Nat} : SpellsNat digits n → Spells ('-' :: digits) (-n)

theorem isDigit_of_digitValue? {c : Char} {digit : Nat} (h : digitValue? 10 c = some digit) :
    c.isDigit = true ∧ digit = c.toNat - '0'.toNat := by
  have hdigit : c.isDigit = true := by
    apply Char.isDigit_iff_toNat.mpr
    change 0x30 ≤ c.toNat ∧ c.toNat ≤ 0x39
    simp only [digitValue?, Bool.and_eq_true, decide_eq_true_eq, Option.ite_none_right_eq_some] at h
    obtain ⟨hless, -⟩ := h
    split at hless
    · assumption
    · split at hless
      · omega
      · split at hless <;> omega
  rw [digitValue?_of_isDigit hdigit] at h
  exact ⟨hdigit, (Option.some.inj h).symm⟩

theorem isDigit_of_readDigits {bound : Nat} {overflow : IntegerFault} {digits : List Char}
    {acc n : Nat} (hacc : acc ≤ bound) (h : readDigits 10 bound overflow acc digits = .ok n) :
    (∀ c ∈ digits, c.isDigit = true) ∧ Nat.ofDigitChars 10 digits acc = n ∧ n ≤ bound := by
  induction digits generalizing acc with
  | nil =>
    cases h
    exact ⟨by simp, by simp, hacc⟩
  | cons c rest ih =>
    rw [readDigits] at h
    cases hvalue : digitValue? 10 c with
    | none => simp [hvalue] at h
    | some digit =>
      obtain ⟨hdigit, rfl⟩ := isDigit_of_digitValue? hvalue
      simp only [hvalue] at h
      split at h
      · rename_i hnext
        obtain ⟨hrest, hspelled, hbound⟩ := ih hnext h
        rw [Nat.mul_comm, ← Nat.ofDigitChars_cons] at hspelled
        exact ⟨List.forall_mem_cons.mpr ⟨hdigit, hrest⟩, hspelled, hbound⟩
      · cases h

theorem readDigits_eq_ok_iff {bound : Nat} {overflow : IntegerFault} {digits : List Char}
    {n : Nat} (hne : digits ≠ []) :
    readDigits 10 bound overflow 0 digits = .ok n ↔ SpellsNat digits n ∧ n ≤ bound := by
  constructor
  · intro h
    obtain ⟨hdigits, hspelled, hbound⟩ := isDigit_of_readDigits (Nat.zero_le bound) h
    exact ⟨⟨hne, hdigits, hspelled⟩, hbound⟩
  · rintro ⟨⟨-, hdigits, rfl⟩, hbound⟩
    exact readDigits_eq_ok bound overflow digits 0 hdigits hbound

theorem readNat_eq_ok_iff {bound : Nat} {chars : List Char} {n : Nat} :
    readNat 10 bound chars = .ok n ↔
      (SpellsNat chars n ∨ ∃ digits, chars = '+' :: digits ∧ SpellsNat digits n) ∧ n ≤ bound := by
  have hsign (digits : List Char) : ¬ SpellsNat ('+' :: digits) n := by
    rintro ⟨-, hdigits, -⟩
    exact absurd (hdigits '+' (by simp)) (by decide)
  have hnone : ¬ SpellsNat [] n := fun h => h.1 rfl
  unfold readNat
  split
  · simp [hnone]
  · simp [hsign, hnone]
  · rename_i digits hne
    rw [readDigits_eq_ok_iff (by rintro rfl; exact hne rfl)]
    simp [hsign]
  · rename_i hempty hplus hsigned
    rw [readDigits_eq_ok_iff hempty]
    refine and_congr_left fun _ => ⟨.inl, ?_⟩
    rintro (h | ⟨digits, rfl, -⟩)
    · exact h
    · exact absurd rfl (hsigned digits)

theorem readInt64_eq_map_readNat {chars : List Char} (h : chars.head? ≠ some '-') :
    readInt64 chars = (readNat 10 (0x8000000000000000 - 1) chars).map Int.ofNat := by
  unfold readInt64
  split
  · rfl
  · rfl
  · exact absurd rfl h
  · exact absurd rfl h
  · rfl

theorem readInt64_minus {digits : List Char} (hne : digits ≠ []) :
    readInt64 ('-' :: digits) =
      (readDigits 10 0x8000000000000000 .tooSmall 0 digits).map fun n : Nat => -(n : Int) := by
  rw [readInt64]
  · cases readDigits 10 0x8000000000000000 .tooSmall 0 digits <;> rfl
  · exact hne

/-- A text is read as an integer exactly if it spells it and the word holds it. -/
theorem readInt64_eq_ok_iff {chars : List Char} {n : Int} :
    readInt64 chars = .ok n ↔
      Spells chars n ∧ -0x8000000000000000 ≤ n ∧ n < 0x8000000000000000 := by
  constructor
  · intro h
    by_cases hminus : chars.head? = some '-'
    · obtain ⟨digits, rfl⟩ := List.head?_eq_some_iff.mp hminus
      have hne : digits ≠ [] := by
        rintro rfl
        cases h
      rw [readInt64_minus hne] at h
      obtain ⟨magnitude, hread, rfl⟩ := map_eq_ok_iff.mp h
      obtain ⟨hspells, hbound⟩ := (readDigits_eq_ok_iff hne).mp hread
      exact ⟨.negative hspells, by omega, by omega⟩
    · rw [readInt64_eq_map_readNat hminus] at h
      obtain ⟨magnitude, hread, rfl⟩ := map_eq_ok_iff.mp h
      obtain ⟨hspells, hbound⟩ := readNat_eq_ok_iff.mp hread
      have hrange : -0x8000000000000000 ≤ (magnitude : Int) ∧
          (magnitude : Int) < 0x8000000000000000 := by omega
      rcases hspells with hspells | ⟨digits, rfl, hspells⟩
      · exact ⟨.unsigned hspells, hrange⟩
      · exact ⟨.positive hspells, hrange⟩
  · rintro ⟨hspells, hlow, hhigh⟩
    cases hspells with
    | @unsigned digits magnitude h =>
      have hminus : chars.head? ≠ some '-' := by
        intro hhead
        exact absurd (h.2.1 '-' (List.mem_of_head? hhead)) (by decide)
      have hread : readNat 10 (0x8000000000000000 - 1) chars = .ok magnitude :=
        readNat_eq_ok_iff.mpr ⟨.inl h, by omega⟩
      exact (readInt64_eq_map_readNat hminus).trans (map_eq_ok_iff.mpr ⟨_, hread, rfl⟩)
    | @positive digits magnitude h =>
      have hread : readNat 10 (0x8000000000000000 - 1) ('+' :: digits) = .ok magnitude :=
        readNat_eq_ok_iff.mpr ⟨.inr ⟨_, rfl, h⟩, by omega⟩
      exact (readInt64_eq_map_readNat (by simp)).trans (map_eq_ok_iff.mpr ⟨_, hread, rfl⟩)
    | @negative digits magnitude h =>
      have hread : readDigits 10 0x8000000000000000 .tooSmall 0 digits = .ok magnitude :=
        (readDigits_eq_ok_iff h.1).mpr ⟨h, by omega⟩
      exact (readInt64_minus h.1).trans (map_eq_ok_iff.mpr ⟨_, hread, rfl⟩)

theorem isDigit_of_mem_toDigits {n : Nat} : ∀ c ∈ Nat.toDigits 10 n, c.isDigit = true :=
  fun _ hc => Nat.isDigit_of_mem_toDigits (by decide) (by decide) hc

theorem spellsNat_toDigits (n : Nat) : SpellsNat (Nat.toDigits 10 n) n :=
  ⟨Nat.toDigits_ne_nil, isDigit_of_mem_toDigits, by simp⟩

/-- A number that is written in decimal reads back as itself, if it fits into the word. -/
theorem readUInt32_toString {n : Nat} (h : n < UInt32.size) :
    readUInt32 (toString n).toList = .ok n := by
  rw [Nat.toString_eq_repr, Nat.toList_repr]
  exact readNat_eq_ok_iff.mpr ⟨.inl (spellsNat_toDigits n), Nat.le_of_lt_succ h⟩

theorem spells_repr (n : Int) : Spells n.repr.toList n := by
  rw [Int.repr_eq_if]
  split
  · obtain ⟨magnitude, rfl⟩ := Int.eq_ofNat_of_zero_le ‹0 ≤ n›
    rw [Nat.toList_repr]
    exact .unsigned (spellsNat_toDigits magnitude)
  · have hnegative : -(((-n).toNat : Nat) : Int) = n := by omega
    have hspells := Spells.negative (spellsNat_toDigits (-n).toNat)
    rw [hnegative] at hspells
    rwa [String.toList_append, Nat.toList_repr]

/-- A word that is written in decimal reads back as itself. -/
theorem readInt64_repr (n : Int64) : readInt64 n.toInt.repr.toList = .ok n.toInt := by
  have hlow := n.le_toInt
  have hhigh := n.toInt_lt
  exact readInt64_eq_ok_iff.mpr ⟨spells_repr n.toInt, by omega, by omega⟩

theorem isBlank_of_mem_repr (n : Int) : ∀ c ∈ n.repr.toList, isBlank c = false := by
  have hdigits (k : Nat) : ∀ c ∈ Nat.toDigits 10 k, isBlank c = false :=
    fun c hc => isBlank_of_isDigit (isDigit_of_mem_toDigits c hc)
  intro c hc
  rw [Int.repr_eq_if] at hc
  split at hc
  · exact hdigits _ c (by simpa [Nat.toList_repr] using hc)
  · rw [String.toList_append, Nat.toList_repr] at hc
    rcases List.mem_append.mp hc with hsign | hdigit
    · have : c = '-' := by simpa using hsign
      subst this
      rfl
    · exact hdigits _ c hdigit

end Recrawl.Text

namespace Recrawl

/-- The minutes that are written into metadata are the minutes that are read from it. -/
theorem readMinutes_toString (minutes : Int64) :
    readMinutes (toString minutes.toInt) = .ok minutes := by
  have htrim : (Text.trim (toString minutes.toInt)).toList = minutes.toInt.repr.toList := by
    rw [Int.toString_eq_repr, Text.trim, String.toList_ofList,
      Text.trimChars_eq_self (Text.isBlank_of_mem_repr _)]
  rw [readMinutes, htrim, Text.readInt64_repr]
  simp [Except.map, Int64.ofInt_toInt]

theorem readMinutes_eq_ok_iff {text : String} {minutes : Int64} :
    readMinutes text = .ok minutes ↔
      Text.Spells (Text.trimChars text.toList) minutes.toInt := by
  have hlow := minutes.le_toInt
  have hhigh := minutes.toInt_lt
  rw [readMinutes, Text.trim, String.toList_ofList, map_eq_ok_iff]
  constructor
  · rintro ⟨n, hread, rfl⟩
    obtain ⟨hspells, hn⟩ := Text.readInt64_eq_ok_iff.mp hread
    rwa [Int64.toInt_ofInt_of_le (by omega) (by omega)]
  · intro hspells
    exact ⟨_, Text.readInt64_eq_ok_iff.mpr ⟨hspells, by omega, by omega⟩, Int64.ofInt_toInt minutes⟩

end Recrawl
