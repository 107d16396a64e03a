import Recrawl.Proofs.Text.Integer
import Recrawl.Proofs.Time.Digits
import Recrawl.Proofs.Time.Fields
import Recrawl.Time.W3c

/-!
The written profiles of a W3C date and what the patterns read from them. Exactly one pattern reads
a date-time as a whole, and none reads a date alone.
-/

namespace Recrawl.Time

namespace W3c

/-- What stands behind the minutes of a written time. -/
inductive Seconds
  | absent
  | whole (second : Fin 60)
  /-- A second and its fraction, of one digit and `more` behind it. -/
  | split (second : Fin 60) (more : Fin 9) (fraction : Fin (Nat.pow 10 (more.val + 1)))

namespace Seconds

/-- The seconds as they are written. -/
def text : Seconds → String
  | absent => ""
  | whole second => ":" ++ padded 2 second
  | split second more fraction => ":" ++ padded 2 second ++ "." ++ padded (more + 1) fraction

/-- The seconds are not left out. -/
def isWritten : Seconds → Bool
  | absent => false
  | whole _ => true
  | split _ _ _ => true

/-- The full seconds, none where they are not written. -/
def second : Seconds → Nat
  | absent => 0
  | whole second => second
  | split second _ _ => second

/-- The fraction in nanoseconds. -/
def nano : Seconds → Nat
  | absent => 0
  | whole _ => 0
  | split _ more fraction => fraction.val * Nat.pow 10 (8 - more.val)

end Seconds

/-- The zone of a written time. -/
inductive Zone
  | absent
  /-- The letter Z. -/
  | utc (capital : Bool)
  /-- Hours and minutes ahead of UTC or behind it. -/
  | numeric (ahead : Bool) (hour : Fin 24) (minute : Fin 60)

namespace Zone

/-- The zone as it is written. -/
def text : Zone → String
  | absent => ""
  | utc capital => if capital then "Z" else "z"
  | numeric ahead hour minute =>
    (if ahead then "+" else "-") ++ padded 2 hour ++ ":" ++ padded 2 minute

/-- The zone with an offset in the place of its letter. -/
def spelled : Zone → String
  | utc _ => "+00:00"
  | zone => zone.text

/-- The zone is not left out. -/
def isWritten : Zone → Bool
  | absent => false
  | utc _ => true
  | numeric _ _ _ => true

/-- The seconds that the local clock is ahead of UTC; a clock without a zone shows UTC. -/
def offset : Zone → Int
  | absent => 0
  | utc _ => 0
  | numeric ahead hour minute =>
    let seconds := hour.val * 3600 + minute.val * 60
    if ahead then seconds else -seconds

end Zone

/-- A date as it is written. -/
def dateText (year : Fin 10000) (month day : Fin 100) : String :=
  padded 4 year ++ "-" ++ padded 2 month ++ "-" ++ padded 2 day

/-- The hour and the minute of a time as they are written. -/
def minuteText (hour minute : Fin 100) : String :=
  padded 2 hour ++ ":" ++ padded 2 minute

/-- A text in one of the profiles. Its groups of digits need not be in range, except for those of
the seconds and the zone. -/
inductive Written
  | year (year : Fin 10000)
  | month (year : Fin 10000) (month : Fin 100)
  | day (year : Fin 10000) (month day : Fin 100)
  | time (year : Fin 10000) (month day hour minute : Fin 100) (seconds : Seconds) (zone : Zone)

namespace Written

/-- The text. -/
def text : Written → String
  | year y => padded 4 y
  | month y m => padded 4 y ++ "-" ++ padded 2 m
  | day y m d => dateText y m d
  | time y m d hour minute seconds zone =>
    dateText y m d ++ "T" ++ minuteText hour minute ++ seconds.text ++ zone.text

/-- What the text says; a month or day that is not written is the first one. -/
def fields : Written → Fields
  | year y => { year := y }
  | month y m => { year := y, month := m }
  | day y m d => { year := y, month := m, day := d }
  | time y m d hour minute seconds zone =>
    { year := y, month := m, day := d, hour := hour, minute := minute,
      second := seconds.second, nano := seconds.nano, offset := zone.offset }

/-- There is no time in the text. -/
def isDate : Written → Bool
  | time _ _ _ _ _ _ _ => false
  | _ => true

end Written

end W3c

namespace Item

open W3c

theorem trimStart_padded (width n : Nat) (rest : List Char) :
    Text.trimStart ((padded width n).toList ++ rest) = (padded width n).toList ++ rest := by
  obtain ⟨c, more, hchars, hdigit⟩ := exists_padded_eq_cons width n
  rw [hchars, List.cons_append, Text.trimStart,
    List.dropWhile_cons_of_neg (by simp [Text.isBlank_of_isDigit hdigit])]

theorem readYear_padded (year : Fin 10000) (rest : List Char) :
    readYear ((padded 4 year).toList ++ rest) = some (((year : Nat) : Int), rest) := by
  have hnumber : Read.number 1 4 ((padded 4 year).toList ++ rest) = some (4, year.val, rest) :=
    Read.number_padded (by decide) year.isLt (by decide) (by decide) (.inl rfl)
  obtain ⟨c, more, hchars, hdigit⟩ := exists_padded_eq_cons 4 year
  rw [hchars, List.cons_append] at hnumber ⊢
  unfold readYear
  split
  · rename_i hminus
    cases hminus
    cases hdigit
  · rename_i hplus
    cases hplus
    cases hdigit
  · rw [hnumber]
    rfl

variable {items : List Item} {f : Fields} {rest : List Char}

theorem readAll_year (year : Fin 10000) :
    readAll (.year :: items) f ((padded 4 year).toList ++ rest) =
      readAll items { f with year := year } rest := by
  simp only [readAll, read, trimStart_padded, readYear_padded, Option.map_some]

@[simp] theorem readAll_literal (c : Char) :
    readAll (literal c :: items) f (c :: rest) = readAll items f rest := by
  simp [readAll, read]

theorem readAll_literal_of_ne {c : Char} (h : rest.head? ≠ some c) :
    readAll (literal c :: items) f rest = none := by
  cases rest with
  | nil => rfl
  | cons d rest =>
    have hne : d ≠ c := fun e => h (congrArg some e)
    simp [readAll, read, Read.char, hne]

/-- The bounds of a part of two digits, and the field that it sets. -/
def number? : Item → Option (Nat × Nat × (Fields → Nat → Fields))
  | month => some (1, 12, fun f n => { f with month := n })
  | day => some (1, 31, fun f n => { f with day := n })
  | hour => some (0, 23, fun f n => { f with hour := n })
  | minute => some (0, 59, fun f n => { f with minute := n })
  | second => some (0, 60, fun f n => { f with second := n })
  | _ => none

theorem read_number {item : Item} {low high : Nat} {set : Fields → Nat → Fields}
    (h : item.number? = some (low, high, set)) (f : Fields) (chars : List Char) :
    item.read f chars =
      (Read.bounded 1 2 low high (Text.trimStart chars)).map fun (n, rest) => (set f n, rest) := by
  cases item with
  | month | day | hour | minute | second =>
    cases h
    rfl
  | year | fraction | offset | blanks | literal => cases h

/-- Two digits are read within the bounds. -/
theorem readAll_number {item : Item} {low high : Nat} {set : Fields → Nat → Fields}
    (h : item.number? = some (low, high, set)) {n : Nat} (hn : n < 100) :
    readAll (item :: items) f ((padded 2 n).toList ++ rest) =
      if low ≤ n ∧ n ≤ high then readAll items (set f n) rest else none := by
  rw [readAll, read_number h, trimStart_padded, Read.bounded_padded (by decide) hn]
  by_cases hbounds : low ≤ n ∧ n ≤ high
  · simp only [hbounds, and_self, if_true, Option.map_some]
  · simp only [hbounds, if_false, Option.map_none]

/-- Patterns begin with a date, and read it if its month and day are those of some year. -/
theorem readAll_date (y : Fin 10000) (m d : Fin 100) :
    readAll (dateItems ++ items) {} ((dateText y m d).toList ++ rest) =
      if (1 ≤ m.val ∧ m.val ≤ 12) ∧ 1 ≤ d.val ∧ d.val ≤ 31 then
        readAll items { year := y, month := m, day := d } rest
      else none := by
  have hchars : (dateText y m d).toList ++ rest = (padded 4 y).toList ++
      '-' :: ((padded 2 m).toList ++ '-' :: ((padded 2 d).toList ++ rest)) := by
    simp [dateText, String.toList_append]
  rw [hchars, dateItems, List.cons_append, readAll_year, List.cons_append, readAll_literal,
    List.cons_append, readAll_number rfl m.isLt]
  by_cases hmonth : 1 ≤ m.val ∧ m.val ≤ 12
  · rw [if_pos hmonth, List.cons_append, readAll_literal, List.cons_append,
      readAll_number rfl d.isLt]
    simp only [hmonth, and_self, true_and, List.nil_append]
  · rw [if_neg hmonth, if_neg fun hboth => hmonth hboth.1]

/-- The hour and the minute of a time are read if they are those of some day. -/
theorem readAll_minute (hour minute : Fin 100) :
    readAll (minuteItems ++ items) f ((minuteText hour minute).toList ++ rest) =
      if hour.val < 24 ∧ minute.val < 60 then
        readAll items { f with hour := hour, minute := minute } rest
      else none := by
  have hchars : (minuteText hour minute).toList ++ rest =
      (padded 2 hour).toList ++ ':' :: ((padded 2 minute).toList ++ rest) := by
    simp [minuteText, String.toList_append]
  rw [hchars, minuteItems, List.cons_append, readAll_number rfl hour.isLt]
  by_cases hhour : hour.val < 24
  · have hminute : 0 ≤ minute.val ∧ minute.val ≤ 59 ↔ minute.val < 60 := by omega
    rw [if_pos ⟨Nat.zero_le _, Nat.le_of_lt_succ hhour⟩, List.cons_append, readAll_literal,
      List.cons_append, readAll_number rfl minute.isLt]
    simp only [hminute, hhour, true_and, List.nil_append]
  · rw [if_neg fun hboth => hhour (Nat.lt_succ_of_le hboth.2), if_neg fun hboth => hhour hboth.1]

theorem fraction_padded (more : Fin 9) (n : Fin (Nat.pow 10 (more.val + 1)))
    (hrest : Read.EndsNumber rest) :
    Read.fraction ((padded (more + 1) n).toList ++ rest) = some (n.val * Nat.pow 10 (8 - more.val), rest) := by
  have hnumber : Read.number 1 9 ((padded (more + 1) n).toList ++ rest) =
      some (more.val + 1, n.val, rest) :=
    Read.number_padded (Nat.succ_pos _) n.isLt (by omega) (by omega) (.inr hrest)
  have hdrop : rest.dropWhile (fun c => (Read.digit? c).isSome) = rest := by
    cases rest with
    | nil => rfl
    | cons c rest =>
      rw [List.dropWhile_cons_of_neg]
      simp [Read.digit?_eq_none (Read.endsNumber_cons.mp hrest)]
  have hwidth : 9 - (more.val + 1) = 8 - more.val := by omega
  simp only [Read.fraction, hnumber, hdrop, hwidth]

theorem read_fraction_of_ne (h : rest.head? ≠ some '.') :
    Item.fraction.read f rest = some (f, rest) := by
  simp only [read]
  split
  · exact absurd rfl h
  · rfl

/-- Behind the seconds there is neither a digit nor a mark that is part of them. -/
def EndsSeconds (chars : List Char) : Prop :=
  ∀ c ∈ chars.head?, c.isDigit = false ∧ c ≠ ':' ∧ c ≠ '.'

/-- Seconds are read with their fraction, if they are written at all. -/
theorem readAll_seconds (seconds : Seconds) (hrest : EndsSeconds rest) (hnano : f.nano = 0) :
    readAll (literal ':' :: .second :: .fraction :: items) f (seconds.text.toList ++ rest) =
      if seconds.isWritten then
        readAll items { f with second := seconds.second, nano := seconds.nano } rest
      else none := by
  cases seconds with
  | absent => exact readAll_literal_of_ne fun h => (hrest ':' h).2.1 rfl
  | whole second =>
    have hchars : (Seconds.whole second).text.toList ++ rest =
        ':' :: ((padded 2 second).toList ++ rest) := by
      simp [Seconds.text, String.toList_append]
    have hpoint : rest.head? ≠ some '.' := fun h => (hrest '.' h).2.2 rfl
    rw [hchars, readAll_literal, readAll_number rfl (by omega),
      if_pos ⟨Nat.zero_le _, Nat.le_of_lt second.isLt⟩, readAll, read_fraction_of_ne hpoint]
    simp only [Seconds.isWritten, Seconds.second, Seconds.nano, ← hnano, if_true]
  | split second more fraction =>
    have hchars : (Seconds.split second more fraction).text.toList ++ rest =
        ':' :: ((padded 2 second).toList ++
          '.' :: ((padded (more + 1) fraction).toList ++ rest)) := by
      simp [Seconds.text, String.toList_append]
    have hread := fraction_padded more fraction fun c hc => (hrest c hc).1
    rw [hchars, readAll_literal, readAll_number rfl (by omega),
      if_pos ⟨Nat.zero_le _, Nat.le_of_lt second.isLt⟩, readAll, read, hread]
    simp only [Option.map_some, Seconds.isWritten, Seconds.second, Seconds.nano, if_true]

/-- Hours and minutes behind a sign are read as an offset of so many seconds. -/
theorem offset_padded (ahead : Bool) (hour : Fin 24) (minute : Fin 60) :
    Read.offset true (fun cs => some (cs.dropWhile fun c => c == ':' || Text.isBlank c))
        ((if ahead then '+' else '-') ::
          ((padded 2 hour).toList ++ ':' :: (padded 2 minute).toList)) =
      some ((Zone.numeric ahead hour minute).offset, []) := by
  have hdrop : (':' :: (padded 2 minute).toList).dropWhile (fun c => c == ':' || Text.isBlank c) =
      (padded 2 minute).toList := by
    obtain ⟨c, more, hchars, hdigit⟩ := exists_padded_eq_cons 2 minute
    have hcolon : c ≠ ':' := by
      rintro rfl
      cases hdigit
    rw [List.dropWhile_cons_of_pos (by decide), hchars, List.dropWhile_cons_of_neg]
    simp [hcolon, Text.isBlank_of_isDigit hdigit]
  have hhour := Read.twoDigits_padded (n := hour) (by omega) (':' :: (padded 2 minute).toList)
  have hminute := Read.twoDigits_padded (n := minute) (by omega) []
  rw [List.append_nil] at hminute
  cases ahead with
  | true =>
    simp [Read.offset, Read.sign, hhour, hdrop, hminute, Zone.offset]
  | false =>
    simp [Read.offset, Read.sign, hhour, hdrop, hminute, Zone.offset]

theorem readAll_offset_numeric (ahead : Bool) (hour : Fin 24) (minute : Fin 60) :
    readAll [.offset] f (Zone.numeric ahead hour minute).text.toList =
      some { f with offset := (Zone.numeric ahead hour minute).offset } := by
  have hchars : (Zone.numeric ahead hour minute).text.toList =
      (if ahead then '+' else '-') ::
        ((padded 2 hour).toList ++ ':' :: (padded 2 minute).toList) := by
    cases ahead <;> simp [Zone.text, String.toList_append]
  have htrim (chars : List Char) : Text.trimStart ((if ahead then '+' else '-') :: chars) =
      (if ahead then '+' else '-') :: chars := by
    cases ahead <;> rfl
  rw [hchars, readAll, read, htrim, offset_padded]
  rfl

/-- A zone is read as its offset, if it is written and its letter spelled out. -/
theorem readAll_offset (zone : Zone) :
    readAll [.offset] f zone.spelled.toList =
      if zone.isWritten then some { f with offset := zone.offset } else none := by
  cases zone with
  | absent => rfl
  | utc capital =>
    have hzero : (Zone.utc capital).spelled = (Zone.numeric true 0 0).text := by
      change "+00:00" = (Zone.numeric true 0 0).text
      decide
    rw [hzero, readAll_offset_numeric]
    rfl
  | numeric ahead hour minute => exact readAll_offset_numeric ahead hour minute

/-- The pattern of a date and a time, with `tail` behind the minutes. -/
def timePattern (tail : List Item) : List Item :=
  dateItems ++ literal 'T' :: (minuteItems ++ tail)

section Time

variable (y : Fin 10000) (m d hour minute : Fin 100) (seconds : Seconds) (zone : Zone)

/-- A date and a time up to the minutes, with `rest` behind. -/
def timeChars (rest : List Char) : List Char :=
  (dateText y m d).toList ++ 'T' :: ((minuteText hour minute).toList ++ rest)

/-- The groups of two digits are those of some day and time. -/
def InBounds : Prop :=
  ((1 ≤ m.val ∧ m.val ≤ 12) ∧ 1 ≤ d.val ∧ d.val ≤ 31) ∧ hour.val < 24 ∧ minute.val < 60

instance : Decidable (InBounds m d hour minute) :=
  inferInstanceAs (Decidable (_ ∧ _))

theorem instant?_timePattern (tail : List Item) (rest : List Char) :
    instant? (timeChars y m d hour minute rest) (timePattern tail) =
      if InBounds m d hour minute then
        (readAll tail { year := y, month := m, day := d, hour := hour, minute := minute } rest).bind
          Fields.toInstant?
      else none := by
  rw [instant?, timeChars, timePattern, readAll_date]
  by_cases hdate : (1 ≤ m.val ∧ m.val ≤ 12) ∧ 1 ≤ d.val ∧ d.val ≤ 31
  · rw [if_pos hdate, readAll_literal, readAll_minute]
    by_cases htime : hour.val < 24 ∧ minute.val < 60
    · rw [if_pos htime, if_pos ⟨hdate, htime⟩]
    · rw [if_neg htime, if_neg fun hboth => htime hboth.2]
      rfl
  · rw [if_neg hdate, if_neg fun hboth => hdate hboth.1]
    rfl

/-- No time behind the letter T is read by a pattern with blanks in its place. -/
theorem instant?_blanks (tail : List Item) (rest : List Char) :
    instant? (timeChars y m d hour minute rest) (dateItems ++ blanks :: .hour :: tail) = none := by
  rw [instant?, timeChars, readAll_date]
  split
  · rfl
  · rfl

end Time

end Item

end Recrawl.Time
