import Mathlib.Data.List.TakeDrop
import Recrawl.Proofs.Text.Trimming
import Recrawl.Proofs.Time.Written

/-!
The instant of a W3C date. A text in one of the profiles denotes the instant that its groups of
digits spell, by the one pattern that reads it as a whole or as a date alone, and denotes nothing
where a group is out of range.
-/

namespace Recrawl.Time

open W3c

namespace W3c

theorem Seconds.eq_absent {seconds : Seconds} (h : seconds.isWritten = false) :
    seconds = absent := by
  cases seconds with
  | absent => rfl
  | whole | split => cases h

theorem Seconds.toList_text {seconds : Seconds} (h : seconds.isWritten = true) :
    ∃ rest, seconds.text.toList = ':' :: rest := by
  cases seconds with
  | absent => cases h
  | whole second => exact ⟨_, by rw [text, String.toList_append]; rfl⟩
  | split second more fraction => exact ⟨_, by simp [text, String.toList_append]; rfl⟩

theorem Zone.eq_absent {zone : Zone} (h : zone.isWritten = false) : zone = absent := by
  cases zone with
  | absent => rfl
  | utc | numeric => cases h

theorem Zone.toList_text {zone : Zone} (h : zone.isWritten = true) :
    ∃ c rest, zone.text.toList = c :: rest ∧ c ∈ ['Z', 'z', '+', '-'] := by
  cases zone with
  | absent => cases h
  | utc capital => cases capital <;> exact ⟨_, _, rfl, by decide⟩
  | numeric ahead hour minute =>
    cases ahead
    · refine ⟨'-', _, by simp [text, String.toList_append]; rfl, by decide⟩
    · refine ⟨'+', _, by simp [text, String.toList_append]; rfl, by decide⟩

end W3c

namespace Item

theorem endsSeconds_text (zone : Zone) : EndsSeconds zone.text.toList := by
  intro c hc
  cases hwritten : zone.isWritten with
  | false =>
    obtain rfl := Zone.eq_absent hwritten
    cases hc
  | true =>
    obtain ⟨first, rest, hchars, hfirst⟩ := Zone.toList_text hwritten
    rw [hchars] at hc
    obtain rfl : first = c := by simpa using hc
    revert hfirst
    simp only [List.mem_cons, List.not_mem_nil, or_false]
    rintro (rfl | rfl | rfl | rfl) <;> decide

theorem endsSeconds_spelled (zone : Zone) : EndsSeconds zone.spelled.toList := by
  cases zone with
  | absent => exact endsSeconds_text .absent
  | utc capital =>
    simp [EndsSeconds, Zone.spelled]
  | numeric ahead hour minute => exact endsSeconds_text (.numeric ahead hour minute)

/-- A pattern may end where there is no zone. -/
theorem readAll_end (f : Fields) (zone : Zone) :
    readAll [] f zone.text.toList = if zone.isWritten then none else some f := by
  cases hwritten : zone.isWritten with
  | false =>
    obtain rfl := Zone.eq_absent hwritten
    rfl
  | true =>
    obtain ⟨c, rest, hchars, -⟩ := Zone.toList_text hwritten
    rw [hchars]
    rfl

/-- The first of three patterns that reads something. -/
theorem findSome?_three (read : List Item → Option Instant) (first second third : List Item) :
    [first, second, third].findSome? read =
      (read first).or ((read second).or (read third)) := by
  simp only [List.findSome?_cons, List.findSome?_nil]
  cases read first <;> cases read second <;> cases read third <;> rfl

section Time

variable (y : Fin 10000) (m d hour minute : Fin 100) (seconds : Seconds) (zone : Zone)

/-- Out of bounds the groups denote nothing. -/
theorem toInstant?_of_not_inBounds (h : ¬ InBounds m d hour minute) :
    (Written.time y m d hour minute seconds zone).fields.toInstant? = none := by
  refine Fields.toInstant?_eq_none fun hrange => h ?_
  obtain ⟨hvalid, hhour, hminute⟩ := hrange
  obtain ⟨hm, hm', hd, hd'⟩ := Date.bounds_of_isValid hvalid
  exact ⟨⟨⟨hm, hm'⟩, hd, hd'⟩, hhour, hminute⟩

/-- A time with a zone is read by one of the patterns with an offset, one without by none. -/
theorem findSome?_offsetPatterns :
    offsetPatterns.findSome? (instant?
        (timeChars y m d hour minute (seconds.text.toList ++ zone.spelled.toList))) =
      if zone.isWritten then (Written.time y m d hour minute seconds zone).fields.toInstant?
      else none := by
  have hpatterns : offsetPatterns =
      [timePattern (literal ':' :: .second :: .fraction :: [.offset]), timePattern [.offset],
        dateItems ++ blanks :: .hour ::
          [literal ':', .minute, literal ':', .second, .fraction, .offset]] := rfl
  rw [hpatterns, findSome?_three, instant?_blanks, Option.or_none]
  simp only [instant?_timePattern]
  by_cases hbounds : InBounds m d hour minute
  · simp only [if_pos hbounds, readAll_seconds seconds (endsSeconds_spelled zone), readAll_offset]
    cases hseconds : seconds.isWritten with
    | true =>
      obtain ⟨rest, hchars⟩ := Seconds.toList_text hseconds
      have hcolon : ∀ f more, readAll [.offset] f (':' :: more) = none := fun _ _ => rfl
      rw [hchars, List.cons_append, hcolon]
      cases zone.isWritten <;> simp [Written.fields]
    | false =>
      obtain rfl := Seconds.eq_absent hseconds
      have hempty : Seconds.absent.text.toList = [] := rfl
      rw [hempty, List.nil_append, readAll_offset]
      cases zone.isWritten <;> simp [Written.fields, Seconds.second, Seconds.nano]
  · simp only [if_neg hbounds, toInstant?_of_not_inBounds y m d hour minute seconds zone hbounds,
      ite_self, Option.or_none]

/-- A time without a zone is read by one of the patterns without an offset, one with a zone by
none. -/
theorem findSome?_plainPatterns :
    plainPatterns.findSome? (instant?
        (timeChars y m d hour minute (seconds.text.toList ++ zone.text.toList))) =
      if zone.isWritten then none
      else (Written.time y m d hour minute seconds zone).fields.toInstant? := by
  have hpatterns : plainPatterns =
      [timePattern (literal ':' :: .second :: .fraction :: []), timePattern [],
        dateItems ++ blanks :: .hour :: [literal ':', .minute, literal ':', .second]] := rfl
  rw [hpatterns, findSome?_three, instant?_blanks, Option.or_none]
  simp only [instant?_timePattern]
  by_cases hbounds : InBounds m d hour minute
  · simp only [if_pos hbounds, readAll_seconds seconds (endsSeconds_text zone)]
    cases hseconds : seconds.isWritten with
    | true =>
      obtain ⟨rest, hchars⟩ := Seconds.toList_text hseconds
      have hcolon : ∀ f more, readAll [] f (':' :: more) = none := fun _ _ => rfl
      rw [hchars, List.cons_append, hcolon]
      simp only [readAll_end]
      cases hzone : zone.isWritten with
      | true => simp
      | false =>
        obtain rfl := Zone.eq_absent hzone
        simp [Written.fields, Zone.offset]
    | false =>
      obtain rfl := Seconds.eq_absent hseconds
      have hempty : Seconds.absent.text.toList = [] := rfl
      rw [hempty, List.nil_append]
      simp only [readAll_end]
      cases hzone : zone.isWritten with
      | true => simp
      | false =>
        obtain rfl := Zone.eq_absent hzone
        simp [Written.fields, Zone.offset, Seconds.second, Seconds.nano]
  · simp only [if_neg hbounds, toInstant?_of_not_inBounds y m d hour minute seconds zone hbounds,
      ite_self, Option.or_none]

end Time

/-- Every pattern goes on behind the date. -/
theorem exists_eq_dateItems_append {pattern : List Item}
    (h : pattern ∈ offsetPatterns ++ plainPatterns) :
    ∃ items, pattern = dateItems ++ items ∧ ∀ f, readAll items f [] = none := by
  simp only [offsetPatterns, plainPatterns, List.cons_append, List.nil_append, List.mem_cons,
    List.not_mem_nil, or_false] at h
  rcases h with rfl | rfl | rfl | rfl | rfl | rfl <;> exact ⟨_, rfl, fun _ => rfl⟩

theorem instant?_of_date {w : Written} (hdate : w.isDate) {pattern : List Item}
    (h : pattern ∈ offsetPatterns ++ plainPatterns) : instant? w.text.toList pattern = none := by
  obtain ⟨items, rfl, hitems⟩ := exists_eq_dateItems_append h
  have hnil : ([] : List Char).head? ≠ some '-' := nofun
  cases w with
  | year y =>
    have hchars : (Written.year y).text.toList = (padded 4 y).toList ++ [] :=
      (List.append_nil _).symm
    rw [instant?, hchars, dateItems, List.cons_append, readAll_year, List.cons_append,
      readAll_literal_of_ne hnil]
    rfl
  | month y m =>
    have hchars : (Written.month y m).text.toList =
        (padded 4 y).toList ++ '-' :: ((padded 2 m).toList ++ []) := by
      simp [Written.text, String.toList_append]
    rw [instant?, hchars, dateItems, List.cons_append, readAll_year, List.cons_append,
      readAll_literal, List.cons_append, readAll_number rfl m.isLt, List.cons_append,
      readAll_literal_of_ne hnil, ite_self]
    rfl
  | day y m d =>
    have hchars : (Written.day y m d).text.toList = (dateText y m d).toList ++ [] :=
      (List.append_nil _).symm
    rw [instant?, hchars, readAll_date, hitems, ite_self]
    rfl
  | time => cases hdate

end Item

section Hyphens

variable {first second rest : List Char}

theorem span_hyphen (h : '-' ∉ first) (hrest : ∀ c ∈ rest.head?, c = '-') :
    (first ++ rest).span (· != '-') = (first, rest) := by
  have hkeep : ∀ c ∈ first, (c != '-') = true := by
    intro c hc
    rw [bne_iff_ne]
    rintro rfl
    exact h hc
  rw [List.span_eq_takeWhile_dropWhile, List.takeWhile_append_of_pos hkeep,
    List.dropWhile_append_of_pos hkeep]
  cases rest with
  | nil => simp
  | cons c rest =>
    obtain rfl := hrest c rfl
    simp

theorem splitAtHyphens_one (h : '-' ∉ first) : splitAtHyphens first = [first] := by
  have hspan : (first ++ []).span (· != '-') = (first, []) := span_hyphen h nofun
  rw [List.append_nil] at hspan
  rw [splitAtHyphens, hspan]

theorem splitAtHyphens_two (h : '-' ∉ first) (h' : '-' ∉ second) :
    splitAtHyphens (first ++ '-' :: second) = [first, second] := by
  have hspan : (second ++ []).span (· != '-') = (second, []) := span_hyphen h' nofun
  rw [List.append_nil] at hspan
  rw [splitAtHyphens, span_hyphen h (by simp)]
  simp only [hspan]

theorem splitAtHyphens_three (h : '-' ∉ first) (h' : '-' ∉ second) :
    splitAtHyphens (first ++ '-' :: (second ++ '-' :: rest)) = [first, second, rest] := by
  have hspan : (second ++ '-' :: rest).span (· != '-') = (second, '-' :: rest) :=
    span_hyphen h' (by simp)
  rw [splitAtHyphens, span_hyphen h (by simp)]
  simp only [hspan]

end Hyphens

theorem not_mem_padded {c : Char} (h : c.isDigit = false) (width n : Nat) :
    c ∉ (padded width n).toList := by
  intro hc
  rw [isDigit_of_mem_padded hc] at h
  cases h

theorem spellsNat_padded (width n : Nat) : Text.SpellsNat (padded width n).toList n :=
  ⟨padded_ne_nil width n, fun _ hc => isDigit_of_mem_padded hc, ofDigitChars_padded width n⟩

/-- A number of two digits or one that is not written, which is the first. -/
theorem toOption_readUInt32_padded (n : Fin 100) :
    (Text.readUInt32 (padded 2 n).toList).toOption = some n.val := by
  have hread : Text.readUInt32 (padded 2 n).toList = .ok n.val :=
    Text.readNat_eq_ok_iff.mpr ⟨.inl (spellsNat_padded 2 n), by omega⟩
  rw [hread]
  rfl

theorem partialYear?_padded (year : Fin 10000) :
    partialYear? (padded 4 year).toList = some (year.val : Int) := by
  have hread : Text.readInt64 (padded 4 year).toList = .ok (year.val : Int) :=
    Text.readInt64_eq_ok_iff.mpr ⟨.unsigned (spellsNat_padded 4 year), by omega, by omega⟩
  rw [partialYear?, hread]
  exact if_pos (by omega)

/-- Digits take one byte each. -/
theorem sum_utf8Size_padded (year : Fin 10000) :
    ((padded 4 year).toList.map Char.utf8Size).foldl (· + ·) 0 = 4 := by
  have hlength : (padded 4 year).toList.length = 4 := length_padded (by decide) year.isLt
  have hsize : (padded 4 year).toList.map Char.utf8Size = List.replicate 4 1 := by
    rw [List.map_eq_replicate_iff.mpr, hlength]
    intro c hc
    have hrange := Char.isDigit_iff_toNat.mp (isDigit_of_mem_padded hc)
    exact Char.utf8Size_eq_one_iff.mpr (UInt32.le_iff_toNat_le.mpr (Nat.le_trans hrange.2 (by decide)))
  rw [hsize]
  rfl

/-- The month or the day of a partial date, the first one if it is not written. -/
def partialNumber? : Option (List Char) → Option Nat
  | some text => (Text.readUInt32 text).toOption
  | none => some 1

theorem partialDate?_of_split {chars : List Char} {year : Fin 10000} {parts : List (List Char)}
    (h : splitAtHyphens chars = (padded 4 year).toList :: parts) :
    partialDate? chars =
      (partialNumber? parts[0]?).bind fun month =>
        (partialNumber? parts[1]?).bind fun day => Date.of? year month day := by
  simp only [partialDate?, h, sum_utf8Size_padded, partialYear?_padded]
  cases parts[0]? <;> cases parts[1]? <;> rfl

namespace W3c

/-- The first date that the text of a date spells, if there is such a day. -/
theorem partialDate?_of_date {w : Written} (hdate : w.isDate) :
    partialDate? w.text.toList = Date.of? w.fields.year w.fields.month w.fields.day := by
  have hhyphen := not_mem_padded (c := '-') rfl
  cases w with
  | year y =>
    rw [Written.text, partialDate?_of_split (splitAtHyphens_one (hhyphen 4 y))]
    rfl
  | month y m =>
    have hchars : (Written.month y m).text.toList =
        (padded 4 y).toList ++ '-' :: (padded 2 m).toList := by
      simp [Written.text, String.toList_append]
    rw [hchars, partialDate?_of_split (splitAtHyphens_two (hhyphen 4 y) (hhyphen 2 m))]
    simp only [List.getElem?_cons_zero, partialNumber?, toOption_readUInt32_padded]
    rfl
  | day y m d =>
    have hchars : (Written.day y m d).text.toList =
        (padded 4 y).toList ++ '-' :: ((padded 2 m).toList ++ '-' :: (padded 2 d).toList) := by
      simp [Written.text, dateText, String.toList_append]
    rw [hchars, partialDate?_of_split (splitAtHyphens_three (hhyphen 4 y) (hhyphen 2 m))]
    simp only [List.getElem?_cons_zero, List.getElem?_cons_succ, partialNumber?,
      toOption_readUInt32_padded]
    rfl
  | time => cases hdate

/-- Behind the day of a date alone there is no time. -/
theorem partialDate?_timeChars (y : Fin 10000) (m d hour minute : Fin 100) (rest : List Char) :
    partialDate? (Item.timeChars y m d hour minute rest) = none := by
  have hhyphen := not_mem_padded (c := '-') rfl
  have hchars : Item.timeChars y m d hour minute rest = (padded 4 y).toList ++
      '-' :: ((padded 2 m).toList ++ '-' :: ((padded 2 d).toList ++
        'T' :: ((minuteText hour minute).toList ++ rest))) := by
    simp [Item.timeChars, dateText, String.toList_append]
  have hday : (Text.readUInt32 ((padded 2 d).toList ++
      'T' :: ((minuteText hour minute).toList ++ rest))).toOption = none :=
    Text.toOption_readNat_of_mem (c := 'T') (by simp) (by decide) (by decide)
  rw [hchars, partialDate?_of_split (splitAtHyphens_three (hhyphen 4 y) (hhyphen 2 m))]
  simp only [List.getElem?_cons_zero, List.getElem?_cons_succ, partialNumber?,
    toOption_readUInt32_padded, hday]
  rfl

end W3c

/-- Names of weekdays have no digits. -/
theorem weekday_of_isDigit {a b c : Char} (ha : a.isDigit = true) (rest : List Char) :
    Read.weekday (a :: b :: c :: rest) = none := by
  have hnames : ∀ day ∈ Weekday.all,
      (day.shortName.toLower.toList.head?).all (fun first => !first.isDigit) = true := by
    decide +kernel
  have hlower : a.toLower = a := by
    have hhigh : a.toNat ≤ 57 := (Char.isDigit_iff_toNat.mp ha).2
    refine dif_neg fun hupper => ?_
    have hlow : 65 ≤ a.toNat := UInt32.le_iff_toNat_le.mp hupper.1
    omega
  have hnone : Weekday.all.find? (fun day => day.shortName.toLower ==
      String.ofList [a.toLower, b.toLower, c.toLower]) = none := by
    refine List.find?_eq_none.mpr fun day hday hname => ?_
    have hfirst := hnames day hday
    rw [beq_iff_eq.mp hname, String.toList_ofList, hlower] at hfirst
    simp [ha] at hfirst
  simp only [Read.weekday, Read.threeLetters]
  rw [Option.bind_eq_bind, Option.bind_some, hnone]
  rfl

/-- No weekday and no day of a month has three digits. -/
theorem readRfc2822_of_isDigit {a b c : Char} (ha : a.isDigit = true) (hb : b.isDigit = true)
    (hc : c.isDigit = true) (rest : List Char) : readRfc2822 (a :: b :: c :: rest) = none := by
  have htrim : Text.trimStart (a :: b :: c :: rest) = a :: b :: c :: rest := by
    rw [Text.trimStart, List.dropWhile_cons_of_neg (by simp [Text.isBlank_of_isDigit ha])]
  have hday : ∀ result, Read.bounded 1 2 1 31 (a :: b :: c :: rest) = some result →
      result.2 = c :: rest := by
    intro result hresult
    simp only [Read.bounded, Read.number, Read.moreDigits, Read.digit?_of_isDigit ha,
      Read.digit?_of_isDigit hb] at hresult
    rw [if_pos (by decide)] at hresult
    simp only at hresult
    split at hresult
    · cases hresult
      rfl
    · cases hresult
  have hblanks : Read.blanks (c :: rest) = none := by
    simp [Read.blanks, Text.isBlank_of_isDigit hc]
  rw [readRfc2822, htrim]
  dsimp only
  rw [weekday_of_isDigit ha]
  dsimp only
  rw [Option.bind_eq_bind, Option.bind_some, htrim, Option.bind_eq_bind]
  cases hresult : Read.bounded 1 2 1 31 (a :: b :: c :: rest) with
  | none => rfl
  | some result =>
    rw [Option.bind_some, hday result hresult, hblanks]
    rfl

/-- A year of four digits is no beginning of an RFC 2822 date. -/
theorem parseRfc2822?_padded (year : Fin 10000) (rest : List Char) :
    parseRfc2822? ((padded 4 year).toList ++ rest) = none := by
  have hdigits (c : Char) (hc : c ∈ (padded 4 year).toList) := isDigit_of_mem_padded hc
  have hlength : (padded 4 year).toList.length = 4 := length_padded (by decide) year.isLt
  match hchars : (padded 4 year).toList, hlength with
  | a :: b :: c :: d :: [], _ =>
    rw [hchars] at hdigits
    rw [List.cons_append, List.cons_append, List.cons_append, parseRfc2822?,
      readRfc2822_of_isDigit (hdigits a (by simp)) (hdigits b (by simp)) (hdigits c (by simp))]

theorem spellOffset_of_isDigit (front : List Char) (width n : Nat) :
    spellOffset (front ++ (padded width n).toList) = front ++ (padded width n).toList := by
  have hne := padded_ne_nil width n
  have hlast := isDigit_of_mem_padded (List.getLast_mem hne)
  rw [← List.dropLast_append_getLast hne, ← List.append_assoc]
  generalize (padded width n).toList.getLast hne = last at hlast
  rw [spellOffset, List.reverse_append, List.reverse_singleton, List.singleton_append]
  split
  · rename_i hcapital
    cases hcapital
    cases hlast
  · rename_i hsmall
    cases hsmall
    cases hlast
  · rfl

namespace W3c

/-- A time ends with a number, with or without seconds. -/
theorem exists_timeChars_eq_append (y : Fin 10000) (m d hour minute : Fin 100)
    (seconds : Seconds) : ∃ front width n,
      Item.timeChars y m d hour minute seconds.text.toList = front ++ (padded width n).toList := by
  cases seconds with
  | absent =>
    refine ⟨(dateText y m d).toList ++ 'T' :: ((padded 2 hour).toList ++ [':']), 2, minute, ?_⟩
    simp [Item.timeChars, minuteText, Seconds.text, String.toList_append]
  | whole second =>
    refine ⟨Item.timeChars y m d hour minute [':'], 2, second, ?_⟩
    simp [Item.timeChars, Seconds.text, String.toList_append]
  | split second more fraction =>
    refine ⟨Item.timeChars y m d hour minute (':' :: ((padded 2 second).toList ++ ['.'])),
      more + 1, fraction, ?_⟩
    simp [Item.timeChars, Seconds.text, String.toList_append]

theorem timeChars_append (y : Fin 10000) (m d hour minute : Fin 100) (front rest : List Char) :
    Item.timeChars y m d hour minute (front ++ rest) =
      Item.timeChars y m d hour minute front ++ rest := by
  simp [Item.timeChars]

/-- The letter of a zone is spelled out, and nothing else changes. -/
theorem spellOffset_timeChars (y : Fin 10000) (m d hour minute : Fin 100) (seconds : Seconds)
    (zone : Zone) :
    spellOffset (Item.timeChars y m d hour minute (seconds.text.toList ++ zone.text.toList)) =
      Item.timeChars y m d hour minute (seconds.text.toList ++ zone.spelled.toList) := by
  rw [timeChars_append, timeChars_append]
  cases zone with
  | absent =>
    obtain ⟨front, width, n, hchars⟩ := exists_timeChars_eq_append y m d hour minute seconds
    have hempty : Zone.absent.text.toList = [] := rfl
    have hempty' : Zone.absent.spelled.toList = [] := rfl
    rw [hempty, hempty', List.append_nil, hchars, spellOffset_of_isDigit]
  | utc capital =>
    cases capital with
    | true => simp [spellOffset, Zone.text, Zone.spelled]
    | false => simp [spellOffset, Zone.text, Zone.spelled]
  | numeric ahead zoneHour zoneMinute =>
    have hchars : (Zone.numeric ahead zoneHour zoneMinute).text.toList =
        ((if ahead then '+' else '-') :: ((padded 2 zoneHour).toList ++ [':'])) ++
          (padded 2 zoneMinute).toList := by
      cases ahead <;> simp [Zone.text, String.toList_append]
    have hspelled : (Zone.numeric ahead zoneHour zoneMinute).spelled =
        (Zone.numeric ahead zoneHour zoneMinute).text := rfl
    rw [hspelled, hchars, ← List.append_assoc, spellOffset_of_isDigit]

/-- A profile has no blanks. -/
def Solid (text : String) : Prop :=
  ∀ c ∈ text.toList, Text.isBlank c = false

instance (text : String) : Decidable (Solid text) :=
  List.decidableBAll (fun c => Text.isBlank c = false) text.toList

theorem solid_append {front back : String} :
    Solid (front ++ back) ↔ Solid front ∧ Solid back := by
  simp only [Solid, String.toList_append, List.mem_append, or_imp, forall_and]

theorem solid_padded (width n : Nat) : Solid (padded width n) :=
  fun _ hc => Text.isBlank_of_isDigit (isDigit_of_mem_padded hc)

theorem solid_mark : ∀ mark ∈ ["", "-", "T", ":", ".", "+", "Z", "z"], Solid mark := by
  decide

theorem Seconds.solid_text (seconds : Seconds) : Solid seconds.text := by
  cases seconds with
  | absent => exact solid_mark _ (by decide)
  | whole second =>
    simp only [text, solid_append, solid_padded, and_true]
    exact solid_mark _ (by decide)
  | split second more fraction =>
    simp only [text, solid_append, solid_padded, and_true]
    exact ⟨solid_mark _ (by decide), solid_mark _ (by decide)⟩

theorem Zone.solid_text (zone : Zone) : Solid zone.text := by
  cases zone with
  | absent => exact solid_mark _ (by decide)
  | utc capital => cases capital <;> exact solid_mark _ (by decide)
  | numeric ahead hour minute =>
    simp only [text, solid_append, solid_padded, and_true]
    cases ahead <;> exact ⟨solid_mark _ (by decide), solid_mark _ (by decide)⟩

theorem Written.solid_text (w : Written) : Solid w.text := by
  have hhyphen : Solid "-" := solid_mark _ (by decide)
  cases w with
  | year y => exact solid_padded 4 y
  | month y m => simp only [text, solid_append, solid_padded, hhyphen, and_self]
  | day y m d => simp only [text, dateText, solid_append, solid_padded, hhyphen, and_self]
  | time y m d hour minute seconds zone =>
    simp only [text, dateText, minuteText, solid_append, solid_padded, hhyphen, seconds.solid_text,
      zone.solid_text, true_and, and_true]
    exact ⟨solid_mark _ (by decide), solid_mark _ (by decide)⟩

/-- Profiles begin with the four digits of a year. -/
theorem Written.exists_text_eq_cons (w : Written) :
    ∃ (year : Fin 10000) (rest : List Char), w.text.toList = (padded 4 year).toList ++ rest := by
  cases w with
  | year y => exact ⟨y, [], (List.append_nil _).symm⟩
  | month y m => exact ⟨y, _, by simp [text, String.toList_append]; rfl⟩
  | day y m d => exact ⟨y, _, by simp [text, dateText, String.toList_append]; rfl⟩
  | time y m d hour minute seconds zone =>
    exact ⟨y, _, by simp [text, dateText, String.toList_append]; rfl⟩

theorem Written.exists_text_eq_append {w : Written} (hdate : w.isDate) :
    ∃ front width n, w.text.toList = front ++ (padded width n).toList := by
  cases w with
  | year y => exact ⟨[], 4, y, rfl⟩
  | month y m => exact ⟨(padded 4 y ++ "-").toList, 2, m, String.toList_append⟩
  | day y m d =>
    exact ⟨(padded 4 y ++ "-" ++ padded 2 m ++ "-").toList, 2, d, String.toList_append⟩
  | time => cases hdate

/-- A text that no pattern reads falls back on a partial date, and without one on an RFC 2822
date. -/
theorem parseW3c?_of_unread {text : String} {chars : List Char}
    (h : Text.trimChars text.toList = chars) (hne : chars ≠ []) (hspelled : spellOffset chars = chars)
    (hunread : ∀ pattern ∈ Item.offsetPatterns ++ Item.plainPatterns,
      Item.instant? chars pattern = none) :
    (∀ date, partialDate? chars = some date → parseW3c? text = Instant.ofDate? date) ∧
      (partialDate? chars = none → parseW3c? text = parseRfc2822? chars) := by
  have hoffset : Item.offsetPatterns.findSome? (Item.instant? chars) = none :=
    List.findSome?_eq_none_iff.mpr fun pattern hpattern =>
      hunread pattern (List.mem_append_left _ hpattern)
  have hplain : Item.plainPatterns.findSome? (Item.instant? chars) = none :=
    List.findSome?_eq_none_iff.mpr fun pattern hpattern =>
      hunread pattern (List.mem_append_right _ hpattern)
  have hcons : chars.isEmpty = false := by simpa using hne
  constructor
  · intro date hdate
    simp [parseW3c?, h, hcons, hspelled, hoffset, hplain, hdate]
  · intro hdate
    simp [parseW3c?, h, hcons, hspelled, hoffset, hplain, hdate]

theorem parseW3c?_of_date {text : String} {w : Written} (hdate : w.isDate)
    (h : Text.trimChars text.toList = w.text.toList) : parseW3c? text = w.fields.toInstant? := by
  obtain ⟨year, rest, hchars⟩ := w.exists_text_eq_cons
  have hne : w.text.toList ≠ [] := by
    rw [hchars]
    exact fun hnil => padded_ne_nil 4 year (List.append_eq_nil_iff.mp hnil).1
  obtain ⟨front, width, n, hend⟩ := Written.exists_text_eq_append hdate
  have hspelled : spellOffset w.text.toList = w.text.toList := by
    rw [hend, spellOffset_of_isDigit]
  have hfields : w.fields.toInstant? =
      (Date.of? w.fields.year w.fields.month w.fields.day).bind Instant.ofDate? := by
    rw [← Fields.toInstant?_of_date]
    cases w with
    | year | month | day => rfl
    | time => cases hdate
  obtain ⟨hsome, hnone⟩ :=
    parseW3c?_of_unread h hne hspelled fun _ hpattern => Item.instant?_of_date hdate hpattern
  rw [partialDate?_of_date hdate] at hsome hnone
  rw [hfields]
  cases hfound : Date.of? w.fields.year w.fields.month w.fields.day with
  | none => rw [hnone hfound, hchars, parseRfc2822?_padded, Option.bind_none]
  | some date => rw [hsome date hfound, Option.bind_some]

theorem parseW3c?_of_time {text : String} {y : Fin 10000} {m d hour minute : Fin 100}
    {seconds : Seconds} {zone : Zone}
    (h : Text.trimChars text.toList =
      (Written.time y m d hour minute seconds zone).text.toList) :
    parseW3c? text = (Written.time y m d hour minute seconds zone).fields.toInstant? := by
  obtain ⟨year, rest, hyear⟩ := (Written.time y m d hour minute seconds zone).exists_text_eq_cons
  have hnone : parseRfc2822? (Written.time y m d hour minute seconds zone).text.toList = none := by
    rw [hyear, parseRfc2822?_padded]
  have hchars : (Written.time y m d hour minute seconds zone).text.toList =
      Item.timeChars y m d hour minute (seconds.text.toList ++ zone.text.toList) := by
    simp [Written.text, Item.timeChars, String.toList_append]
  rw [hchars] at h hnone
  have hcons : (Item.timeChars y m d hour minute
      (seconds.text.toList ++ zone.text.toList)).isEmpty = false := by
    simp [Item.timeChars]
  simp only [parseW3c?, h, hcons, spellOffset_timeChars, Item.findSome?_offsetPatterns,
    Item.findSome?_plainPatterns, partialDate?_timeChars, hnone]
  cases zone.isWritten <;> simp

/-- Blanks around a text change nothing. -/
theorem trimChars_surrounded {before after : String}
    (hbefore : ∀ c ∈ before.toList, Text.isBlank c = true)
    (hafter : ∀ c ∈ after.toList, Text.isBlank c = true) (w : Written) :
    Text.trimChars (before ++ w.text ++ after).toList = w.text.toList := by
  rw [String.toList_append, String.toList_append, Text.trimChars_eq_between,
    Text.between_append hbefore hafter, ← Text.trimChars_eq_between,
    Text.trimChars_eq_self w.solid_text]

theorem Zone.offset_lt (zone : Zone) : zone.offset.natAbs < secondsPerDay := by
  cases zone with
  | absent | utc =>
    change (0 : Int).natAbs < secondsPerDay
    decide
  | numeric ahead hour minute =>
    have hhour := hour.isLt
    have hminute := minute.isLt
    simp only [Zone.offset, secondsPerDay]
    split <;> omega

theorem Seconds.nano_lt (seconds : Seconds) : seconds.nano < nanosPerSecond := by
  cases seconds with
  | absent | whole =>
    change 0 < nanosPerSecond
    decide
  | split second more fraction =>
    have hwidth : more.val + 1 + (8 - more.val) = 9 := by omega
    calc fraction.val * Nat.pow 10 (8 - more.val)
      _ < Nat.pow 10 (more.val + 1) * Nat.pow 10 (8 - more.val) :=
        Nat.mul_lt_mul_of_pos_right fraction.isLt (Nat.pow_pos (by decide))
      _ = nanosPerSecond := by
        rw [Nat.pow_eq, Nat.pow_eq, ← Nat.pow_add, hwidth]
        rfl

theorem Seconds.second_lt (seconds : Seconds) : seconds.second < 60 := by
  cases seconds with
  | absent => decide
  | whole second => exact second.isLt
  | split second more fraction => exact second.isLt

/-- A profile in range denotes an instant: its year is representable with days to spare, and its
seconds and its zone are in range as they are written. -/
theorem Written.toInstant?_of_inRange {w : Written} (h : w.fields.InRange) :
    ∃ i, w.fields.toInstant? = some i ∧
      i.epochSecond = w.fields.date.dayNumber * secondsPerDay + w.fields.clock - w.fields.offset ∧
      i.nano = w.fields.nano := by
  have hyear : Date.minYear < w.fields.year ∧ w.fields.year < Date.maxYear := by
    obtain ⟨year, hyear⟩ : ∃ year : Fin 10000, w.fields.year = year.val := by
      cases w <;> exact ⟨_, rfl⟩
    simp only [hyear, Date.minYear, Date.maxYear]
    omega
  have hweekday : ∀ day ∈ w.fields.weekday, day = Weekday.ofDayNumber w.fields.date.dayNumber := by
    cases w <;> nofun
  have hsecond : w.fields.second < 60 := by
    cases w with
    | year | month | day => exact Nat.zero_lt_succ _
    | time _ _ _ _ _ seconds _ => exact seconds.second_lt
  have hnano : w.fields.nano < nanosPerSecond := by
    cases w with
    | year | month | day => exact Nat.zero_lt_succ _
    | time _ _ _ _ _ seconds _ => exact seconds.nano_lt
  have hoffset : w.fields.offset.natAbs < secondsPerDay := by
    cases w with
    | year | month | day => exact Nat.zero_lt_succ _
    | time _ _ _ _ _ _ zone => exact zone.offset_lt
  exact Fields.toInstant?_of_inRange h hyear hsecond hnano hoffset hweekday

end W3c

/-- A text in one of the profiles, with blanks around it or not, denotes the local time that its
digits spell minus its offset, if the month, the day, the hour and the minute are in range, and
nothing if one of them is not. -/
theorem parseW3c?_written (w : W3c.Written) (before after : String)
    (hbefore : ∀ c ∈ before.toList, Text.isBlank c = true)
    (hafter : ∀ c ∈ after.toList, Text.isBlank c = true) :
    let f := w.fields
    let found := parseW3c? (before ++ w.text ++ after)
    (f.InRange → ∃ i, found = some i ∧
      i.epochSecond = f.date.dayNumber * secondsPerDay + f.clock - f.offset ∧ i.nano = f.nano) ∧
    (¬ f.InRange → found = none) := by
  intro f found
  have htrim := W3c.trimChars_surrounded hbefore hafter w
  have hfound : found = f.toInstant? := by
    cases w with
    | year | month | day => exact W3c.parseW3c?_of_date rfl htrim
    | time => exact W3c.parseW3c?_of_time htrim
  rw [hfound]
  exact ⟨W3c.Written.toInstant?_of_inRange, Fields.toInstant?_eq_none⟩

/-- The last evening of a February is the first night of a March further east. -/
theorem parseW3c?_written_leapDay :
    let w : W3c.Written := .time 2024 2 29 23 30 (.split 0 2 ⟨250, by decide⟩) (.numeric false 5 0)
    let v : W3c.Written := .day 2023 2 29
    (∀ c ∈ "\n ".toList, Text.isBlank c = true) ∧ (∀ c ∈ "\t".toList, Text.isBlank c = true) ∧
      w.fields.InRange ∧ ¬ v.fields.InRange ∧
      "\n " ++ w.text ++ "\t" = "\n 2024-02-29T23:30:00.250-05:00\t" ∧
      "\n " ++ v.text ++ "\t" = "\n 2023-02-29\t" ∧
      (∃ i, parseW3c? "\n 2024-02-29T23:30:00.250-05:00\t" = some i ∧
        i.epochSecond = 1709267400 ∧ i.nano = 250000000) ∧
      parseW3c? "\n 2023-02-29\t" = none := by
  intro w v
  have hbefore : ∀ c ∈ "\n ".toList, Text.isBlank c = true := List.all_eq_true.mp rfl
  have hafter : ∀ c ∈ "\t".toList, Text.isBlank c = true := List.all_eq_true.mp rfl
  have hrange : w.fields.InRange := by decide
  have hout : ¬ v.fields.InRange := by decide
  have hw : "\n " ++ w.text ++ "\t" = "\n 2024-02-29T23:30:00.250-05:00\t" := by decide +kernel
  have hv : "\n " ++ v.text ++ "\t" = "\n 2023-02-29\t" := by decide +kernel
  obtain ⟨i, hfound, hepoch, hnano⟩ := (parseW3c?_written w "\n " "\t" hbefore hafter).1 hrange
  have hnone := (parseW3c?_written v "\n " "\t" hbefore hafter).2 hout
  have hclock : w.fields.date.dayNumber * secondsPerDay + w.fields.clock - w.fields.offset =
      1709267400 := by decide
  rw [hw] at hfound
  rw [hv] at hnone
  exact ⟨hbefore, hafter, hrange, hout, hw, hv, ⟨i, hfound, hepoch.trans hclock, hnano⟩, hnone⟩

end Recrawl.Time
