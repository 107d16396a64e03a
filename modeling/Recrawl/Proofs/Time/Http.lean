import Recrawl.Proofs.Time.W3c

/-!
Dates of HTTP headers read back. The form of an instant in a header is no profile of a W3C date,
and as an RFC 2822 date it denotes the second that the instant lies in.
-/

namespace Recrawl.Time

namespace Instant

/-- The instant cut to its second. -/
def wholeSecond (i : Instant) : Instant :=
  { i with nano := 0, nano_lt := Nat.zero_lt_of_lt i.nano_lt }

/-- The instant has a year of four digits and lies outside leap seconds. -/
structure IsPlain (i : Instant) : Prop where
  year_mem : 0 ≤ i.date.year ∧ i.date.year ≤ 9999
  notLeap : i.inLeapSecond = false

theorem nano_div {i : Instant} (h : i.inLeapSecond = false) : i.nano / nanosPerSecond = 0 := by
  rw [inLeapSecond, decide_eq_false_iff_not, Nat.not_le] at h
  exact Nat.div_eq_of_lt h

/-- The fraction of a second is not written. -/
theorem toHttp_wholeSecond {i : Instant} (h : i.inLeapSecond = false) :
    i.wholeSecond.toHttp = i.toHttp := by
  have hclock : i.wholeSecond.clockText = i.clockText := by
    simp only [clockText, clock, wholeSecond, nano_div h, Nat.zero_div]
  simp only [toHttp, hclock]
  rfl

end Instant

section Letter

variable {c : Char} {rest : List Char}

/-- A letter that begins the name of a weekday. -/
def IsInitial (c : Char) : Prop :=
  c ∈ ['M', 'T', 'W', 'F', 'S']

theorem IsInitial.eq_or (h : IsInitial c) : c = 'M' ∨ c = 'T' ∨ c = 'W' ∨ c = 'F' ∨ c = 'S' := by
  simpa [IsInitial] using h

theorem IsInitial.isBlank_eq (h : IsInitial c) : Text.isBlank c = false := by
  obtain rfl | rfl | rfl | rfl | rfl := h.eq_or <;> decide

theorem IsInitial.isDigit_eq (h : IsInitial c) : c.isDigit = false := by
  obtain rfl | rfl | rfl | rfl | rfl := h.eq_or <;> decide

theorem IsInitial.digitValue?_eq (h : IsInitial c) : Text.digitValue? 10 c = none := by
  obtain rfl | rfl | rfl | rfl | rfl := h.eq_or <;> decide

theorem IsInitial.ne {d : Char} (h : IsInitial c) (hd : d ∉ ['M', 'T', 'W', 'F', 'S']) : c ≠ d :=
  fun e => hd (e ▸ h)

theorem readYear_of_isInitial (h : IsInitial c) : Item.readYear (c :: rest) = none := by
  have hnumber : Read.number 1 4 (c :: rest) = none := by
    rw [Read.number, Read.moreDigits_of_endsNumber (Read.endsNumber_cons.mpr h.isDigit_eq)]
    rfl
  unfold Item.readYear
  split
  · rename_i hminus
    exact absurd (List.cons.inj hminus).1 (h.ne (by decide))
  · rename_i hplus
    exact absurd (List.cons.inj hplus).1 (h.ne (by decide))
  · rw [hnumber]
    rfl

/-- Every pattern begins with a year. -/
theorem instant?_of_isInitial (h : IsInitial c) {pattern : List Item}
    (hpattern : pattern ∈ Item.offsetPatterns ++ Item.plainPatterns) :
    Item.instant? (c :: rest) pattern = none := by
  obtain ⟨items, rfl, -⟩ := Item.exists_eq_dateItems_append hpattern
  have htrim : Text.trimStart (c :: rest) = c :: rest :=
    List.dropWhile_cons_of_neg (by simp [h.isBlank_eq])
  rw [Item.instant?, Item.dateItems, List.cons_append, Item.readAll, Item.read, htrim,
    readYear_of_isInitial h]
  rfl

theorem partialYear?_of_isInitial (h : IsInitial c) : partialYear? (c :: rest) = none := by
  have hnat : (Text.readNat 10 (0x8000000000000000 - 1) (c :: rest)).toOption = none :=
    Text.toOption_readNat_of_mem (by simp) (h.ne (by decide)) h.digitValue?_eq
  have hread : ∃ fault, Text.readInt64 (c :: rest) = .error fault := by
    unfold Text.readInt64
    split
    · exact ⟨_, rfl⟩
    · exact ⟨_, rfl⟩
    · exact ⟨_, rfl⟩
    · rename_i hminus
      exact absurd (List.cons.inj hminus).1 (h.ne (by decide))
    · cases hchars : Text.readNat 10 (0x8000000000000000 - 1) (c :: rest) with
      | ok n =>
        rw [hchars] at hnat
        cases hnat
      | error fault => exact ⟨fault, rfl⟩
  obtain ⟨fault, hfault⟩ := hread
  rw [partialYear?, hfault]

/-- Every date alone begins with a year. -/
theorem partialDate?_of_isInitial (h : IsInitial c) : partialDate? (c :: rest) = none := by
  have hkeep : (c :: rest).takeWhile (· != '-') = c :: rest.takeWhile (· != '-') :=
    List.takeWhile_cons_of_pos (bne_iff_ne.mpr (h.ne (by decide)))
  obtain ⟨more, parts, hsplit⟩ : ∃ more parts, splitAtHyphens (c :: rest) = (c :: more) :: parts := by
    rw [splitAtHyphens, List.span_eq_takeWhile_dropWhile, hkeep]
    cases (c :: rest).dropWhile (· != '-') with
    | nil => exact ⟨_, _, rfl⟩
    | cons hyphen behind =>
      simp only
      split <;> exact ⟨_, _, rfl⟩
  simp only [partialDate?, hsplit, partialYear?_of_isInitial h]
  split <;> rfl

end Letter

namespace Read

theorem threeLetters_append {name : List Char} (h : name.length = 3) (rest : List Char) :
    threeLetters (name ++ rest) = some (String.ofList (name.map Char.toLower), rest) := by
  match name, h with
  | [_, _, _], _ => rfl

theorem weekday_shortName (day : Weekday) (rest : List Char) :
    weekday (day.shortName.toList ++ rest) = some (day, rest) := by
  have hlength : day.shortName.toList.length = 3 := by cases day <;> rfl
  have hfound : Weekday.all.find? (fun other => other.shortName.toLower ==
      String.ofList (day.shortName.toList.map Char.toLower)) = some day := by
    cases day <;> decide +kernel
  simp only [weekday, threeLetters_append hlength, Option.bind_eq_bind, Option.bind_some, hfound]

/-- The names of months are read as their numbers. -/
theorem monthName_getD {month : Nat} (h : 1 ≤ month ∧ month ≤ 12) (rest : List Char) :
    monthName ((monthNames.getD (month - 1) "").toList ++ rest) = some (month, rest) := by
  have hnames : ∀ index : Fin 12,
      (monthNames.getD index "").toList.length = 3 ∧
        monthNames.findIdx? (fun other => other.toLower ==
          String.ofList ((monthNames.getD index "").toList.map Char.toLower)) =
            some index.val := by
    decide +kernel
  obtain ⟨hlength, hfound⟩ := hnames ⟨month - 1, by omega⟩
  have hback : month - 1 + 1 = month := by omega
  simp only [monthName, threeLetters_append hlength, Option.bind_eq_bind, Option.bind_some, hfound,
    hback]

theorem zone_gmt : zone "GMT".toList = some (0, []) := by decide +kernel

theorem shortYear_padded {year : Nat} (hyear : year < 10000) {rest : List Char}
    (hrest : EndsNumber rest) :
    shortYear ((padded 4 year).toList ++ rest) = some (year, rest) := by
  have hlength : (padded 4 year).toList.length = 4 := length_padded (by decide) hyear
  have hnumber : number 2 ((padded 4 year).toList ++ rest).length
      ((padded 4 year).toList ++ rest) = some (4, year, rest) :=
    number_padded (by decide) hyear (by decide) (by simp [hlength]) (.inr hrest)
  rw [shortYear, hnumber]
  rfl

theorem blanks_space (rest : List Char) : blanks (' ' :: rest) = some (Text.trimStart rest) := rfl

end Read

namespace Instant

/-- The fields of the HTTP form. -/
def httpFields (i : Instant) : Fields :=
  { year := i.date.year, month := i.date.month, day := i.date.day
    hour := i.second / 3600, minute := i.second / 60 % 60, second := i.second % 60
    weekday := some i.weekday }

theorem toList_toHttp {i : Instant} (h : i.IsPlain) :
    i.toHttp.toList = i.weekday.shortName.toList ++ ',' :: ' ' :: ((padded 2 i.date.day).toList ++
      ' ' :: ((monthNames.getD (i.date.month - 1) "").toList ++
      ' ' :: ((padded 4 i.date.year.toNat).toList ++
      ' ' :: ((padded 2 (i.second / 3600)).toList ++
      ':' :: ((padded 2 (i.second / 60 % 60)).toList ++
      ':' :: ((padded 2 (i.second % 60)).toList ++ ' ' :: "GMT".toList)))))) := by
  simp [toHttp, clockText, clock, yearText, h.year_mem, nano_div h.notLeap, String.toList_append]

/-- The HTTP form is read as an RFC 2822 date up to its end. -/
theorem readRfc2822_toHttp {i : Instant} (h : i.IsPlain) :
    readRfc2822 i.toHttp.toList = some (i.httpFields, []) := by
  obtain ⟨hmonth, hmonth', hday, hday'⟩ : 1 ≤ i.date.month ∧ i.date.month ≤ 12 ∧
      1 ≤ i.date.day ∧ i.date.day ≤ 31 :=
    Date.bounds_of_isValid (Date.isValid_ofDayNumber i.day)
  have hclock : i.second < 86400 := i.second_lt
  have hyear : i.date.year.toNat < 10000 := by
    have := h.year_mem
    omega
  have hyearInt : (i.date.year.toNat : Int) = i.date.year := Int.toNat_of_nonneg h.year_mem.1
  have hweekdayTrim : ∀ rest, Text.trimStart (i.weekday.shortName.toList ++ rest) =
      i.weekday.shortName.toList ++ rest := by
    refine Text.trimStart_append ?_
    cases i.weekday <;> decide
  have hmonthTrim : ∀ rest, Text.trimStart ((monthNames.getD (i.date.month - 1) "").toList ++ rest) =
      (monthNames.getD (i.date.month - 1) "").toList ++ rest := by
    have hnames : ∀ index : Fin 12,
        (monthNames.getD index "").toList.head?.any (!Text.isBlank ·) = true := by decide
    exact Text.trimStart_append (hnames ⟨i.date.month - 1, by omega⟩)
  have hspace : ∀ rest, Text.trimStart (' ' :: rest) = Text.trimStart rest := fun _ => rfl
  have hcolon : ∀ rest, Text.trimStart (':' :: rest) = ':' :: rest := fun _ => rfl
  have hzoneTrim : Text.trimStart "GMT".toList = "GMT".toList := rfl
  have hdayRead : ∀ rest, Read.bounded 1 2 1 31 ((padded 2 i.date.day).toList ++ rest) =
      some (i.date.day, rest) :=
    Read.bounded_padded_of_mem (by decide) (by decide) hday hday'
  have hhour : ∀ rest, Read.bounded 2 2 0 23 ((padded 2 (i.second / 3600)).toList ++ rest) =
      some (i.second / 3600, rest) :=
    Read.bounded_padded_of_mem (by decide) (by decide) (Nat.zero_le _) (by omega)
  have hminute : ∀ rest, Read.bounded 2 2 0 59 ((padded 2 (i.second / 60 % 60)).toList ++ rest) =
      some (i.second / 60 % 60, rest) :=
    Read.bounded_padded_of_mem (by decide) (by decide) (Nat.zero_le _) (by omega)
  have hsecond : ∀ rest, Read.bounded 2 2 0 60 ((padded 2 (i.second % 60)).toList ++ rest) =
      some (i.second % 60, rest) :=
    Read.bounded_padded_of_mem (by decide) (by decide) (Nat.zero_le _) (by omega)
  have hyearRead : ∀ rest, Read.shortYear ((padded 4 i.date.year.toNat).toList ++ ' ' :: rest) =
      some (i.date.year.toNat, ' ' :: rest) :=
    fun rest => Read.shortYear_padded hyear (by simp)
  rw [toList_toHttp h, readRfc2822]
  rw [hweekdayTrim]
  dsimp only
  rw [Read.weekday_shortName]
  dsimp only
  rw [Read.char_self, Option.map_some, Option.bind_eq_bind, Option.bind_some, hspace,
    Item.trimStart_padded, hdayRead, Option.bind_eq_bind, Option.bind_some, Read.blanks_space,
    hmonthTrim, Option.bind_eq_bind, Option.bind_some, Read.monthName_getD ⟨hmonth, hmonth'⟩,
    Option.bind_some, Read.blanks_space, Item.trimStart_padded, Option.bind_some, hyearRead,
    Option.bind_some, Read.blanks_space, Item.trimStart_padded, Option.bind_some, hhour,
    Option.bind_some, hcolon, Read.char_self, Option.bind_some, Item.trimStart_padded, hminute,
    Option.bind_some, hcolon, Read.char_self]
  dsimp only
  rw [hsecond, Option.bind_some, Read.blanks_space, hzoneTrim, Option.bind_some, Read.zone_gmt,
    Option.bind_eq_bind, Option.bind_some, hyearInt]
  rfl

/-- The HTTP form begins with the name of its weekday. -/
theorem exists_toHttp_eq_cons (i : Instant) :
    ∃ c rest, i.toHttp.toList = c :: rest ∧ IsInitial c := by
  obtain ⟨c, more, hname, hinitial⟩ :
      ∃ c more, i.weekday.shortName.toList = c :: more ∧ IsInitial c := by
    unfold IsInitial
    cases i.weekday <;> exact ⟨_, _, rfl, by decide⟩
  simp only [toHttp, String.toList_append, hname, List.cons_append]
  exact ⟨c, _, rfl, hinitial⟩

theorem exists_toHttp_eq_append (i : Instant) : ∃ front, i.toHttp.toList = front ++ ['T'] := by
  have hend : " GMT".toList = " GM".toList ++ ['T'] := rfl
  simp only [toHttp, String.toList_append, hend, ← List.append_assoc]
  exact ⟨_, rfl⟩

/-- The fields of the HTTP form denote the second of the instant. -/
theorem toInstant?_httpFields {i : Instant} (h : i.IsPlain) :
    i.httpFields.toInstant? = some i.wholeSecond := by
  have hclock : i.second < 86400 := i.second_lt
  have hrange : i.httpFields.InRange := by
    refine ⟨Date.isValid_ofDayNumber i.day, ?_, ?_⟩
    · show i.second / 3600 < 24
      omega
    · show i.second / 60 % 60 < 60
      omega
  have hday : i.httpFields.date.dayNumber = i.day := Date.dayNumber_ofDayNumber i.day
  have hweekday : ∀ day ∈ i.httpFields.weekday, day = Weekday.ofDayNumber i.httpFields.date.dayNumber := by
    rw [hday]
    rintro day ⟨⟩
    rfl
  have hyear : Date.minYear < i.httpFields.year ∧ i.httpFields.year < Date.maxYear := by
    have := h.year_mem
    simp only [httpFields, Date.minYear, Date.maxYear]
    omega
  have hsecond : i.httpFields.second < 60 := Nat.mod_lt _ (by decide)
  have hnano : i.httpFields.nano < nanosPerSecond := Nat.zero_lt_succ _
  have hoffset : i.httpFields.offset.natAbs < secondsPerDay := Nat.zero_lt_succ _
  obtain ⟨found, hfound, hepoch, hfraction⟩ :=
    Fields.toInstant?_of_inRange hrange hyear hsecond hnano hoffset hweekday
  rw [hfound]
  congr 1
  refine eq_of_epochSecond_eq ?_ hfraction
  rw [hepoch, hday]
  simp only [Fields.clock, httpFields, epochSecond, wholeSecond]
  omega

theorem parseW3c?_toHttp {i : Instant} (h : i.IsPlain) :
    parseW3c? i.toHttp = some i.wholeSecond := by
  obtain ⟨c, more, hchars, hinitial⟩ := exists_toHttp_eq_cons i
  obtain ⟨front, hend⟩ := exists_toHttp_eq_append i
  have htrim : Text.trimChars i.toHttp.toList = i.toHttp.toList := by
    rw [Text.trimChars_eq_between]
    apply Text.between_eq_self
    · rw [hchars]
      rintro _ ⟨⟩
      exact hinitial.isBlank_eq
    · rw [hend]
      simp only [List.getLast?_append, List.getLast?_singleton, Option.some_or]
      rintro _ ⟨⟩
      rfl
  have hspelled : spellOffset i.toHttp.toList = i.toHttp.toList := by
    rw [hend, spellOffset, List.reverse_append]
    rfl
  have hunread : ∀ pattern ∈ Item.offsetPatterns ++ Item.plainPatterns,
      Item.instant? i.toHttp.toList pattern = none := by
    rw [hchars]
    exact fun _ hpattern => instant?_of_isInitial hinitial hpattern
  have hpartial : partialDate? i.toHttp.toList = none := by
    rw [hchars, partialDate?_of_isInitial hinitial]
  have hne : i.toHttp.toList ≠ [] := by simp [hchars]
  rw [(W3c.parseW3c?_of_unread htrim hne hspelled hunread).2 hpartial]
  simp [parseRfc2822?, readRfc2822_toHttp h, Read.onlyComments, toInstant?_httpFields h]

end Instant

end Recrawl.Time
