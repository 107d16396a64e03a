import Recrawl.Xml.Scanner

/-!
Tags as they are written. A start tag, a tag that is its own end and an end tag are one event each,
whatever stands between the quotes of their attributes. What was told before has no part in what is
told next.
-/

namespace Recrawl.Xml

namespace Scanner

/-- The bytes can stand inside a tag: there is no closing bracket outside of quotes, and no quote is
left open. -/
def isInside : Option UInt8 → Bytes → Bool
  | quote, [] => quote.isNone
  | quote, byte :: rest => !(byte == 0x3E && quote.isNone) && isInside (quoteAfter quote byte) rest

theorem isInside_cons {quote : Option UInt8} {byte : UInt8} {rest : Bytes}
    (h : isInside quote (byte :: rest) = true) :
    (byte == 0x3E && quote.isNone) = false ∧ isInside (quoteAfter quote byte) rest = true := by
  simpa only [isInside, Bool.and_eq_true, Bool.not_eq_true'] using h

/-- Bytes without quotes and closing brackets can stand inside a tag. -/
theorem isInside_of_plain {bytes : Bytes}
    (h : ∀ byte ∈ bytes, byte ≠ 0x22 ∧ byte ≠ 0x27 ∧ byte ≠ 0x3E) :
    isInside none bytes = true := by
  induction bytes with
  | nil => rfl
  | cons byte rest ih =>
    obtain ⟨hdouble, hsingle, hbracket⟩ := h byte (by simp)
    have hrest := ih fun other hother => h other (by simp [hother])
    simp [isInside, quoteAfter, hdouble, hsingle, hbracket, hrest]

end Scanner

namespace Tag

/-- What can stand between the brackets of a start tag. It begins with a name, in which there are no
quotes and no brackets, and has no slash at its end. -/
structure IsBody (body : Bytes) : Prop where
  first : (body.head?.any fun b => !isBlank b && b != 0x21 && b != 0x2F && b != 0x3F) = true
  inside : Scanner.isInside none body = true
  last : body.getLast? ≠ some 0x2F
  name : ((ofContent body).name.all fun b => b != 0x22 && b != 0x27 && b != 0x3E) = true

/-- A start tag as it is written. -/
def opening (body : Bytes) : Bytes := 0x3C :: (body ++ [0x3E])

/-- A tag that is its own end as it is written. -/
def alone (body : Bytes) : Bytes := 0x3C :: (body ++ [0x2F, 0x3E])

/-- An end tag as it is written, possibly with blanks behind the name. -/
def closing (name blanks : Bytes) : Bytes := 0x3C :: 0x2F :: (name ++ blanks ++ [0x3E])

theorem IsBody.cases {body : Bytes} (h : IsBody body) :
    ∃ byte rest, body = byte :: rest ∧ isBlank byte = false ∧ byte ≠ 0x21 ∧ byte ≠ 0x2F ∧
      byte ≠ 0x3F := by
  have hfirst := h.first
  cases body with
  | nil => cases hfirst
  | cons byte rest =>
    simp only [List.head?_cons, Option.any_some, Bool.and_eq_true, Bool.not_eq_true',
      bne_iff_ne] at hfirst
    obtain ⟨⟨⟨hblank, hmark⟩, hslash⟩, hquestion⟩ := hfirst
    exact ⟨byte, rest, rfl, hblank, hmark, hslash, hquestion⟩

theorem IsBody.name_ne_nil {body : Bytes} (h : IsBody body) : (ofContent body).name ≠ [] := by
  obtain ⟨byte, rest, rfl, hblank, -⟩ := h.cases
  simp [ofContent, hblank]

theorem not_isBlank_of_mem_name {content : Bytes} {byte : UInt8}
    (h : byte ∈ (ofContent content).name) : isBlank byte = false := by
  have hall := List.all_takeWhile (l := content) (p := fun b => !isBlank b)
  simpa using List.all_eq_true.mp hall byte h

end Tag

namespace Scanner

theorem run_cons (s : Scanner) (byte : UInt8) (rest : Bytes) :
    s.run (byte :: rest) = (s.step byte).run rest := rfl

theorem run_inStart (s : Scanner) (quote : Option UInt8) (read bytes : Bytes)
    (h : isInside quote bytes = true) :
    { s with mode := .startTag quote read }.run bytes =
      { s with mode := .startTag none (bytes.reverse ++ read) } := by
  induction bytes generalizing quote read with
  | nil =>
    obtain rfl : quote = none := by simpa [isInside] using h
    rfl
  | cons byte rest ih =>
    obtain ⟨hopen, hrest⟩ := isInside_cons h
    have hstep : { s with mode := .startTag quote read }.step byte =
        { s with mode := .startTag (quoteAfter quote byte) (byte :: read) } := by
      simp only [step, inStart, hopen]
      rfl
    rw [run_cons, hstep, ih _ _ hrest, List.reverse_cons, List.append_assoc]
    rfl

theorem run_inEnd (s : Scanner) (quote : Option UInt8) (read bytes : Bytes)
    (h : isInside quote bytes = true) :
    { s with mode := .endTag quote read }.run bytes =
      { s with mode := .endTag none (bytes.reverse ++ read) } := by
  induction bytes generalizing quote read with
  | nil =>
    obtain rfl : quote = none := by simpa [isInside] using h
    rfl
  | cons byte rest ih =>
    obtain ⟨hopen, hrest⟩ := isInside_cons h
    have hstep : { s with mode := .endTag quote read }.step byte =
        { s with mode := .endTag (quoteAfter quote byte) (byte :: read) } := by
      simp only [step, inEnd, hopen]
      rfl
    rw [run_cons, hstep, ih _ _ hrest, List.reverse_cons, List.append_assoc]
    rfl

variable {body : Bytes}

theorem run_body (s : Scanner) (h : Tag.IsBody body) :
    { s with mode := .markup }.run body = { s with mode := .startTag none body.reverse } := by
  obtain ⟨byte, rest, rfl, -, hmark, hslash, hquestion⟩ := h.cases
  obtain ⟨hopen, hrest⟩ := isInside_cons h.inside
  have hstep : { s with mode := .markup }.step byte =
      { s with mode := .startTag (quoteAfter none byte) [byte] } := by
    have hmark : (byte == 0x21) = false := beq_eq_false_iff_ne.mpr hmark
    have hslash : (byte == 0x2F) = false := beq_eq_false_iff_ne.mpr hslash
    have hquestion : (byte == 0x3F) = false := beq_eq_false_iff_ne.mpr hquestion
    simp only [step, inStart, hmark, hslash, hquestion, hopen]
    rfl
  rw [run_cons, hstep, run_inStart s _ _ _ hrest, List.reverse_cons]

theorem finishStart_of_isBody (s : Scanner) (h : Tag.IsBody body) :
    s.finishStart body.reverse =
      { s.emit (.start (Tag.ofContent body)) with
        opened := (Tag.ofContent body).name :: s.opened } := by
  have hlast := h.last
  rw [← List.head?_reverse] at hlast
  unfold finishStart
  split
  · rename_i hslash
    rw [hslash] at hlast
    exact absurd rfl hlast
  · simp only [List.reverse_reverse]

theorem run_opening (s : Scanner) (h : Tag.IsBody body) :
    { s with mode := .markup }.run (body ++ [0x3E]) =
      { s.emit (.start (Tag.ofContent body)) with
        opened := (Tag.ofContent body).name :: s.opened } := by
  rw [run_append, s.run_body h]
  exact finishStart_of_isBody _ h

theorem run_alone (s : Scanner) (h : Tag.IsBody body) :
    { s with mode := .markup }.run (body ++ [0x2F, 0x3E]) =
      s.emit (.selfClosing (Tag.ofContent body)) := by
  rw [run_append, s.run_body h]
  change s.finishStart (0x2F :: body.reverse) = _
  simp only [finishStart, List.reverse_reverse]

/-- The end tag of the innermost element is told as its end. -/
theorem run_closing (s : Scanner) (h : Tag.IsBody body) {blanks : Bytes}
    (hblanks : ∀ byte ∈ blanks, isBlank byte = true) {outer : List Bytes}
    (hopened : s.opened = (Tag.ofContent body).name :: outer) :
    { s with mode := .markup }.run (0x2F :: ((Tag.ofContent body).name ++ blanks ++ [0x3E])) =
      { s.emit .close with opened := outer } := by
  have hname : ∀ byte ∈ (Tag.ofContent body).name, isBlank byte = false :=
    fun byte hbyte => Tag.not_isBlank_of_mem_name hbyte
  have hplain : ∀ byte ∈ (Tag.ofContent body).name ++ blanks,
      byte ≠ 0x22 ∧ byte ≠ 0x27 ∧ byte ≠ 0x3E := by
    intro byte hbyte
    rcases List.mem_append.mp hbyte with hbyte | hbyte
    · simpa [and_assoc] using List.all_eq_true.mp h.name byte hbyte
    · have hblank := hblanks byte hbyte
      refine ⟨?_, ?_, ?_⟩ <;> rintro rfl <;> exact absurd hblank (by decide)
  have hfinish : s.finishEnd ((Tag.ofContent body).name ++ blanks).reverse =
      { s.emit .close with opened := outer } := by
    obtain ⟨byte, rest, hcons⟩ := List.exists_cons_of_ne_nil h.name_ne_nil
    have hall : ((Tag.ofContent body).name ++ blanks).reverse.all isBlank = false :=
      List.all_eq_false.mpr ⟨byte, by simp [hcons], by simp [hname byte (by simp [hcons])]⟩
    have htrimmed : trimmed ((Tag.ofContent body).name ++ blanks).reverse =
        (Tag.ofContent body).name.reverse := by
      have hkept : (Tag.ofContent body).name.reverse.dropWhile isBlank =
          (Tag.ofContent body).name.reverse := by
        cases hreverse : (Tag.ofContent body).name.reverse with
        | nil => rfl
        | cons last front =>
          have hlast : last ∈ (Tag.ofContent body).name := by
            rw [← List.mem_reverse, hreverse]
            exact List.mem_cons_self
          rw [List.dropWhile_cons_of_neg (by simp [hname last hlast])]
      rw [trimmed, List.reverse_append, List.dropWhile_append_of_pos, hkept]
      simpa using hblanks
    simp only [finishEnd, hall, htrimmed, hopened, Bool.false_eq_true, if_false,
      List.reverse_reverse, beq_self_eq_true, if_true]
  have hstart : { s with mode := .markup }.step 0x2F = { s with mode := .endTag none [] } := rfl
  rw [run_cons, hstart, run_append, run_inEnd s _ _ _ (isInside_of_plain hplain), List.append_nil]
  exact hfinish

/-- The scanner is between markup, in front of text or inside it. -/
def isBetween (s : Scanner) : Bool :=
  match s.mode with
  | .blank => true
  | .text _ => true
  | _ => false

theorem step_bracket {s : Scanner} (h : s.isBetween = true) :
    (s.step 0x3C).mode = .markup ∧ (s.step 0x3C).opened = s.opened := by
  unfold isBetween at h
  split at h
  · rename_i hmode
    simp [step, hmode]
  · rename_i hmode
    simp [step, hmode, emit]
  · cases h

theorem run_tagAlone {s : Scanner} (hs : s.isBetween = true) (h : Tag.IsBody body) :
    s.run (Tag.alone body) = (s.step 0x3C).emit (.selfClosing (Tag.ofContent body)) := by
  have hmarkup : { s.step 0x3C with mode := .markup } = s.step 0x3C := by
    rw [← (step_bracket hs).1]
  have halone := (s.step 0x3C).run_alone h
  rw [hmarkup] at halone
  exact halone

theorem run_tagOpening {s : Scanner} (hs : s.isBetween = true) (h : Tag.IsBody body) :
    s.run (Tag.opening body) =
      { (s.step 0x3C).emit (.start (Tag.ofContent body)) with
        opened := (Tag.ofContent body).name :: s.opened } := by
  have hmarkup : { s.step 0x3C with mode := .markup } = s.step 0x3C := by
    rw [← (step_bracket hs).1]
  have hopening := (s.step 0x3C).run_opening h
  rw [hmarkup, (step_bracket hs).2] at hopening
  exact hopening

theorem run_tagClosing {s : Scanner} (hs : s.isBetween = true) (h : Tag.IsBody body)
    {blanks : Bytes} (hblanks : ∀ byte ∈ blanks, isBlank byte = true) {outer : List Bytes}
    (hopened : s.opened = (Tag.ofContent body).name :: outer) :
    s.run (Tag.closing (Tag.ofContent body).name blanks) =
      { (s.step 0x3C).emit .close with opened := outer } := by
  have hmarkup : { s.step 0x3C with mode := .markup } = s.step 0x3C := by
    rw [← (step_bracket hs).1]
  have hclosing := (s.step 0x3C).run_closing h hblanks ((step_bracket hs).2.trans hopened)
  rw [hmarkup] at hclosing
  exact hclosing

/-- A start tag directly followed by its end tag. -/
theorem run_tagPair {s : Scanner} (hs : s.isBetween = true) (h : Tag.IsBody body)
    {blanks : Bytes} (hblanks : ∀ byte ∈ blanks, isBlank byte = true) :
    s.run (Tag.opening body ++ Tag.closing (Tag.ofContent body).name blanks) =
      ((s.step 0x3C).emit (.start (Tag.ofContent body))).emit .close := by
  have hopened := (step_bracket hs).2
  rw [run_append, run_tagOpening hs h, run_tagClosing rfl h hblanks rfl, ← hopened]
  rfl

/-- The scanner with older events behind its own. -/
def told (s : Scanner) (older : List Event) : Scanner :=
  { s with events := s.events ++ older }

section Told

variable (s : Scanner) (older : List Event)

theorem finishStart_told (read : Bytes) :
    (s.told older).finishStart read = (s.finishStart read).told older := by
  unfold finishStart
  split <;> rfl

theorem finishEnd_told (read : Bytes) :
    (s.told older).finishEnd read = (s.finishEnd read).told older := by
  have hopened : (s.told older).opened = s.opened := rfl
  simp only [finishEnd, hopened]
  generalize (if read.all isBlank = true then read else trimmed read).reverse = name
  split
  · rfl
  · split <;> rfl

theorem finishInstruction_told (read : Bytes) :
    (s.told older).finishInstruction read = (s.finishInstruction read).told older := by
  unfold finishInstruction
  split <;> rfl

theorem finishComment_told (read : Bytes) :
    (s.told older).finishComment read = (s.finishComment read).told older := by
  unfold finishComment
  split <;> rfl

theorem finishLiteral_told (read : Bytes) :
    (s.told older).finishLiteral read = (s.finishLiteral read).told older := by
  unfold finishLiteral
  simp only
  split <;> rfl

theorem finishDoctype_told (read : Bytes) :
    (s.told older).finishDoctype read = (s.finishDoctype read).told older := by
  unfold finishDoctype
  simp only
  split
  · split <;> rfl
  · rfl

theorem inStart_told (quote : Option UInt8) (read : Bytes) (byte : UInt8) :
    (s.told older).inStart quote read byte = (s.inStart quote read byte).told older := by
  unfold inStart
  split
  · exact s.finishStart_told older read
  · rfl

/-- The events so far have no part in what a byte does. -/
theorem step_told (byte : UInt8) : (s.told older).step byte = (s.step byte).told older := by
  have hmode : (s.told older).mode = s.mode := rfl
  cases h : s.mode with
  | blank =>
    simp only [step, hmode, h]
    split
    · rfl
    · split <;> rfl
  | text read =>
    simp only [step, hmode, h]
    split <;> rfl
  | markup =>
    simp only [step, hmode, h]
    split
    · rfl
    · split
      · rfl
      · split
        · rfl
        · exact s.inStart_told older none [] byte
  | startTag quote read =>
    simp only [step, hmode, h]
    exact s.inStart_told older quote read byte
  | endTag quote read =>
    simp only [step, hmode, h, inEnd]
    split
    · exact s.finishEnd_told older read
    · rfl
  | instruction read =>
    simp only [step, hmode, h]
    split
    · exact s.finishInstruction_told older read
    · rfl
  | declaration =>
    simp only [step, hmode, h]
    split
    · rfl
    · split
      · rfl
      · split <;> rfl
  | comment read =>
    simp only [step, hmode, h, inComment]
    split
    · split
      · exact s.finishComment_told older _
      · rfl
    · rfl
  | literal read =>
    simp only [step, hmode, h, inLiteral]
    split
    · exact s.finishLiteral_told older read
    · rfl
  | doctype depth read =>
    simp only [step, hmode, h, inDoctype]
    split
    · rfl
    · split
      · split
        · exact s.finishDoctype_told older read
        · rfl
      · rfl
  | stopped fault => simp only [step, hmode, h]

theorem run_told (bytes : Bytes) : (s.told older).run bytes = (s.run bytes).told older := by
  induction bytes generalizing s with
  | nil => rfl
  | cons byte rest ih => rw [run_cons, step_told, ih, run_cons]

theorem finish_told : (s.told older).finish = s.finish.told older := by
  have hmode : (s.told older).mode = s.mode := rfl
  cases h : s.mode <;> simp only [finish, hmode, h] <;> rfl

end Told

end Scanner

end Recrawl.Xml
