import Recrawl.Xml.Scanner

/-!
The scanner works from left to right. No byte takes back an event that was told before,
and the end of the input adds at most the text that it cuts off. A tag that is told stands
in what was read, from its angle bracket on.
-/

namespace Recrawl.Xml

/-- The tag of an event that opens an element. -/
def Event.tag? : Event → Option Tag
  | start tag => some tag
  | selfClosing tag => some tag
  | _ => none

/-- A tag as it is written, up to its end. -/
def Tag.text (tag : Tag) : Bytes :=
  0x3C :: (tag.name ++ tag.attributes)

theorem Tag.text_ofContent (content : Bytes) : (ofContent content).text = 0x3C :: content := by
  simp [text, ofContent, List.takeWhile_append_dropWhile]

/-- What is read of a start tag that may still go on. -/
def Mode.opening? : Mode → Option Bytes
  | markup => some [0x3C]
  | startTag _ read => some (0x3C :: read.reverse)
  | _ => none

namespace Scanner

/-- No start tag is begun or told, and no more than one event is. -/
structure Passes (before after : Scanner) : Prop where
  opening : after.mode.opening? = none
  events : after.events = before.events ∨
    ∃ event, event.tag? = none ∧ after.events = event :: before.events

theorem passes_move (s : Scanner) {mode : Mode} (h : mode.opening? = none) :
    s.Passes { s with mode } :=
  ⟨h, .inl rfl⟩

theorem passes_emit (s : Scanner) {event : Event} (h : event.tag? = none) :
    s.Passes (s.emit event) :=
  ⟨rfl, .inr ⟨event, h, rfl⟩⟩

theorem passes_stop (s : Scanner) (fault : Fault) : s.Passes (s.stop fault) :=
  s.passes_move rfl

theorem passes_finishEnd (s : Scanner) (read : Bytes) : s.Passes (s.finishEnd read) := by
  simp only [finishEnd]
  generalize (if read.all isBlank = true then read else trimmed read).reverse = name
  split
  · exact s.passes_stop _
  · split
    · exact ⟨rfl, (s.passes_emit rfl).events⟩
    · exact s.passes_stop _

theorem passes_finishInstruction (s : Scanner) (read : Bytes) :
    s.Passes (s.finishInstruction read) := by
  unfold finishInstruction
  split
  · exact s.passes_emit rfl
  · exact s.passes_stop _

theorem passes_finishComment (s : Scanner) (read : Bytes) : s.Passes (s.finishComment read) := by
  unfold finishComment
  split
  · exact s.passes_emit rfl
  · exact s.passes_stop _

theorem passes_finishLiteral (s : Scanner) (read : Bytes) : s.Passes (s.finishLiteral read) := by
  unfold finishLiteral
  simp only
  split
  · exact s.passes_emit rfl
  · exact s.passes_stop _

theorem passes_finishDoctype (s : Scanner) (read : Bytes) : s.Passes (s.finishDoctype read) := by
  unfold finishDoctype
  simp only
  split
  · split
    · exact s.passes_stop _
    · exact s.passes_emit rfl
  · exact s.passes_stop _

theorem passes_inEnd (s : Scanner) (quote : Option UInt8) (read : Bytes) (byte : UInt8) :
    s.Passes (s.inEnd quote read byte) := by
  unfold inEnd
  split
  · exact s.passes_finishEnd read
  · exact s.passes_move rfl

theorem passes_inComment (s : Scanner) (read : Bytes) (byte : UInt8) :
    s.Passes (s.inComment read byte) := by
  unfold inComment
  split
  · split
    · exact s.passes_finishComment _
    · exact s.passes_move rfl
  · exact s.passes_move rfl

theorem passes_inLiteral (s : Scanner) (read : Bytes) (byte : UInt8) :
    s.Passes (s.inLiteral read byte) := by
  unfold inLiteral
  split
  · exact s.passes_finishLiteral read
  · exact s.passes_move rfl

theorem passes_inDoctype (s : Scanner) (depth : Nat) (read : Bytes) (byte : UInt8) :
    s.Passes (s.inDoctype depth read byte) := by
  unfold inDoctype
  split
  · exact s.passes_move rfl
  · split
    · split
      · exact s.passes_finishDoctype read
      · exact s.passes_move rfl
    · exact s.passes_move rfl

/-- The byte begins a start tag, and the text in front of it is told. -/
structure Opens (before : Scanner) (byte : UInt8) (after : Scanner) : Prop where
  byte : byte = 0x3C
  opening : after.mode.opening? = some [0x3C]
  events : after.events = before.events ∨ ∃ raw, after.events = .text raw :: before.events

/-- The byte is one more of a start tag, or completes it and has it told. -/
inductive Grows (before : Scanner) (byte : UInt8) (after : Scanner) : Prop
  | more (text : Bytes) (opening : before.mode.opening? = some text)
      (events : after.events = before.events) (grown : after.mode.opening? = some (text ++ [byte]))
  | last (text : Bytes) (opening : before.mode.opening? = some text) (event : Event) (tag : Tag)
      (told : event.tag? = some tag) (begins : tag.text <+: text)
      (events : after.events = event :: before.events) (closed : after.mode.opening? = none)

/-- A tag is told as it was read, but for a slash at its end. -/
theorem grows_finishStart (s : Scanner) (read : Bytes) (byte : UInt8)
    (h : s.mode.opening? = some (0x3C :: read.reverse)) :
    s.Grows byte (s.finishStart read) := by
  unfold finishStart
  split
  · rename_i content
    refine .last _ h _ (Tag.ofContent content.reverse) rfl ?_ rfl rfl
    rw [Tag.text_ofContent, List.reverse_cons]
    exact List.prefix_append (0x3C :: content.reverse) [0x2F]
  · refine .last _ h _ (Tag.ofContent read.reverse) rfl ⟨[], ?_⟩ rfl rfl
    rw [Tag.text_ofContent, List.append_nil]

theorem grows_inStart (s : Scanner) (quote : Option UInt8) (read : Bytes) (byte : UInt8)
    (h : s.mode.opening? = some (0x3C :: read.reverse)) :
    s.Grows byte (s.inStart quote read byte) := by
  unfold inStart
  split
  · exact s.grows_finishStart read byte h
  · exact .more _ h rfl (by simp [Mode.opening?])

/-- What one byte does: it begins a start tag, goes on with one, or is outside of them. -/
theorem step_cases (s : Scanner) (byte : UInt8) :
    s.Passes (s.step byte) ∨ s.Opens byte (s.step byte) ∨ s.Grows byte (s.step byte) := by
  cases hmode : s.mode with
  | blank =>
    simp only [step, hmode]
    split
    · rename_i hbyte
      exact .inr (.inl ⟨by simpa using hbyte, rfl, .inl rfl⟩)
    · split
      · exact .inl ⟨by rw [hmode]; rfl, .inl rfl⟩
      · exact .inl (s.passes_move rfl)
  | text read =>
    simp only [step, hmode]
    split
    · rename_i hbyte
      exact .inr (.inl ⟨by simpa using hbyte, rfl, .inr ⟨_, rfl⟩⟩)
    · exact .inl (s.passes_move rfl)
  | markup =>
    simp only [step, hmode]
    split
    · exact .inl (s.passes_move rfl)
    · split
      · exact .inl (s.passes_move rfl)
      · split
        · exact .inl (s.passes_move rfl)
        · exact .inr (.inr (s.grows_inStart none [] byte (by rw [hmode]; rfl)))
  | startTag quote read =>
    simp only [step, hmode]
    exact .inr (.inr (s.grows_inStart quote read byte (by rw [hmode]; rfl)))
  | endTag quote read =>
    simp only [step, hmode]
    exact .inl (s.passes_inEnd quote read byte)
  | instruction read =>
    simp only [step, hmode]
    split
    · exact .inl (s.passes_finishInstruction read)
    · exact .inl (s.passes_move rfl)
  | declaration =>
    simp only [step, hmode]
    split
    · exact .inl (s.passes_move rfl)
    · split
      · exact .inl (s.passes_move rfl)
      · split
        · exact .inl (s.passes_move rfl)
        · exact .inl (s.passes_stop _)
  | comment read =>
    simp only [step, hmode]
    exact .inl (s.passes_inComment read byte)
  | literal read =>
    simp only [step, hmode]
    exact .inl (s.passes_inLiteral read byte)
  | doctype depth read =>
    simp only [step, hmode]
    exact .inl (s.passes_inDoctype depth read byte)
  | stopped fault =>
    simp only [step, hmode]
    exact .inl ⟨by rw [hmode]; rfl, .inl rfl⟩

/-- A byte never takes an event back. -/
theorem events_step (s : Scanner) (byte : UInt8) : s.events <:+ (s.step byte).events := by
  rcases s.step_cases byte with ⟨-, hsame | ⟨_, -, hcons⟩⟩ | ⟨-, -, hsame | ⟨_, hcons⟩⟩ | hgrows
  · exact hsame ▸ List.suffix_refl _
  · exact hcons ▸ List.suffix_cons _ _
  · exact hsame ▸ List.suffix_refl _
  · exact hcons ▸ List.suffix_cons _ _
  · cases hgrows with
    | more text _ hsame _ => exact hsame ▸ List.suffix_refl _
    | last text _ event tag _ _ hcons _ => exact hcons ▸ List.suffix_cons _ _

theorem events_run (s : Scanner) (bytes : Bytes) : s.events <:+ (s.run bytes).events := by
  induction bytes generalizing s with
  | nil => exact List.suffix_refl _
  | cons byte rest ih => exact (s.events_step byte).trans (ih (s.step byte))

/-- The end of the input adds nothing to the events but text that it cuts off. -/
theorem events_finish (s : Scanner) :
    s.finish.events = s.events ∨ ∃ raw, s.finish.events = .text raw :: s.events := by
  cases hmode : s.mode with
  | text read =>
    right
    exact ⟨(trimmed read).reverse, by simp [finish, hmode, emit]⟩
  | blank => left; simp [finish, hmode]
  | markup => left; simp [finish, hmode, stop]
  | startTag quote read => left; simp [finish, hmode, stop]
  | endTag quote read => left; simp [finish, hmode, stop]
  | instruction read => left; simp [finish, hmode, stop]
  | declaration => left; simp [finish, hmode, stop]
  | comment read => left; simp [finish, hmode, stop]
  | literal read => left; simp [finish, hmode, stop]
  | doctype depth read => left; simp [finish, hmode, stop]
  | stopped fault => left; simp [finish, hmode]

/-- The start tag in progress ends what was read, and every tag that was told stands in it. -/
structure Follows (s : Scanner) (read : Bytes) : Prop where
  opening : ∀ text, s.mode.opening? = some text → text <:+ read
  told : ∀ event ∈ s.events, ∀ tag, event.tag? = some tag → tag.text <:+: read

theorem follows_initial : ({} : Scanner).Follows [] :=
  ⟨by simp [Mode.opening?], by simp⟩

theorem follows_step {s : Scanner} {read : Bytes} (h : s.Follows read) (byte : UInt8) :
    (s.step byte).Follows (read ++ [byte]) := by
  have hlonger : read <:+: read ++ [byte] := (List.prefix_append _ _).isInfix
  have hkept : ∀ event ∈ s.events, ∀ tag, event.tag? = some tag → tag.text <:+: read ++ [byte] :=
    fun event hevent tag htag => (h.told event hevent tag htag).trans hlonger
  -- One more event is one that tells no tag, or the tag that was in progress.
  have hcons : ∀ events event, events = event :: s.events →
      (∀ tag, event.tag? = some tag → tag.text <:+: read ++ [byte]) →
      ∀ e ∈ events, ∀ tag, e.tag? = some tag → tag.text <:+: read ++ [byte] := by
    rintro _ event rfl hevent e he
    rcases List.mem_cons.mp he with rfl | he
    · exact hevent
    · exact hkept e he
  rcases s.step_cases byte with hpasses | hopens | hgrows
  · refine ⟨by simp [hpasses.opening], ?_⟩
    rcases hpasses.events with hsame | ⟨event, hnone, hevents⟩
    · exact hsame ▸ hkept
    · exact hcons _ event hevents (by simp [hnone])
  · refine ⟨?_, ?_⟩
    · intro text htext
      rw [hopens.opening] at htext
      rw [← Option.some.inj htext, hopens.byte]
      exact List.suffix_append _ _
    · rcases hopens.events with hsame | ⟨raw, hevents⟩
      · exact hsame ▸ hkept
      · exact hcons _ _ hevents (by simp [Event.tag?])
  · cases hgrows with
    | more text hopening hevents hgrown =>
      refine ⟨?_, hevents ▸ hkept⟩
      intro longer hlonger
      rw [hgrown] at hlonger
      rw [← Option.some.inj hlonger]
      obtain ⟨front, hfront⟩ := h.opening text hopening
      exact ⟨front, by rw [← hfront, List.append_assoc]⟩
    | last text hopening event tag htold hbegins hevents hclosed =>
      refine ⟨by simp [hclosed], hcons _ event hevents ?_⟩
      intro other hother
      rw [htold] at hother
      rw [← Option.some.inj hother]
      exact (hbegins.isInfix.trans (h.opening text hopening).isInfix).trans hlonger

theorem follows_run {s : Scanner} {read : Bytes} (h : s.Follows read) (bytes : Bytes) :
    (s.run bytes).Follows (read ++ bytes) := by
  induction bytes generalizing s read with
  | nil =>
    rw [List.append_nil]
    exact h
  | cons byte rest ih =>
    rw [List.append_cons]
    exact ih (follows_step h byte)

end Scanner

end Recrawl.Xml
