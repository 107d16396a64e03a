import Recrawl.Proofs.Text.Trimming
import Recrawl.Proofs.Xml.Markup
import Recrawl.Proofs.Xml.Tree

/-!
The content of an element as it is written: runs of text, literal sections, comments, instructions
and elements in any order, nested to any depth. The scanner tells the nodes of what is written.
-/

namespace Recrawl.Xml

/-- The end of a literal section. -/
def literalEnd : Bytes := [0x5D, 0x5D, 0x3E]

/-- The end of a comment. -/
def commentEnd : Bytes := [0x2D, 0x2D, 0x3E]

/-- The end of an instruction. -/
def instructionEnd : Bytes := [0x3F, 0x3E]

/-- A literal section as it is written. -/
def writtenLiteral (raw : Bytes) : Bytes := 0x3C :: (Scanner.literalStart ++ raw ++ literalEnd)

/-- A comment as it is written. -/
def writtenComment (words : Bytes) : Bytes := 0x3C :: 0x21 :: 0x2D :: 0x2D :: (words ++ commentEnd)

/-- An instruction as it is written. -/
def writtenInstruction (words : Bytes) : Bytes := 0x3C :: 0x3F :: (words ++ instructionEnd)

/-- The bytes are the nodes as they are written. A run of text ends at the next markup, so that no
two runs follow each other. -/
inductive Writes : List Node → Bytes → Prop
  | nil : Writes [] []
  | text {raw written : Bytes} {rest : List Node} (hraw : 0x3C ∉ raw)
    (hnext : written.head? = none ∨ written.head? = some 0x3C) (h : Writes rest written) :
    Writes (.text raw :: rest) (raw ++ written)
  | literal {raw written : Bytes} {rest : List Node} (hraw : ¬ literalEnd <:+: raw)
    (h : Writes rest written) : Writes (.literal raw :: rest) (writtenLiteral raw ++ written)
  | comment {words written : Bytes} {rest : List Node} (hwords : ¬ commentEnd <:+: words)
    (h : Writes rest written) : Writes (.skipped :: rest) (writtenComment words ++ written)
  | instruction {words written : Bytes} {rest : List Node}
    (hwords : ¬ instructionEnd <:+: 0x3F :: words) (h : Writes rest written) :
    Writes (.skipped :: rest) (writtenInstruction words ++ written)
  | leaf {body written : Bytes} {rest : List Node} (hbody : Tag.IsBody body)
    (h : Writes rest written) :
    Writes (.leaf (Tag.ofContent body) :: rest) (Tag.alone body ++ written)
  | element {body inner blanks written : Bytes} {children rest : List Node}
    (hbody : Tag.IsBody body) (hblanks : ∀ byte ∈ blanks, isBlank byte = true)
    (hinner : Writes children inner) (h : Writes rest written) :
    Writes (.element (Tag.ofContent body) children :: rest)
      (Tag.opening body ++ inner ++ Tag.closing (Tag.ofContent body).name blanks ++ written)

namespace Scanner

/-- The scanner between markup when it has told more events. -/
def tell (s : Scanner) (events : List Event) : Scanner :=
  { s with mode := .blank, events := events.reverse ++ s.events }

theorem emit_tell (s : Scanner) (told : List Event) (event : Event) :
    (s.tell told).emit event = s.tell (told ++ [event]) := by
  simp [tell, emit]

/-- The text in front of a bracket is told with it, so that nothing of it is left. -/
theorem run_bracket {s : Scanner} (h : s.isBetween = true) (rest : Bytes) :
    s.run (0x3C :: rest) = ((s.step 0x3C).tell []).run (0x3C :: rest) := by
  have hmode := (step_bracket h).1
  have hstep : ((s.step 0x3C).tell []).step 0x3C = s.step 0x3C := by
    change { s.step 0x3C with mode := .markup } = s.step 0x3C
    rw [← hmode]
  rw [run_cons, run_cons, hstep]

theorem run_inText (s : Scanner) (read bytes : Bytes) (h : 0x3C ∉ bytes) :
    { s with mode := .text read }.run bytes = { s with mode := .text (bytes.reverse ++ read) } := by
  induction bytes generalizing read with
  | nil => rfl
  | cons byte rest ih =>
    simp only [List.mem_cons, not_or] at h
    have hstep : { s with mode := .text read }.step byte =
        { s with mode := .text (byte :: read) } := by
      have hbyte : (byte == 0x3C) = false := beq_eq_false_iff_ne.mpr (Ne.symm h.1)
      simp [step, hbyte]
    rw [run_cons, hstep, ih _ h.2]
    simp

/-- A run of text is told without the blanks at its ends, when the next markup begins. -/
theorem run_text (s : Scanner) {raw : Bytes} (hraw : 0x3C ∉ raw) :
    { s with mode := .blank }.run (raw ++ [0x3C]) =
      { s with mode := .markup, events := (stretch? raw).toList.map Event.text ++ s.events } := by
  induction raw with
  | nil => rfl
  | cons byte rest ih =>
    simp only [List.mem_cons, not_or] at hraw
    have hbyte : (byte == 0x3C) = false := beq_eq_false_iff_ne.mpr (Ne.symm hraw.1)
    rw [List.cons_append, run_cons]
    by_cases hblank : isBlank byte = true
    · have hstep : { s with mode := .blank }.step byte = { s with mode := .blank } := by
        simp [step, hbyte, hblank]
      have hstretch : stretch? (byte :: rest) = stretch? rest := by
        simp only [stretch?, List.dropWhile_cons_of_pos hblank]
      rw [hstep, ih hraw.2, hstretch]
    · have hstep : { s with mode := .blank }.step byte = { s with mode := .text [byte] } := by
        simp [step, hbyte, hblank]
      have hstretch : stretch? (byte :: rest) = some (trimmed (rest.reverse ++ [byte])).reverse := by
        have hne : trimmed (rest.reverse ++ [byte]) ≠ [] := by
          intro hnil
          obtain ⟨blanks, hsplit, hblanks⟩ :=
            Text.exists_append_dropWhile isBlank (rest.reverse ++ [byte])
          change (rest.reverse ++ [byte]).dropWhile isBlank = [] at hnil
          rw [hnil, List.append_nil] at hsplit
          exact hblank (hblanks byte (by simp [← hsplit]))
        simp only [stretch?, List.dropWhile_cons_of_neg hblank, List.reverse_cons]
        exact if_neg (by simpa [trimmed] using hne)
      rw [hstep, run_append, run_inText s _ _ hraw.2, hstretch]
      rfl

/-- What was read ends with two bytes, and the third one follows. -/
theorem infix_of_read {first second third : UInt8} {done older rest : Bytes}
    (h : done.reverse = second :: first :: older) :
    [first, second, third] <:+: done ++ third :: rest := by
  refine ⟨older.reverse, rest, ?_⟩
  rw [← List.reverse_reverse done, h]
  simp

theorem run_inLiteral (s : Scanner) {done bytes : Bytes} (h : ¬ literalEnd <:+: done ++ bytes) :
    { s with mode := .literal (done.reverse ++ literalStart.reverse) }.run bytes =
      { s with mode := .literal ((done ++ bytes).reverse ++ literalStart.reverse) } := by
  induction bytes generalizing done with
  | nil => simp [run]
  | cons byte rest ih =>
    have hrest : ¬ literalEnd <:+: (done ++ [byte]) ++ rest := by simpa using h
    have hopen : (byte == 0x3E &&
        [0x5D, 0x5D].isPrefixOf (done.reverse ++ literalStart.reverse)) = false := by
      rw [← Bool.not_eq_true, Bool.and_eq_true, List.isPrefixOf_iff_prefix]
      rintro ⟨hbyte, hread⟩
      obtain rfl : byte = 0x3E := eq_of_beq hbyte
      -- The brackets of the beginning are none of those that end the section.
      cases hdone : done.reverse with
      | nil => rw [hdone] at hread; revert hread; decide
      | cons second older =>
        cases older with
        | nil =>
          rw [hdone] at hread
          simp [literalStart, List.cons_prefix_cons] at hread
        | cons first older =>
          rw [hdone] at hread
          obtain ⟨rfl, rfl⟩ : 0x5D = second ∧ 0x5D = first := by
            simpa [List.cons_prefix_cons] using hread
          exact h (infix_of_read hdone)
    have hstep : { s with mode := .literal (done.reverse ++ literalStart.reverse) }.step byte =
        { s with mode := .literal ((done ++ [byte]).reverse ++ literalStart.reverse) } := by
      simp [step, inLiteral, hopen]
    rw [run_cons, hstep, ih hrest]
    simp

theorem run_literal (s : Scanner) (told : List Event) {raw : Bytes}
    (hraw : ¬ literalEnd <:+: raw) :
    (s.tell told).run (writtenLiteral raw) = s.tell (told ++ [.literal raw]) := by
  have hstart : (s.tell told).run (0x3C :: literalStart) =
      { s.tell told with mode := .literal ([].reverse ++ literalStart.reverse) } := rfl
  have hend : ∀ read : Bytes, { s.tell told with mode := .literal read }.run literalEnd =
      (s.tell told).finishLiteral (0x5D :: 0x5D :: read) := fun read => rfl
  have hcontent : (s.tell told).finishLiteral (0x5D :: 0x5D :: (raw.reverse ++ literalStart.reverse)) =
      (s.tell told).emit (.literal raw) := by
    simp [finishLiteral, literalStart, List.isPrefixOf]
  have hall : writtenLiteral raw = (0x3C :: literalStart) ++ raw ++ literalEnd := rfl
  rw [hall, run_append, run_append, hstart, run_inLiteral _ (by simpa using hraw), hend,
    List.nil_append, hcontent, emit_tell]

theorem run_inComment (s : Scanner) {done bytes : Bytes} (h : ¬ commentEnd <:+: done ++ bytes) :
    { s with mode := .comment (done.reverse ++ [0x2D, 0x2D, 0x21]) }.run bytes =
      { s with mode := .comment ((done ++ bytes).reverse ++ [0x2D, 0x2D, 0x21]) } := by
  induction bytes generalizing done with
  | nil => simp [run]
  | cons byte rest ih =>
    have hrest : ¬ commentEnd <:+: (done ++ [byte]) ++ rest := by simpa using h
    have hstep : { s with mode := .comment (done.reverse ++ [0x2D, 0x2D, 0x21]) }.step byte =
        { s with mode := .comment ((done ++ [byte]).reverse ++ [0x2D, 0x2D, 0x21]) } := by
      simp only [step, inComment, List.reverse_append, List.reverse_singleton, List.append_assoc]
      split
      · rename_i hbyte
        obtain rfl : byte = 0x3E := eq_of_beq hbyte
        split
        · rename_i hread
          exfalso
          -- Two hyphens that are not those of the beginning.
          cases hdone : done.reverse with
          | nil => rw [hdone] at hread; simp at hread
          | cons second older =>
            cases older with
            | nil => rw [hdone] at hread; simp at hread
            | cons first older =>
              rw [hdone] at hread
              obtain ⟨rfl, rfl⟩ : second = 0x2D ∧ first = 0x2D := by
                simp only [List.cons_append, List.cons.injEq] at hread
                exact ⟨hread.1, hread.2.1⟩
              exact h (infix_of_read hdone)
        · rfl
      · rfl
    rw [run_cons, hstep, ih hrest]
    simp

theorem run_comment (s : Scanner) (told : List Event) {words : Bytes}
    (hwords : ¬ commentEnd <:+: words) :
    (s.tell told).run (writtenComment words) = s.tell (told ++ [.skipped]) := by
  have hstart : (s.tell told).run [0x3C, 0x21, 0x2D, 0x2D] =
      { s.tell told with mode := .comment ([].reverse ++ [0x2D, 0x2D, 0x21]) } := rfl
  have hend : { s.tell told with mode := .comment (words.reverse ++ [0x2D, 0x2D, 0x21]) }.run
      commentEnd =
      (s.tell told).finishComment (0x2D :: 0x2D :: (words.reverse ++ [0x2D, 0x2D, 0x21])) := by
    cases hread : words.reverse with
    | nil => rfl
    | cons a older =>
      cases older with
      | nil => rfl
      | cons b older => cases older <;> rfl
  have hcontent : (s.tell told).finishComment
      (0x2D :: 0x2D :: (words.reverse ++ [0x2D, 0x2D, 0x21])) = (s.tell told).emit .skipped := by
    simp [finishComment, List.isPrefixOf]
  have hall : writtenComment words = [0x3C, 0x21, 0x2D, 0x2D] ++ words ++ commentEnd := rfl
  rw [hall, run_append, run_append, hstart, run_inComment _ (by simpa using hwords),
    List.nil_append, hend, hcontent, emit_tell]

theorem run_inInstruction (s : Scanner) {done bytes : Bytes}
    (h : ¬ instructionEnd <:+: done ++ bytes) :
    { s with mode := .instruction done.reverse }.run bytes =
      { s with mode := .instruction (done ++ bytes).reverse } := by
  induction bytes generalizing done with
  | nil => simp [run]
  | cons byte rest ih =>
    have hrest : ¬ instructionEnd <:+: (done ++ [byte]) ++ rest := by simpa using h
    have hopen : (byte == 0x3E && [0x3F].isPrefixOf done.reverse) = false := by
      rw [← Bool.not_eq_true, Bool.and_eq_true, List.isPrefixOf_iff_prefix]
      rintro ⟨hbyte, older, hread⟩
      obtain rfl : byte = 0x3E := eq_of_beq hbyte
      refine h ⟨older.reverse, rest, ?_⟩
      rw [← List.reverse_reverse done, ← hread]
      simp [instructionEnd]
    have hstep : { s with mode := .instruction done.reverse }.step byte =
        { s with mode := .instruction (done ++ [byte]).reverse } := by
      simp [step, hopen]
    rw [run_cons, hstep, ih hrest]
    simp

theorem run_instruction (s : Scanner) (told : List Event) {words : Bytes}
    (hwords : ¬ instructionEnd <:+: 0x3F :: words) :
    (s.tell told).run (writtenInstruction words) = s.tell (told ++ [.skipped]) := by
  have hstart : (s.tell told).run [0x3C, 0x3F] =
      { s.tell told with mode := .instruction [0x3F].reverse } := rfl
  have hend : ∀ read : Bytes, { s.tell told with mode := .instruction read }.run instructionEnd =
      (s.tell told).finishInstruction (0x3F :: read) := fun read => rfl
  have hcontent : (s.tell told).finishInstruction (0x3F :: ([0x3F] ++ words).reverse) =
      (s.tell told).emit .skipped := by
    cases hread : ([0x3F] ++ words).reverse with
    | nil => simp at hread
    | cons a older => rfl
  have hall : writtenInstruction words = [0x3C, 0x3F] ++ words ++ instructionEnd := rfl
  rw [hall, run_append, run_append, hstart, run_inInstruction _ hwords, hend, hcontent, emit_tell]

/-- The element of a start tag, once the scanner has told its content. -/
theorem run_element (s : Scanner) (told : List Event) {body inner blanks : Bytes}
    {events : List Event}
    (hbody : Tag.IsBody body) (hblanks : ∀ byte ∈ blanks, isBlank byte = true)
    (hinner : ∀ (s : Scanner) (told : List Event), (s.tell told).run (inner ++ [0x3C]) =
      { s.tell (told ++ events) with mode := .markup }) :
    (s.tell told).run
        (Tag.opening body ++ inner ++ Tag.closing (Tag.ofContent body).name blanks) =
      s.tell (told ++ (.start (Tag.ofContent body) :: (events ++ [.close]))) := by
  let inside : Scanner := { s with opened := (Tag.ofContent body).name :: s.opened }
  have hopening : (s.tell told).run (Tag.opening body) =
      inside.tell (told ++ [.start (Tag.ofContent body)]) := by
    rw [run_tagOpening rfl hbody]
    simp [inside, tell, step, emit]
  have hopened : inside.opened = (Tag.ofContent body).name :: s.opened := rfl
  have hclosing := (inside.tell (told ++ [.start (Tag.ofContent body)] ++ events)).run_closing hbody
    hblanks hopened
  have hsplit : Tag.opening body ++ inner ++ Tag.closing (Tag.ofContent body).name blanks =
      Tag.opening body ++ ((inner ++ [0x3C]) ++
        (0x2F :: ((Tag.ofContent body).name ++ blanks ++ [0x3E]))) := by
    simp [Tag.closing]
  rw [hsplit, run_append, hopening, run_append, hinner, hclosing, emit_tell]
  simp [inside, tell]

/-- The nodes of what is written are told when the next markup begins. -/
theorem run_writes {nodes : List Node} {written : Bytes} (h : Writes nodes written) (s : Scanner)
    (told : List Event) :
    (s.tell told).run (written ++ [0x3C]) =
      { s.tell (told ++ Node.eventsOf nodes) with mode := .markup } := by
  -- Every node is told with its last byte; the rest goes on from there.
  have hnext : ∀ {piece written : Bytes} {node : Node} {rest : List Node} (s : Scanner)
      (told : List Event), (s.tell told).run piece = s.tell (told ++ node.events) →
      (∀ told, (s.tell told).run (written ++ [0x3C]) =
        { s.tell (told ++ Node.eventsOf rest) with mode := .markup }) →
      (s.tell told).run (piece ++ written ++ [0x3C]) =
        { s.tell (told ++ Node.eventsOf (node :: rest)) with mode := .markup } := by
    intro piece written node rest s told hpiece hrest
    rw [List.append_assoc, run_append, hpiece, hrest, List.append_assoc]
    rfl
  induction h generalizing s told with
  | nil => simp [Node.eventsOf, tell, run, step]
  | @text raw written rest hraw hbracket h ih =>
    -- A run of text is told with the bracket behind it.
    obtain ⟨more, hmore⟩ : ∃ more, written ++ [0x3C] = 0x3C :: more := by
      cases written with
      | nil => exact ⟨[], rfl⟩
      | cons byte more =>
        obtain rfl : byte = 0x3C := by simpa using hbracket
        exact ⟨more ++ [0x3C], rfl⟩
    have htext := (s.tell told).run_text hraw
    have hrest := ih s (told ++ (stretch? raw).toList.map Event.text)
    have hone : ((stretch? raw).toList.map Event.text).reverse =
        (stretch? raw).toList.map Event.text := by
      cases stretch? raw <;> rfl
    have hsplit : raw ++ written ++ [0x3C] = (raw ++ [0x3C]) ++ more := by
      rw [List.append_assoc, hmore, List.append_assoc]
      rfl
    rw [hmore, List.append_assoc] at hrest
    refine Eq.trans ?_ hrest
    rw [hsplit, run_append, run_cons]
    refine congrArg (fun state => run state more) (htext.trans ?_)
    simp [tell, step, hone]
  | literal hraw h ih => exact hnext s told (run_literal s told hraw) (ih s)
  | comment hwords h ih => exact hnext s told (run_comment s told hwords) (ih s)
  | instruction hwords h ih => exact hnext s told (run_instruction s told hwords) (ih s)
  | leaf hbody h ih =>
    refine hnext s told ?_ (ih s)
    rw [run_tagAlone rfl hbody]
    exact emit_tell s told _
  | element hbody hblanks hinner h ihInner ih =>
    refine hnext s told ?_ (ih s)
    exact run_element s told hbody hblanks ihInner

end Scanner

end Recrawl.Xml
