import Recrawl.Proofs.Text.Ascii
import Recrawl.Proofs.Text.Trimming
import Recrawl.Proofs.Xml.Tree

/-!
The value of an element's content: all of its character data, in the order of the document. What is
told of it lacks the blanks at the ends of every run of text.
-/

namespace Recrawl.Xml

namespace Reference

theorem resolve_of_eq_ok {first : Nat} {name : List Char} {c : Char}
    (h : resolve first name = .ok c) (first' : Nat) : resolve first' name = .ok c := by
  unfold resolve at h ⊢
  split at h
  · exact h
  · cases hname : predefined? name with
    | some c' => simpa only [hname] using h
    | none => simp [hname] at h

/-- Text whose references are sound is read alike behind other text. -/
theorem expandFrom_of_eq_ok {text : List Char} {offset : Nat} {done chars : List Char}
    {begun begun' : Option (Nat × List Char)} (h : expandFrom offset done begun text = .ok chars)
    (hbegun : begun.map (·.2) = begun'.map (·.2)) (offset' : Nat) (before : List Char) :
    expandFrom offset' (done ++ before) begun' text = .ok (before.reverse ++ chars) := by
  induction text generalizing offset done begun begun' offset' with
  | nil =>
    cases begun with
    | some pending => cases h
    | none =>
      obtain rfl : begun' = none := by simpa using hbegun.symm
      obtain rfl : done.reverse = chars := by simpa [expandFrom] using h
      simp [expandFrom]
  | cons c rest ih =>
    cases begun with
    | none =>
      obtain rfl : begun' = none := by simpa using hbegun.symm
      rw [expandFrom] at h ⊢
      split
      · rename_i hreference
        rw [if_pos hreference] at h
        exact ih h (by rfl) _
      · rename_i hreference
        rw [if_neg hreference] at h
        exact ih h (by rfl) _
    | some pending =>
      obtain ⟨start, name⟩ := pending
      obtain ⟨⟨start', name'⟩, rfl⟩ : ∃ pending', begun' = some pending' := by
        cases begun' with
        | none => cases hbegun
        | some pending' => exact ⟨pending', rfl⟩
      obtain rfl : name = name' := by simpa using hbegun
      rw [expandFrom] at h ⊢
      split
      · rename_i hreference
        rw [if_pos hreference] at h
        cases h
      · rename_i hreference
        rw [if_neg hreference] at h
        split
        · rename_i hend
          rw [if_pos hend] at h
          cases hresolve : resolve (start + 1) name.reverse with
          | error fault => rw [hresolve] at h; cases h
          | ok resolved =>
            rw [hresolve] at h
            rw [resolve_of_eq_ok hresolve]
            exact ih h (by rfl) _
        · rename_i hend
          rw [if_neg hend] at h
          exact ih h (by rfl) _

theorem expandFrom_plain {text : List Char} (h : ∀ c ∈ text, c ≠ '&') (offset : Nat)
    (done : List Char) : expandFrom offset done none text = .ok (done.reverse ++ text) := by
  induction text generalizing offset done with
  | nil => simp [expandFrom]
  | cons c rest ih =>
    have hrest := ih (fun other hother => h other (List.mem_cons_of_mem _ hother))
    simp [expandFrom, h c List.mem_cons_self, hrest]

/-- Text without references behind text whose references are sound. -/
theorem expandFrom_append {text more : List Char} {offset : Nat} {done chars : List Char}
    {begun : Option (Nat × List Char)} (h : expandFrom offset done begun text = .ok chars)
    (hmore : ∀ c ∈ more, c ≠ '&') :
    expandFrom offset done begun (text ++ more) = .ok (chars ++ more) := by
  induction text generalizing offset done begun with
  | nil =>
    cases begun with
    | some pending => cases h
    | none =>
      obtain rfl : done.reverse = chars := by simpa [expandFrom] using h
      exact expandFrom_plain hmore offset done
  | cons c rest ih =>
    rw [List.cons_append]
    cases begun with
    | none =>
      rw [expandFrom] at h ⊢
      split
      · rename_i hreference
        rw [if_pos hreference] at h
        exact ih h
      · rename_i hreference
        rw [if_neg hreference] at h
        exact ih h
    | some pending =>
      rw [expandFrom] at h ⊢
      split
      · rename_i hreference
        rw [if_pos hreference] at h
        cases h
      · rename_i hreference
        rw [if_neg hreference] at h
        split
        · rename_i hend
          rw [if_pos hend] at h
          cases hresolve : resolve (pending.1 + 1) pending.2.reverse with
          | error fault => rw [hresolve] at h; cases h
          | ok resolved =>
            rw [hresolve] at h
            exact ih h
        · rename_i hend
          rw [if_neg hend] at h
          exact ih h

theorem expand_append {front text back chars : List Char} (h : expand text = .ok chars)
    (hfront : ∀ c ∈ front, c ≠ '&') (hback : ∀ c ∈ back, c ≠ '&') :
    expand (front ++ text ++ back) = .ok (front ++ chars ++ back) := by
  have hread : ∀ offset done, expandFrom offset done none (front ++ text) =
      .ok (done.reverse ++ front ++ chars) := by
    induction front with
    | nil =>
      intro offset done
      have hbehind := expandFrom_of_eq_ok h rfl offset done
      simpa using hbehind
    | cons c rest ih =>
      intro offset done
      have hrest := ih (fun other hother => hfront other (List.mem_cons_of_mem _ hother))
      simp [expandFrom, hfront c List.mem_cons_self, hrest]
  exact expandFrom_append (hread 0 []) hback

theorem asciiChar_of_isBlank {byte : UInt8} (h : isBlank byte = true) :
    byte < 0x80 ∧ Text.Utf8.asciiChar byte ≠ '&' ∧
      Text.isBlank (Text.Utf8.asciiChar byte) = true := by
  simp only [isBlank, Bool.or_eq_true, beq_iff_eq] at h
  rcases h with ((rfl | rfl) | rfl) | rfl <;> decide

/-- The text with blanks around it. -/
theorem decode_append {front raw back : Bytes} {chars : List Char} (h : decode raw = .ok chars)
    (hfront : ∀ byte ∈ front, isBlank byte = true) (hback : ∀ byte ∈ back, isBlank byte = true) :
    decode (front ++ raw ++ back) = .ok (front.map Text.Utf8.asciiChar ++ chars ++
      back.map Text.Utf8.asciiChar) := by
  have hplain : ∀ {bytes : Bytes}, (∀ byte ∈ bytes, isBlank byte = true) →
      ∀ c ∈ bytes.map Text.Utf8.asciiChar, c ≠ '&' := by
    intro bytes hbytes c hc
    obtain ⟨byte, hbyte, rfl⟩ := List.mem_map.mp hc
    exact (asciiChar_of_isBlank (hbytes byte hbyte)).2.1
  unfold decode at h
  cases hstrict : Text.Utf8.strict raw with
  | error fault => rw [hstrict] at h; cases h
  | ok text =>
    rw [hstrict] at h
    have hall := Text.Utf8.strict_append hstrict
      (fun byte hbyte => (asciiChar_of_isBlank (hfront byte hbyte)).1)
      (fun byte hbyte => (asciiChar_of_isBlank (hback byte hbyte)).1)
    unfold decode
    rw [hall]
    exact expand_append h (hplain hfront) (hplain hback)

end Reference

/-- The blanks that text begins with. -/
def blanksBefore (raw : Bytes) : Bytes := raw.takeWhile isBlank

/-- The blanks that text ends with, unless it begins with them. -/
def blanksBehind (raw : Bytes) : Bytes :=
  ((raw.dropWhile isBlank).reverse.takeWhile isBlank).reverse

/-- The text without the blanks at its ends. -/
def core (raw : Bytes) : Bytes := Text.between isBlank raw

theorem append_core (raw : Bytes) : raw = blanksBefore raw ++ core raw ++ blanksBehind raw := by
  have hrest : core raw ++ blanksBehind raw = raw.dropWhile isBlank := by
    rw [core, Text.between, blanksBehind, ← List.reverse_append, List.takeWhile_append_dropWhile,
      List.reverse_reverse]
  rw [List.append_assoc, hrest, blanksBefore, List.takeWhile_append_dropWhile]

theorem isBlank_of_mem_blanksBefore (raw : Bytes) : ∀ byte ∈ blanksBefore raw, isBlank byte = true :=
  List.all_eq_true.mp List.all_takeWhile

theorem isBlank_of_mem_blanksBehind (raw : Bytes) :
    ∀ byte ∈ blanksBehind raw, isBlank byte = true :=
  fun byte hbyte => List.all_eq_true.mp List.all_takeWhile byte (List.mem_reverse.mp hbyte)

theorem stretch?_eq (raw : Bytes) :
    stretch? raw = if (core raw).isEmpty then none else some (core raw) := rfl

/-- The text is sound with the blanks at its ends if it is without. -/
theorem decode_of_stretch? {raw : Bytes} (h : (stretch? raw).all Reference.isSound = true) :
    Reference.decode raw = .ok ((blanksBefore raw).map Text.Utf8.asciiChar ++
      Reference.decoded (core raw) ++ (blanksBehind raw).map Text.Utf8.asciiChar) := by
  have hcore : Reference.decode (core raw) = .ok (Reference.decoded (core raw)) := by
    rw [stretch?_eq] at h
    split at h
    · rename_i hempty
      rw [List.isEmpty_iff.mp hempty]
      rfl
    · exact Reference.decode_of_isSound (by simpa using h)
  have hall := Reference.decode_append hcore (isBlank_of_mem_blanksBefore raw)
    (isBlank_of_mem_blanksBehind raw)
  rwa [← append_core] at hall

namespace Node

mutual

/-- All character data of a node at any depth, with all blanks. -/
def value : Node → List Char
  | element _ children => valueOf children
  | leaf _ => []
  | text raw => Reference.decoded raw
  | literal raw => Text.Utf8.lossy raw
  | skipped => []

/-- All character data of nodes one after the other. -/
def valueOf : List Node → List Char
  | [] => []
  | node :: rest => node.value ++ valueOf rest

end

/-- The characters of a text; the blanks at its ends are left out. -/
def textMarks (raw : Bytes) : List (Char × Bool) :=
  (blanksBefore raw).map (fun byte => (Text.Utf8.asciiChar byte, false)) ++
    (Reference.decoded (core raw)).map (fun c => (c, true)) ++
    (blanksBehind raw).map fun byte => (Text.Utf8.asciiChar byte, false)

mutual

/-- All character data of a node, with what is left out of it. -/
def marks : Node → List (Char × Bool)
  | element _ children => marksOf children
  | leaf _ => []
  | text raw => textMarks raw
  | literal raw => (Text.Utf8.lossy raw).map fun c => (c, true)
  | skipped => []

/-- All character data of nodes, with what is left out of it. -/
def marksOf : List Node → List (Char × Bool)
  | [] => []
  | node :: rest => node.marks ++ marksOf rest

end

open Text (charsOf keptOf isBlankMark)

theorem charsOf_textMarks {raw : Bytes} (h : (stretch? raw).all Reference.isSound = true) :
    charsOf (textMarks raw) = Reference.decoded raw := by
  have hdecoded : Reference.decoded raw = (blanksBefore raw).map Text.Utf8.asciiChar ++
      Reference.decoded (core raw) ++ (blanksBehind raw).map Text.Utf8.asciiChar := by
    conv => lhs; rw [Reference.decoded, decode_of_stretch? h]
  rw [hdecoded]
  simp [charsOf, textMarks, Function.comp_def]

theorem keptOf_textMarks (raw : Bytes) :
    keptOf (textMarks raw) = ((stretch? raw).toList.map Reference.decoded).flatten := by
  have hnone (bytes : Bytes) : bytes.filter (fun _ => false) = [] := by simp
  have hall (chars : List Char) : chars.filter (fun _ => true) = chars := by simp
  have hkept : keptOf (textMarks raw) = Reference.decoded (core raw) := by
    simp [keptOf, textMarks, List.filter_map, Function.comp_def, hnone, hall]
  rw [hkept, stretch?_eq]
  split
  · rename_i hempty
    rw [List.isEmpty_iff.mp hempty]
    rfl
  · simp

theorem isBlankMark_of_mem_textMarks {raw : Bytes} {mark : Char × Bool} (h : mark ∈ textMarks raw)
    (hleft : mark.2 = false) : isBlankMark mark = true := by
  simp only [textMarks, List.mem_append, List.mem_map] at h
  obtain (⟨byte, hbyte, rfl⟩ | ⟨c, hc, rfl⟩) | ⟨byte, hbyte, rfl⟩ := h
  · exact (Reference.asciiChar_of_isBlank (isBlank_of_mem_blanksBefore raw byte hbyte)).2.2
  · cases hleft
  · exact (Reference.asciiChar_of_isBlank (isBlank_of_mem_blanksBehind raw byte hbyte)).2.2

mutual

theorem charsOf_marks {scope : Scope} : (node : Node) → node.isSound scope = true →
    charsOf node.marks = node.value
  | element tag children, h => charsOf_marksOf children (isSound_element h).2.2
  | leaf tag, _ => rfl
  | text raw, h => charsOf_textMarks (by simpa only [isSound] using h)
  | literal raw, _ => by simp [marks, value, charsOf, Function.comp_def]
  | skipped, _ => rfl

/-- All marks together are the value. -/
theorem charsOf_marksOf {scope : Scope} : (nodes : List Node) → areSound scope nodes = true →
    charsOf (marksOf nodes) = valueOf nodes
  | [], _ => rfl
  | node :: rest, h => by
    have hnode := charsOf_marks node (areSound_cons h).1
    have hrest := charsOf_marksOf rest (areSound_cons h).2
    rw [valueOf, ← hnode, ← hrest]
    simp only [charsOf, marksOf, List.map_append]

end

mutual

theorem keptOf_marks : (node : Node) → keptOf node.marks = node.pieces.flatten
  | element tag children => keptOf_marksOf children
  | leaf tag => rfl
  | text raw => keptOf_textMarks raw
  | literal raw => by simp [marks, pieces, keptOf, List.filter_map, Function.comp_def]
  | skipped => rfl

/-- What is kept is what the events tell. -/
theorem keptOf_marksOf : (nodes : List Node) → keptOf (marksOf nodes) = (piecesOf nodes).flatten
  | [] => rfl
  | node :: rest => by
    rw [marksOf, Text.keptOf_append, keptOf_marks node, keptOf_marksOf rest, piecesOf,
      List.flatten_append]

end

mutual

theorem isBlankMark_of_mem_marks {mark : Char × Bool} (hleft : mark.2 = false) : (node : Node) →
    mark ∈ node.marks → isBlankMark mark = true
  | element tag children, h => isBlankMark_of_mem_marksOf hleft children h
  | leaf tag, h => nomatch h
  | text raw, h => isBlankMark_of_mem_textMarks h hleft
  | literal raw, h => by
    obtain ⟨c, hc, rfl⟩ := List.mem_map.mp h
    cases hleft
  | skipped, h => nomatch h

/-- Only blanks are left out. -/
theorem isBlankMark_of_mem_marksOf {mark : Char × Bool} (hleft : mark.2 = false) :
    (nodes : List Node) → mark ∈ marksOf nodes → isBlankMark mark = true
  | [], h => nomatch h
  | node :: rest, h => by
    rcases List.mem_append.mp h with h | h
    · exact isBlankMark_of_mem_marks hleft node h
    · exact isBlankMark_of_mem_marksOf hleft rest h

end

/-- What is told of the value: without the blanks at its own ends, it is the value but for the blanks
at the ends of runs of text; and it is the whole value exactly if these are at its ends. -/
theorem trimChars_flatten_piecesOf (nodes : List Node) :
    Text.trimChars (piecesOf nodes).flatten = keptOf (Text.trimMarks (marksOf nodes)) := by
  rw [← keptOf_marksOf]
  exact Text.trimChars_keptOf fun mark hmark hleft => isBlankMark_of_mem_marksOf hleft nodes hmark

theorem trimChars_flatten_piecesOf_eq_iff {scope : Scope} {nodes : List Node}
    (h : areSound scope nodes = true) :
    Text.trimChars (piecesOf nodes).flatten = Text.trimChars (valueOf nodes) ↔
      ∀ mark ∈ Text.trimMarks (marksOf nodes), mark.2 = true := by
  rw [← keptOf_marksOf, ← charsOf_marksOf nodes h]
  exact Text.trimChars_keptOf_eq_iff fun mark hmark hleft =>
    isBlankMark_of_mem_marksOf hleft nodes hmark

end Node

end Recrawl.Xml
