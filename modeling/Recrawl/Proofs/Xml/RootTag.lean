import Recrawl.Proofs.Xml.Growth
import Recrawl.Xml.Namespace

/-!
The first tag of a document. It can be told from any beginning of the document that holds
it, and everything that it says stands there as it is: its name, and the namespaces that it
declares.
-/

namespace Recrawl.Xml

/-- The first tag that ends in the content. -/
def rootTag? (content : Bytes) : Option Tag :=
  (({} : Scanner).run (dropMark content)).events.reverse.findSome? Event.tag?

theorem dropMark_suffix (content : Bytes) : dropMark content <:+ content := by
  unfold dropMark
  split
  · exact List.drop_suffix 3 content
  · exact List.suffix_refl _

/-- A byte order mark that is not complete has no tag in it. -/
theorem rootTag?_of_mark {content : Bytes} (h : content <+: byteOrderMark) :
    rootTag? content = none := by
  have hpart : ∀ length < 4, rootTag? (byteOrderMark.take length) = none := by decide
  have hlength : content.length < 4 := Nat.lt_succ_of_le h.length_le
  rw [List.prefix_iff_eq_take.mp h]
  exact hpart _ hlength

/-- A continuation of content that has a tag begins with a byte order mark if the content does. -/
theorem dropMark_append_of_rootTag? {content : Bytes} {tag : Tag} (h : rootTag? content = some tag)
    (more : Bytes) : dropMark (content ++ more) = dropMark content ++ more := by
  have hmark : byteOrderMark <+: content ++ more ↔ byteOrderMark <+: content := by
    refine ⟨fun hlong => ?_, fun hshort => hshort.trans (List.prefix_append _ _)⟩
    rcases List.prefix_or_prefix_of_prefix hlong (List.prefix_append content more) with hs | hpart
    · exact hs
    · rw [rootTag?_of_mark hpart] at h
      cases h
  unfold dropMark
  simp only [List.isPrefixOf_iff_prefix, hmark]
  split
  · rename_i hmarked
    exact List.drop_append_of_le_length hmarked.length_le
  · rfl

/-- What is behind the first tag does not change it. -/
theorem rootTag?_of_prefix {content longer : Bytes} (h : content <+: longer) {tag : Tag}
    (hroot : rootTag? content = some tag) : rootTag? longer = some tag := by
  obtain ⟨more, rfl⟩ := h
  have hmark := dropMark_append_of_rootTag? hroot more
  unfold rootTag? at hroot ⊢
  rw [hmark, Scanner.run_append]
  obtain ⟨later, hlater⟩ := (({} : Scanner).run (dropMark content)).events_run more
  rw [← hlater, List.reverse_append, List.findSome?_append, hroot, Option.some_or]

/-- The first tag stands in the content. -/
theorem text_infix_of_rootTag? {content : Bytes} {tag : Tag} (h : rootTag? content = some tag) :
    tag.text <:+: content := by
  obtain ⟨event, hevent, htag⟩ := List.exists_of_findSome?_eq_some h
  have hfollows := Scanner.follows_run Scanner.follows_initial (dropMark content)
  rw [List.nil_append] at hfollows
  exact (hfollows.told event (List.mem_reverse.mp hevent) tag htag).trans
    (dropMark_suffix content).isInfix

namespace Attribute.Reading

/-- The value in progress ends what was read, and every value that was found stands in it. -/
structure Follows (r : Reading) (read : Bytes) : Prop where
  value : ∀ name quote value, r.mode = .value name quote value → value.reverse <:+ read
  found : ∀ attr, some attr ∈ r.found → attr.value <:+: read

theorem follows_assign {r : Reading} {read : Bytes} (unique : Bool) (name : Bytes)
    (h : ∀ attr, some attr ∈ r.found → attr.value <:+: read) :
    (r.assign unique name).Follows read := by
  unfold assign
  split
  · exact ⟨by simp, by simpa using h⟩
  · exact ⟨by simp, h⟩

theorem follows_step {r : Reading} {read : Bytes} (h : r.Follows read) (unique : Bool)
    (byte : UInt8) : (r.step unique byte).Follows (read ++ [byte]) := by
  have hkept : ∀ attr, some attr ∈ r.found → attr.value <:+: read ++ [byte] :=
    fun attr hattr => (h.found attr hattr).trans (List.prefix_append _ _).isInfix
  cases hmode : r.mode with
  | between =>
    simp only [step, hmode]
    split
    · exact ⟨by simp [hmode], hkept⟩
    · exact ⟨by simp, hkept⟩
  | name part =>
    simp only [step, hmode]
    split
    · exact follows_assign unique _ hkept
    · split
      · exact ⟨by simp, hkept⟩
      · exact ⟨by simp, hkept⟩
  | named name =>
    simp only [step, hmode]
    split
    · exact follows_assign unique _ hkept
    · split
      · exact ⟨by simp [hmode], hkept⟩
      · exact ⟨by simp, by simpa using hkept⟩
  | assigned name =>
    simp only [step, hmode]
    split
    · exact ⟨by simp [hmode], hkept⟩
    · split
      · refine ⟨?_, hkept⟩
        intro _ _ _ heq
        cases heq
        exact List.nil_suffix
      · exact ⟨by simp, by simpa using hkept⟩
  | value name quote part =>
    have hpart := h.value name quote part hmode
    simp only [step, hmode]
    split
    · refine ⟨by simp, ?_⟩
      intro attr hattr
      rcases List.mem_cons.mp hattr with heq | hattr
      · cases heq
        exact hpart.isInfix.trans (List.prefix_append _ _).isInfix
      · exact hkept attr hattr
    · refine ⟨?_, hkept⟩
      intro _ _ _ heq
      cases heq
      obtain ⟨front, hfront⟩ := hpart
      exact ⟨front, by rw [List.reverse_cons, ← List.append_assoc, hfront]⟩
  | skipping =>
    simp only [step, hmode]
    split
    · exact ⟨by simp, hkept⟩
    · exact ⟨by simp [hmode], hkept⟩

theorem follows_foldl {r : Reading} {read : Bytes} (h : r.Follows read) (unique : Bool)
    (bytes : Bytes) : (bytes.foldl (step unique) r).Follows (read ++ bytes) := by
  induction bytes generalizing r read with
  | nil =>
    rw [List.append_nil]
    exact h
  | cons byte rest ih =>
    rw [List.append_cons]
    exact ih (follows_step h unique byte)

theorem mem_found_of_mem_finish {r : Reading} {attr : Attribute} (h : some attr ∈ r.finish) :
    some attr ∈ r.found := by
  unfold finish at h
  split at h <;> simpa using h

end Attribute.Reading

/-- The values of attributes stand in the tag as they are. -/
theorem Tag.value_infix_of_mem {tag : Tag} {attr : Attribute} (h : attr ∈ tag.leadingAttributes) :
    attr.value <:+: tag.attributes := by
  obtain ⟨found, hfound, heq⟩ := List.mem_filterMap.mp h
  cases heq
  have hread := (List.takeWhile_prefix _).mem hfound
  have hinitial : ({} : Attribute.Reading).Follows [] := ⟨by simp, by simp⟩
  have hfollows := Attribute.Reading.follows_foldl hinitial false tag.attributes
  exact hfollows.found attr (Attribute.Reading.mem_found_of_mem_finish hread)

theorem Binding.uri_of_ofAttribute {attr : Attribute} {binding : Binding}
    (h : ofAttribute attr = .ok (some binding)) : binding.uri = attr.value := by
  unfold ofAttribute at h
  simp only at h
  split at h
  · cases h
  · cases h
    rfl
  · split at h
    · split at h <;> cases h
    · split at h
      · cases h
      · split at h
        · cases h
        · split at h
          · cases h
          · cases h
            rfl

namespace Scope

/-- A declaration is one that was in force, or one that an attribute makes. -/
theorem mem_declare {scope inner : Scope} {attrs : List Attribute}
    (h : declare scope attrs = .ok inner) {binding : Binding} (hmem : binding ∈ inner) :
    binding ∈ scope ∨ ∃ attr ∈ attrs, binding.uri = attr.value := by
  induction attrs generalizing scope with
  | nil =>
    cases h
    exact .inl hmem
  | cons attr rest ih =>
    rw [declare] at h
    split at h
    · cases h
    · rcases ih h with hscope | ⟨other, hother, huri⟩
      · exact .inl hscope
      · exact .inr ⟨other, List.mem_cons_of_mem _ hother, huri⟩
    · rename_i declared hdeclared
      rcases ih h with hscope | ⟨other, hother, huri⟩
      · rcases List.mem_cons.mp hscope with rfl | hscope
        · exact .inr ⟨attr, List.mem_cons_self, Binding.uri_of_ofAttribute hdeclared⟩
        · exact .inl hscope
      · exact .inr ⟨other, List.mem_cons_of_mem _ hother, huri⟩

/-- The namespace of a name is one that was in force, or it stands in the tag that is entered. -/
theorem uri_of_resolve {scope inner : Scope} {tag : Tag} (henter : scope.enter tag = .ok inner)
    {name uri : Bytes} (h : inner.resolve name = .bound uri) :
    (∃ binding ∈ scope, binding.uri = uri) ∨ uri <:+: tag.attributes := by
  unfold enter at henter
  split at henter
  · rename_i declared hdeclare
    cases henter
    unfold resolve at h
    simp only at h
    split at h
    · rename_i binding hfind
      have huri : binding.uri = uri := by
        split at h
        · cases h
          rfl
        · split at h <;> cases h
      have hmem := List.mem_of_find?_eq_some hfind
      rcases mem_declare hdeclare hmem with hscope | ⟨attr, hattr, hvalue⟩
      · exact .inl ⟨binding, hscope, huri⟩
      · rw [← huri, hvalue]
        exact .inr (Tag.value_infix_of_mem hattr)
    · split at h <;> cases h
  · cases henter

end Scope

end Recrawl.Xml
