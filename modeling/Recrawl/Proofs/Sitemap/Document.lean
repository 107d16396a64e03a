import Recrawl.Sitemap.Document

/-!
When content is read as a document. It is if it begins with an angle bracket, unless its
type says that it is plain text; no such content is compressed. All other content is a plain
list.
-/

namespace Recrawl

namespace Sitemap

/-- Content that begins with an angle bracket, behind a byte order mark and blanks if there are
any. -/
def StartsWithMarkup (content : Bytes) : Prop :=
  ∃ mark blanks rest : Bytes, content = mark ++ (blanks ++ 0x3C :: rest) ∧
    (mark = [] ∨ mark = Xml.byteOrderMark) ∧ ∀ b ∈ blanks, Bytes.isAsciiBlank b = true

/-- The content type does not ask for plain text. -/
def IsNotPlain (contentType : Option String) : Prop :=
  ∀ type, contentType = some type →
    ¬ Bytes.ofString "text/plain" <:+: Bytes.ofString type

/-- Behind blanks and an angle bracket there is no byte order mark. -/
theorem dropMark_of_blanks {blanks : Bytes} (hblanks : ∀ b ∈ blanks, Bytes.isAsciiBlank b = true)
    (rest : Bytes) : Xml.dropMark (blanks ++ 0x3C :: rest) = blanks ++ 0x3C :: rest := by
  unfold Xml.dropMark
  split
  · rename_i hmark
    cases blanks with
    | nil => simp [Xml.byteOrderMark, List.isPrefixOf] at hmark
    | cons b more =>
      have hb : b = 0xEF := by
        simp only [Xml.byteOrderMark, List.cons_append, List.isPrefixOf, Bool.and_eq_true,
          beq_iff_eq] at hmark
        exact hmark.1.symm
      have hblank := hblanks b (by simp)
      rw [hb] at hblank
      exact absurd hblank (by decide)
  · rfl

theorem dropMark_append_mark (content : Bytes) :
    Xml.dropMark (Xml.byteOrderMark ++ content) = content := by
  simp [Xml.dropMark, Xml.byteOrderMark, List.isPrefixOf]

namespace StartsWithMarkup

theorem append {content : Bytes} (h : StartsWithMarkup content) (more : Bytes) :
    StartsWithMarkup (content ++ more) := by
  obtain ⟨mark, blanks, rest, rfl, hmark, hblanks⟩ := h
  exact ⟨mark, blanks, rest ++ more, by simp, hmark, hblanks⟩

theorem dropMark_append {content : Bytes} (h : StartsWithMarkup content) (more : Bytes) :
    Xml.dropMark (content ++ more) = Xml.dropMark content ++ more := by
  obtain ⟨mark, blanks, rest, rfl, hmark, hblanks⟩ := h
  have hmore : (blanks ++ 0x3C :: rest) ++ more = blanks ++ 0x3C :: (rest ++ more) := by simp
  rcases hmark with rfl | rfl
  · rw [List.nil_append, hmore, dropMark_of_blanks hblanks, dropMark_of_blanks hblanks, hmore]
  · rw [List.append_assoc, dropMark_append_mark, dropMark_append_mark]

theorem looksLikeXml {content : Bytes} (h : StartsWithMarkup content) :
    Sitemap.looksLikeXml content = true := by
  obtain ⟨mark, blanks, rest, rfl, hmark, hblanks⟩ := h
  have hdrop : Xml.dropMark (mark ++ (blanks ++ 0x3C :: rest)) = blanks ++ 0x3C :: rest := by
    rcases hmark with rfl | rfl
    · exact dropMark_of_blanks hblanks rest
    · exact dropMark_append_mark _
  have hskip : (blanks ++ 0x3C :: rest).dropWhile Bytes.isAsciiBlank = 0x3C :: rest := by
    rw [List.dropWhile_append_of_pos hblanks]
    rfl
  unfold Sitemap.looksLikeXml
  rw [hdrop, hskip]
  rfl

theorem not_all_isAsciiBlank {content : Bytes} (h : StartsWithMarkup content) :
    content.all Bytes.isAsciiBlank = false := by
  obtain ⟨mark, blanks, rest, rfl, -, -⟩ := h
  rw [List.all_eq_false]
  exact ⟨0x3C, by simp, by decide⟩

theorem not_isGzip {content : Bytes} (h : StartsWithMarkup content) :
    Gzip.isGzip content = false := by
  obtain ⟨mark, blanks, rest, rfl, hmark, hblanks⟩ := h
  rcases hmark with rfl | rfl
  · cases blanks with
    | nil => rfl
    | cons b more =>
      have hne : b ≠ 0x1F := by
        rintro rfl
        exact absurd (hblanks 0x1F (by simp)) (by decide)
      simp [Gzip.isGzip, List.isPrefixOf, Ne.symm hne]
  · rfl

end StartsWithMarkup

theorem startsWithMarkup_of_looksLikeXml {content : Bytes}
    (h : Sitemap.looksLikeXml content = true) : StartsWithMarkup content := by
  unfold Sitemap.looksLikeXml at h
  split at h
  · rename_i rest hrest
    have hblanks : Xml.dropMark content =
        (Xml.dropMark content).takeWhile Bytes.isAsciiBlank ++ 0x3C :: rest := by
      rw [← hrest, List.takeWhile_append_dropWhile]
    have hall := List.all_eq_true.mp
      (List.all_takeWhile (p := Bytes.isAsciiBlank) (l := Xml.dropMark content))
    by_cases hmark : Xml.byteOrderMark.isPrefixOf content = true
    · obtain ⟨behind, rfl⟩ := List.isPrefixOf_iff_prefix.mp hmark
      refine ⟨Xml.byteOrderMark, _, rest, ?_, .inr rfl, hall⟩
      rw [← hblanks, dropMark_append_mark]
    · have hdrop : Xml.dropMark content = content := if_neg hmark
      refine ⟨[], _, rest, ?_, .inl rfl, hall⟩
      rw [← hblanks, hdrop, List.nil_append]
  · cases h

theorem value_readDocument (allowPartial : Bool) (url : String) (content : Bytes) :
    (readDocument allowPartial url content).value = (readXml content).result allowPartial := by
  unfold readDocument
  simp only [Logged.value_bind]
  split <;> rfl

theorem IsNotPlain.any_eq_false {contentType : Option String} (h : IsNotPlain contentType) :
    (contentType.any fun type =>
      Bytes.occursIn (Bytes.ofString "text/plain") (Bytes.ofString type)) = false := by
  cases contentType with
  | none => rfl
  | some type =>
    rw [Option.any_some, ← Bool.not_eq_true, Bytes.occursIn_iff]
    exact h type rfl

/-- Content that starts with markup is read as a document, unless its type is plain text. -/
theorem value_read_of_startsWithMarkup (allowPartial : Bool) (url : String) {content : Bytes}
    {contentType : Option String} (hmarkup : StartsWithMarkup content)
    (htype : IsNotPlain contentType) :
    (read allowPartial url content contentType).value =
      (readXml content).result allowPartial := by
  have hdecode : Gzip.decode content = .ok content := by
    simp [Gzip.decode, hmarkup.not_isGzip]
  have hblank := hmarkup.not_all_isAsciiBlank
  have hxml := hmarkup.looksLikeXml
  simp [read, hdecode, hblank, htype.any_eq_false, hxml, value_readDocument]

/-- What is read of content in the form of a document is read as one, compressed or not. -/
theorem result_of_read {allowPartial : Bool} {url : String} {content decoded : Bytes}
    {contentType : Option String} {sitemap : Sitemap} (hdecode : Gzip.decode content = .ok decoded)
    (hxml : looksLikeXml decoded = true) (htype : IsNotPlain contentType)
    (h : (read allowPartial url content contentType).value = .ok sitemap) :
    (readXml decoded).result allowPartial = .ok sitemap := by
  unfold read at h
  rw [hdecode] at h
  simp only at h
  split at h
  · cases h
  · simpa [htype.any_eq_false, hxml, value_readDocument] using h

theorem value_readPlain (url : String) (content : Bytes) :
    (readPlain url content).value = ⟨.urlSet, (plainLines content).filterMap lineEntry?, false⟩ := by
  unfold readPlain
  rw [Logged.value_bind, Logged.value_mapM]
  simp only [Logged.value_pure, List.filterMap_map]
  congr 2
  funext line
  rw [Function.comp_apply]
  cases lineEntry? line <;> rfl

/-- Content that is read as a plain list: it is not compressed, has more than blanks, and its type
asks for plain text or it has no markup in front. -/
structure IsPlainList (contentType : Option String) (content : Bytes) : Prop where
  unpacked : Gzip.isGzip content = false
  filled : ∃ byte ∈ content, Bytes.isAsciiBlank byte = false
  plain : ¬ IsNotPlain contentType ∨ ¬ StartsWithMarkup content

theorem any_eq_true_of_not_isNotPlain {contentType : Option String} (h : ¬ IsNotPlain contentType) :
    (contentType.any fun type =>
      Bytes.occursIn (Bytes.ofString "text/plain") (Bytes.ofString type)) = true := by
  rw [← Bool.not_eq_false]
  intro hfalse
  apply h
  rintro type rfl hinfix
  rw [Option.any_some, (Bytes.occursIn_iff _ _).mpr hinfix] at hfalse
  cases hfalse

theorem value_read_of_isPlainList (allowPartial : Bool) (url : String) {content : Bytes}
    {contentType : Option String} (h : IsPlainList contentType content) :
    (read allowPartial url content contentType).value =
      .ok ⟨.urlSet, (plainLines content).filterMap lineEntry?, false⟩ := by
  have hdecode : Gzip.decode content = .ok content := by
    simp [Gzip.decode, h.unpacked]
  have hblank : content.all Bytes.isAsciiBlank = false := by
    obtain ⟨byte, hbyte, hfilled⟩ := h.filled
    exact List.all_eq_false.mpr ⟨byte, hbyte, by simp [hfilled]⟩
  have hplain : ((contentType.any fun type =>
      Bytes.occursIn (Bytes.ofString "text/plain") (Bytes.ofString type)) ||
        !looksLikeXml content) = true := by
    rcases h.plain with htype | hmarkup
    · rw [any_eq_true_of_not_isNotPlain htype, Bool.true_or]
    · have hxml : looksLikeXml content = false := by
        rw [← Bool.not_eq_true]
        exact fun hlooks => hmarkup (startsWithMarkup_of_looksLikeXml hlooks)
      rw [hxml, Bool.not_false, Bool.or_true]
  unfold read
  rw [hdecode]
  simp only [hblank, hplain, if_true, Bool.false_eq_true, if_false]
  rw [Logged.value_map, value_readPlain]

end Sitemap

end Recrawl
