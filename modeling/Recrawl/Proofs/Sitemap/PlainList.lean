import Recrawl.Proofs.Sitemap.Document
import Recrawl.Proofs.Text.Lossy
import Recrawl.Proofs.Text.Trimming

/-!
Plain lists, read line by line. The bytes of a line alone decide whether it names a page, whatever
stands in the other lines, so that a list that ends in a newline may be followed by any other.
-/

namespace Recrawl

namespace Sitemap

open Text.Utf8 (lossy)

/-- The bytes of a line without a carriage return at the end. -/
def dropReturn (line : Bytes) : Bytes :=
  if line.getLast? = some 0x0D then line.dropLast else line

/-- The lines of some content, which end in a newline or in a carriage return and a newline. A byte
order mark in front is no part of the first. -/
def byteLines (content : Bytes) : List Bytes :=
  ((Xml.dropMark content).splitOnP (· == 0x0A)).map dropReturn

/-- The page that a line names: the URL of the web that is left once blanks are trimmed. -/
def webPage? (line : Bytes) : Option Url :=
  (Url.ofChars (Text.trimChars (lossy line))).toOption.filter Url.isHttp

/-- The pages that the lines of some content name, in order. -/
def pagesOf (content : Bytes) : List Url :=
  (byteLines content).filterMap webPage?

/-- A page of which nothing else is told. -/
def Entry.ofPage (page : Url) : Entry :=
  ⟨page, none, none, none, [], []⟩

theorem trimChars_return (line : List Char) :
    Text.trimChars (line ++ ['\r']) = Text.trimChars line := by
  have hreturn : ∀ c ∈ ['\r'], Text.isBlank c = true := by
    intro c hc
    rw [List.mem_singleton.mp hc]
    rfl
  exact Text.between_append (List.forall_mem_nil _) hreturn

theorem webPage?_dropReturn (line : Bytes) : webPage? (dropReturn line) = webPage? line := by
  unfold dropReturn
  split
  · rename_i hlast
    obtain ⟨front, rfl⟩ := List.getLast?_eq_some_iff.mp hlast
    have hline : lossy (front ++ [0x0D]) = lossy front ++ ['\r'] :=
      Text.Utf8.lossy_append_ascii (by decide) front []
    rw [List.dropLast_concat, webPage?, webPage?, hline, trimChars_return]
  · rfl

theorem lineEntry?_eq (text : List Char) :
    lineEntry? text =
      ((Url.ofChars text).toOption.filter Url.isHttp).map Entry.ofPage := by
  unfold lineEntry?
  cases Url.ofChars text with
  | error fault => rfl
  | ok page =>
    cases hhttp : page.isHttp with
    | true => simp [Except.toOption, Option.filter, Entry.ofPage, hhttp]
    | false => simp [Except.toOption, Option.filter, hhttp]

theorem dropTextMark_lossy (content : Bytes) :
    dropTextMark (lossy content) = lossy (Xml.dropMark content) := by
  by_cases hmark : Xml.byteOrderMark.isPrefixOf content = true
  · obtain ⟨rest, rfl⟩ := List.isPrefixOf_iff_prefix.mp hmark
    have htext : lossy (Xml.byteOrderMark ++ rest) = Char.ofNat 0xFEFF :: lossy rest :=
      Text.Utf8.lossy_mark rest
    rw [dropMark_append_mark, htext, dropTextMark, if_pos (by decide)]
  · have hdrop : Xml.dropMark content = content := if_neg hmark
    rw [hdrop]
    cases htext : lossy content with
    | nil => rfl
    | cons c text =>
      apply if_neg
      intro hc
      have hhead : (lossy content).head? = some c := by rw [htext, List.head?_cons]
      obtain ⟨rest, rfl⟩ := Text.Utf8.eq_mark_of_head? hhead (eq_of_beq hc)
      exact hmark rfl

theorem pagesOf_eq (content : Bytes) :
    pagesOf content = ((Xml.dropMark content).splitOnP (· == 0x0A)).filterMap webPage? := by
  have hline : webPage? ∘ dropReturn = webPage? := by
    funext line
    rw [Function.comp_apply, webPage?_dropReturn]
  rw [pagesOf, byteLines, List.filterMap_map, hline]

/-- The text of a plain list yields what its lines of bytes yield one by one. -/
theorem filterMap_plainLines (content : Bytes) :
    (plainLines content).filterMap lineEntry? = (pagesOf content).map Entry.ofPage := by
  have hempty : (fun line : List Char => if !line.isEmpty then lineEntry? line else none) =
      lineEntry? := by
    funext line
    cases line <;> rfl
  have hlines : (dropTextMark (lossy content)).splitOnP (· == '\n') =
      ((Xml.dropMark content).splitOnP (· == 0x0A)).map lossy := by
    rw [dropTextMark_lossy, Text.Utf8.splitOnP_lossy]
  have hline : lineEntry? ∘ Text.trimChars ∘ lossy =
      fun line => (webPage? line).map Entry.ofPage := by
    funext line
    rw [Function.comp_apply, Function.comp_apply, lineEntry?_eq, webPage?]
  rw [plainLines, linesOf, hlines, List.map_map, List.filterMap_filter, hempty,
    List.filterMap_map, hline, pagesOf_eq, List.map_filterMap]

/-- What has no newline and begins content begins its first line. -/
theorem prefix_of_prefix_append_newline {mark front back : Bytes} (hmark : 0x0A ∉ mark)
    (h : mark <+: front ++ 0x0A :: back) : mark <+: front := by
  rcases Nat.lt_or_ge front.length mark.length with hshort | hlong
  · have hline : front ++ [0x0A] <+: front ++ 0x0A :: back := ⟨back, by simp⟩
    have hbegins : front ++ [0x0A] <+: mark := by
      apply List.prefix_of_prefix_length_le hline h
      rw [List.length_append, List.length_singleton]
      omega
    exact absurd (hbegins.subset (by simp)) hmark
  · exact List.prefix_of_prefix_length_le h (List.prefix_append front _) hlong

theorem dropMark_append_newline (front back : Bytes) :
    Xml.dropMark (front ++ 0x0A :: back) = Xml.dropMark front ++ 0x0A :: back := by
  by_cases hmark : Xml.byteOrderMark <+: front
  · obtain ⟨rest, rfl⟩ := hmark
    rw [List.append_assoc, dropMark_append_mark, dropMark_append_mark]
  · have hfront : Xml.dropMark front = front := by
      apply if_neg
      rwa [List.isPrefixOf_iff_prefix]
    rw [hfront]
    apply if_neg
    rw [List.isPrefixOf_iff_prefix]
    intro hall
    exact hmark (prefix_of_prefix_append_newline (by decide) hall)

theorem pagesOf_append_newline (front : Bytes) {back : Bytes}
    (hback : ¬ Xml.byteOrderMark <+: back) :
    pagesOf (front ++ 0x0A :: back) = pagesOf (front ++ [0x0A]) ++ pagesOf back := by
  have hdrop : Xml.dropMark back = back := by
    apply if_neg
    rwa [List.isPrefixOf_iff_prefix]
  have hlast : [[]].filterMap webPage? = [] := rfl
  simp only [pagesOf_eq]
  rw [dropMark_append_newline, dropMark_append_newline, hdrop,
    List.splitOnP_append_cons _ _ rfl, List.splitOnP_append_cons _ _ rfl, List.filterMap_append,
    List.filterMap_append, List.splitOnP_nil, hlast, List.append_nil]

theorem IsPlainList.append {contentType : Option String} {front : Bytes}
    (h : IsPlainList contentType (front ++ [0x0A])) (htype : ¬ IsNotPlain contentType)
    (back : Bytes) : IsPlainList contentType (front ++ 0x0A :: back) := by
  refine ⟨?_, ?_, .inl htype⟩
  · rw [← Bool.not_eq_true]
    intro hgzip
    have hfront := prefix_of_prefix_append_newline (by decide) (List.isPrefixOf_iff_prefix.mp hgzip)
    have hpacked : Gzip.isGzip (front ++ [0x0A]) = true :=
      List.isPrefixOf_iff_prefix.mpr (hfront.trans (List.prefix_append front _))
    rw [h.unpacked] at hpacked
    cases hpacked
  · obtain ⟨byte, hbyte, hfilled⟩ := h.filled
    refine ⟨byte, ?_, hfilled⟩
    rcases List.mem_append.mp hbyte with hmem | hlast
    · exact List.mem_append_left _ hmem
    · rw [List.mem_singleton.mp hlast]
      simp

/-- A plain list is read as the pages that its lines name, in order and each as often as it stands
there. Behind a list that ends in a newline any other list may follow. -/
theorem read_plainList (allowPartial : Bool) (url : String) (contentType : Option String) :
    (∀ content, IsPlainList contentType content →
      (read allowPartial url content contentType).value =
        .ok ⟨.urlSet, (pagesOf content).map Entry.ofPage, false⟩) ∧
      ∀ first second, ¬ IsNotPlain contentType → IsPlainList contentType first →
        IsPlainList contentType second → first.getLast? = some 0x0A →
        ¬ Xml.byteOrderMark <+: second →
        ∃ one other both, (read allowPartial url first contentType).value = .ok one ∧
          (read allowPartial url second contentType).value = .ok other ∧
          (read allowPartial url (first ++ second) contentType).value = .ok both ∧
          both.entries = one.entries ++ other.entries := by
  have hread : ∀ content, IsPlainList contentType content →
      (read allowPartial url content contentType).value =
        .ok ⟨.urlSet, (pagesOf content).map Entry.ofPage, false⟩ := by
    intro content hcontent
    rw [value_read_of_isPlainList allowPartial url hcontent, filterMap_plainLines]
  refine ⟨hread, ?_⟩
  intro first second htype hfirst hsecond hlast hmark
  obtain ⟨front, rfl⟩ := List.getLast?_eq_some_iff.mp hlast
  have hboth := hread _ (hfirst.append htype second)
  rw [pagesOf_append_newline front hmark, List.map_append, ← List.singleton_append,
    ← List.append_assoc] at hboth
  exact ⟨_, _, _, hread _ hfirst, hread _ hsecond, hboth, rfl⟩

/-- Behind a byte order mark a page, a line that names none, and a page whose last byte is the
beginning of a character. -/
def mixedLines : Bytes :=
  Xml.byteOrderMark ++ Bytes.ofString "http://[::1]/a\r\nftp://[::1]/\n http://[::1]/b" ++
    [0xC3, 0x0A]

/-- Both lists together have the two pages of the first list and the page of the second. -/
theorem read_plainList_mixedLines :
    let second := Bytes.ofString "\r\nhttps://[::1]/a"
    ∃ one other both, (read true "u" mixedLines (some "text/plain; a")).value = .ok one ∧
      (read true "u" second (some "text/plain; a")).value = .ok other ∧
      (read true "u" (mixedLines ++ second) (some "text/plain; a")).value = .ok both ∧
      both.entries = one.entries ++ other.entries ∧
      one.entries.map (fun entry => entry.location.render) =
        ["http://[::1]/a".toList, "http://[::1]/b%EF%BF%BD".toList] ∧
      other.entries.map (fun entry => entry.location.render) = ["https://[::1]/a".toList] := by
  intro second
  have htype : ¬ IsNotPlain (some "text/plain; a") := by
    intro h
    exact h _ rfl ((Bytes.occursIn_iff _ _).mp (by decide +kernel))
  have hfirst : IsPlainList (some "text/plain; a") mixedLines :=
    ⟨by decide +kernel, ⟨0x68, by decide +kernel, by decide⟩, .inl htype⟩
  have hsecond : IsPlainList (some "text/plain; a") second :=
    ⟨by decide +kernel, ⟨0x68, by decide +kernel, by decide⟩, .inl htype⟩
  obtain ⟨hread, happend⟩ := read_plainList true "u" (some "text/plain; a")
  obtain ⟨one, other, both, hone, hother, hboth, hentries⟩ :=
    happend mixedLines second htype hfirst hsecond (by decide +kernel) (by decide +kernel)
  refine ⟨one, other, both, hone, hother, hboth, hentries, ?_, ?_⟩
  · rw [← Except.ok.inj ((hread mixedLines hfirst).symm.trans hone)]
    decide +kernel
  · rw [← Except.ok.inj ((hread second hsecond).symm.trans hother)]
    decide +kernel

end Sitemap

end Recrawl
