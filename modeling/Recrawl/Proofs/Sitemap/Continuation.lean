import Recrawl.Proofs.Sitemap.Prefix
import Recrawl.Proofs.Xml.Markup

/-!
Reading on behind the beginning of a document. The rest of the document is told the same whatever
was told before, and the reader of the beginning takes it from there.
-/

namespace Recrawl

namespace Xml

theorem dropMark_bracket (before rest : Bytes) :
    dropMark (before ++ 0x3C :: rest) = dropMark before ++ 0x3C :: rest := by
  match before with
  | [] => simp [dropMark, byteOrderMark, List.isPrefixOf]
  | [a] => simp [dropMark, byteOrderMark, List.isPrefixOf]
  | [a, b] => simp [dropMark, byteOrderMark, List.isPrefixOf]
  | a :: b :: c :: before =>
    simp only [dropMark, byteOrderMark, List.isPrefixOf, List.cons_append]
    split <;> simp

end Xml

namespace Sitemap

theorem StartsWithMarkup.bracket {before : Bytes} (h : StartsWithMarkup (before ++ [0x3C]))
    (rest : Bytes) : StartsWithMarkup (before ++ 0x3C :: rest) := by
  have happend := h.append rest
  rwa [List.append_assoc] at happend

/-- What the scanner tells of the bytes behind some content, up to the end of the document. -/
def toldBehind (content after : Bytes) : Xml.Scanner :=
  ({ ({} : Xml.Scanner).run (Xml.dropMark content) with events := [] }.run after).finish

/-- What stands behind the beginning of a document is read by the reader of that beginning. -/
theorem value_read_append {content : Bytes} {contentType : Option String} (after : Bytes)
    (allowPartial : Bool) (url : String) (hmarkup : StartsWithMarkup content)
    (htype : IsNotPlain contentType) :
    (read allowPartial url (content ++ after) contentType).value =
      (((readerBefore content).run (toldBehind content after).events.reverse).finish
        (toldBehind content after).fault?).result allowPartial := by
  have hscan : ((({} : Xml.Scanner).run (Xml.dropMark (content ++ after)))).finish =
      (toldBehind content after).told
        (({} : Xml.Scanner).run (Xml.dropMark content)).events := by
    rw [hmarkup.dropMark_append, Xml.Scanner.run_append, toldBehind, ← Xml.Scanner.finish_told,
      ← Xml.Scanner.run_told]
    rfl
  rw [value_read_of_startsWithMarkup allowPartial url (hmarkup.append after) htype]
  unfold readXml Xml.scan
  rw [hscan]
  simp only [Xml.Scanner.told, List.reverse_append, Reader.run_append]
  rfl

/-- The bytes in front leave the scanner between markup, so that a tag can follow. -/
def TakesTag (before : Bytes) : Prop :=
  (({} : Xml.Scanner).run (Xml.dropMark before)).isBetween = true

instance (before : Bytes) : Decidable (TakesTag before) :=
  inferInstanceAs (Decidable (_ = true))

end Sitemap

end Recrawl
