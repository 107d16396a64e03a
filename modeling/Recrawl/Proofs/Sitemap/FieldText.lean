import Recrawl.Proofs.Sitemap.Continuation
import Recrawl.Proofs.Sitemap.Frame
import Recrawl.Proofs.Xml.Value
import Recrawl.Proofs.Xml.Writing

/-!
The text of a field. It is the value of the element's content, with all character data in the order
of the document, but for blanks: those at the ends of the value, and those at the ends of every run
of text inside it.
-/

namespace Recrawl.Sitemap

open Text (keptOf trimMarks trimChars)
open Xml (Tag Writes)
open Xml.Node (marksOf valueOf)

/-- An element with the given content as it is written. -/
def writtenElement (body inner blanks : Bytes) : Bytes :=
  Tag.opening body ++ inner ++ Tag.closing (Tag.ofContent body).name blanks

section Field

variable {front body inner blanks : Bytes} {nodes : List Xml.Node}

/-- The reader behind an element is the one behind its start tag, with the content read. -/
theorem readerBefore_element (hplace : TakesTag front) (hbody : Tag.IsBody body)
    (hblanks : ∀ byte ∈ blanks, Xml.isBlank byte = true) (hwrites : Writes nodes inner) :
    readerBefore (front ++ writtenElement body inner blanks) =
      (readerBefore (front ++ Tag.opening body)).run
        (Xml.Node.eventsOf nodes ++ [Xml.Event.close]) := by
  have hopening : Xml.dropMark (front ++ Tag.opening body) =
      Xml.dropMark front ++ Tag.opening body := Xml.dropMark_bracket front _
  have helement : Xml.dropMark (front ++ writtenElement body inner blanks) =
      Xml.dropMark front ++ writtenElement body inner blanks := Xml.dropMark_bracket front _
  let s := (({} : Xml.Scanner).run (Xml.dropMark front)).step 0x3C
  have hevents : (({} : Xml.Scanner).run (Xml.dropMark front ++ writtenElement body inner
      blanks)).events = (Xml.Event.start (Tag.ofContent body) ::
        (Xml.Node.eventsOf nodes ++ [.close])).reverse ++ s.events := by
    have hrun := Xml.Scanner.run_element s [] hbody hblanks (Xml.Scanner.run_writes hwrites)
    have hbracket := Xml.Scanner.run_bracket hplace
      (body ++ [0x3E] ++ inner ++ Tag.closing (Tag.ofContent body).name blanks)
    rw [Xml.Scanner.run_append]
    exact congrArg Xml.Scanner.events (hbracket.trans hrun)
  unfold readerBefore
  rw [hopening, helement, hevents, Xml.Scanner.run_append, Xml.Scanner.run_tagOpening hplace hbody]
  simp only [Xml.Scanner.emit, List.reverse_append, List.reverse_reverse, List.reverse_cons,
    Reader.run_append]
  rfl

/-- Content inside a frame up to the end tag: the place behind has the text that was told. -/
theorem run_content {r : Reader} {frame : Frame} (hframe : r.place = frame.place 0 [])
    (hsound : Xml.Node.areSound r.scope nodes = true) :
    r.run (Xml.Node.eventsOf nodes ++ [Xml.Event.close]) =
      { r with
        place := frame.after (trimChars (Xml.Node.piecesOf nodes).flatten)
        scopes := r.scopes.drop 1 } := by
  have hstart : { r with place := frame.place 0 [] } = r := by rw [← hframe]
  have hinner := r.runs_inside frame 0 [] nodes hsound
  rw [hstart] at hinner
  rw [Reader.run_append, hinner]
  have hclose := r.step_close_last frame ((Xml.Node.piecesOf nodes).reverse ++ [])
  rw [List.append_nil, Pieces.text, List.reverse_reverse] at hclose
  rw [List.append_nil]
  exact hclose

/-- A field of an entry or of a piece of news, with any content. What is read for it is the value of
the content without the blanks at its ends, and without those at the ends of any run of text inside
it; all the rest of the value is there. It is the whole value exactly if no blanks stand there. -/
theorem read_field (hmarkup : StartsWithMarkup (front ++ [0x3C])) (hplace : TakesTag front)
    (hbody : Tag.IsBody body) (hblanks : ∀ byte ∈ blanks, Xml.isBlank byte = true)
    (hwrites : Writes nodes inner) {frame : Frame}
    (hframe : (readerBefore (front ++ Tag.opening body)).place = frame.place 0 [])
    (hsound : Xml.Node.areSound (readerBefore (front ++ Tag.opening body)).scope nodes = true)
    (url : String) {contentType : Option String} (htype : IsNotPlain contentType) (after : Bytes) :
    let content := front ++ writtenElement body inner blanks
    let r := readerBefore (front ++ Tag.opening body)
    let text := keptOf (trimMarks (marksOf nodes))
    let behind : Reader := { r with place := frame.after text, scopes := r.scopes.drop 1 }
    let rest := toldBehind content after
    (∀ allowPartial, (read allowPartial url (content ++ after) contentType).value =
        ((behind.run rest.events.reverse).finish rest.fault?).result allowPartial) ∧
      Text.charsOf (trimMarks (marksOf nodes)) = trimChars (valueOf nodes) ∧
      (text = trimChars (valueOf nodes) ↔
        ∀ mark ∈ trimMarks (marksOf nodes), mark.2 = true) := by
  intro content r text behind rest
  have htext : trimChars (Xml.Node.piecesOf nodes).flatten = text :=
    Xml.Node.trimChars_flatten_piecesOf nodes
  have hbehind : readerBefore content = behind := by
    rw [readerBefore_element hplace hbody hblanks hwrites, run_content hframe hsound, htext]
  refine ⟨?_, ?_, ?_⟩
  · intro allowPartial
    rw [← hbehind]
    exact value_read_append after allowPartial url (hmarkup.bracket _) htype
  · rw [Text.charsOf_trimMarks, Xml.Node.charsOf_marksOf nodes hsound]
  · rw [← htext]
    exact Xml.Node.trimChars_flatten_piecesOf_eq_iff hsound

end Field

/-- A title with a literal section between two runs of text: the blanks next to it are lost. -/
theorem read_field_title :
    let front := Bytes.ofString <|
      "<urlset xmlns:n='http://www.google.com/schemas/sitemap-news/0.9'><url>" ++
      "<loc>http://[::1]/</loc><n:news>"
    let inner := Bytes.ofString "Story <![CDATA[& more]]> today"
    let content := front ++ writtenElement (Bytes.ofString "n:title") inner []
    let after := Bytes.ofString "</n:news></url></urlset>"
    let found := (read false "http://a.b/s.xml" (content ++ after) none).value.toOption
    (found.map fun sitemap => sitemap.entries.map fun entry => entry.news.map (·.title)) =
        some [[some "Story& moretoday"]] ∧
      ∃ nodes, Writes nodes inner ∧ valueOf nodes = "Story & more today".toList := by
  intro front inner content after found
  let nodes : List Xml.Node :=
    [.text (Bytes.ofString "Story "), .literal (Bytes.ofString "& more"),
      .text (Bytes.ofString " today")]
  have hmarkup : StartsWithMarkup (front ++ [0x3C]) :=
    ⟨[], [], (front ++ [0x3C]).tail, by decide +kernel, .inl rfl, by simp⟩
  have htype : IsNotPlain none := by simp [IsNotPlain]
  have hbody : Tag.IsBody (Bytes.ofString "n:title") :=
    ⟨by decide +kernel, by decide +kernel, by decide +kernel, by decide +kernel⟩
  have hblanks : ∀ byte ∈ ([] : Bytes), Xml.isBlank byte = true := by simp
  have hliteral : ¬ Xml.literalEnd <:+: Bytes.ofString "& more" := by
    rw [← Bytes.occursIn_iff]
    decide +kernel
  have hwrites : Writes nodes inner := by
    have hall := Writes.text (show 0x3C ∉ Bytes.ofString "Story " by decide +kernel) (.inr rfl)
      (Writes.literal hliteral
        (Writes.text (show 0x3C ∉ Bytes.ofString " today" by decide +kernel) (.inl rfl) Writes.nil))
    have hinner : inner = Bytes.ofString "Story " ++
        (Xml.writtenLiteral (Bytes.ofString "& more") ++ (Bytes.ofString " today" ++ [])) := by
      decide +kernel
    rw [hinner]
    exact hall
  let draft : Draft := { location := some "http://[::1]/".toList }
  have hframe : (readerBefore (front ++ Tag.opening (Bytes.ofString "n:title"))).place =
      (Frame.newsField draft {} .title).place 0 [] := by
    decide +kernel
  have hsound : Xml.Node.areSound
      (readerBefore (front ++ Tag.opening (Bytes.ofString "n:title"))).scope nodes = true := by
    decide +kernel
  obtain ⟨hread, -, -⟩ := read_field hmarkup (by decide +kernel) hbody hblanks hwrites hframe hsound
    "http://a.b/s.xml" htype after
  refine ⟨?_, nodes, hwrites, by decide +kernel⟩
  exact (congrArg (fun value => (Except.toOption value).map _) (hread false)).trans
    (by decide +kernel)

end Recrawl.Sitemap
