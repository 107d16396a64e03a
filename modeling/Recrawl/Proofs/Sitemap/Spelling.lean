import Recrawl.Proofs.Sitemap.Alike
import Recrawl.Proofs.Sitemap.Continuation

/-!
The two spellings of an element without content: a tag that is its own end, and a start tag
directly followed by its end tag. The reader takes both alike at the root and for links, and where
it passes over the element. Fields and news count only with two tags: they then replace what a field
held before, and add a piece of news that says nothing.
-/

namespace Recrawl

namespace Sitemap

/-- The field holds something. -/
def Draft.holds (draft : Draft) : Field → Bool
  | .location => draft.url?.isSome
  | .modified => draft.modified.isSome
  | .priority => draft.priority.isSome
  | .frequency => draft.frequency.isSome

/-- The field holds something. -/
def News.holds (news : News) : NewsField → Bool
  | .published => news.published.isSome
  | .title => news.title.isSome

/-- A field without text ends up with nothing in it, as it was if it held nothing. -/
theorem Draft.alike_set_nil {draft : Draft} {field : Field} (h : draft.holds field = false) :
    (draft.set field []).Alike draft := by
  have hurl : (Url.ofChars []).toOption = none := by decide +kernel
  have hmodified : Time.parseW3c? (String.ofList []) = none := by decide +kernel
  have hpriority : readPriority [] = none := by decide +kernel
  have hfrequency : ChangeFrequency.parse? (String.ofList []) = none := by decide +kernel
  obtain ⟨location, modified, priority, frequency, news, alternates⟩ := draft
  cases field with
  | location =>
    have hnone : Draft.url? ⟨location, modified, priority, frequency, news, alternates⟩ = none := by
      simpa [holds] using h
    refine .relocate location (hnone.trans ?_)
    exact hurl.symm
  | modified =>
    obtain rfl : modified = none := by simpa [holds] using h
    simp only [Draft.set, hmodified]
    exact Alike.refl _
  | priority =>
    obtain rfl : priority = none := by simpa [holds] using h
    simp only [Draft.set, hpriority]
    exact Alike.refl _
  | frequency =>
    obtain rfl : frequency = none := by simpa [holds] using h
    simp only [Draft.set, hfrequency]
    exact Alike.refl _

theorem News.set_nil {news : News} {field : NewsField} (h : news.holds field = false) :
    news.set field [] = news := by
  have hpublished : Time.parseW3c? (String.ofList []) = none := by decide +kernel
  obtain ⟨published, title⟩ := news
  cases field with
  | published =>
    obtain rfl : published = none := by simpa [holds] using h
    simp only [News.set, hpublished]
  | title =>
    obtain rfl : title = none := by simpa [holds] using h
    rfl

namespace Reader

/-- The reader after the start tag and the end tag of an empty element that it does not pass over:
a field of an entry or of a piece of news, or a piece of news. -/
def emptied (r : Reader) (vocabulary : Vocabulary) (name : Bytes) : Reader :=
  match r.place, vocabulary with
  | .entry draft .children, .sitemap =>
    match Field.ofName? name with
    | some field => { r with place := .entry (draft.set field []) .children }
    | none => r
  | .entry draft .children, .news =>
    if name == Bytes.ofString "news" then
      { r with place := .entry { draft with news := {} :: draft.news } .children }
    else r
  | .entry draft (.news news .children), .news =>
    match NewsField.ofName? name with
    | some field => { r with place := .entry draft (.news (news.set field []) .children) }
    | none => r
  | _, _ => r

/-- An empty element of this name takes something away, or is a piece of news. -/
def minds (r : Reader) (vocabulary : Vocabulary) (name : Bytes) : Bool :=
  match r.place, vocabulary with
  | .entry draft .children, .sitemap => (Field.ofName? name).any draft.holds
  | .entry _ .children, .news => name == Bytes.ofString "news"
  | .entry _ (.news news .children), .news => (NewsField.ofName? name).any news.holds
  | _, _ => false

theorem inStep_emptied {r : Reader} {vocabulary : Vocabulary} {name : Bytes}
    (h : r.minds vocabulary name = false) : (r.emptied vocabulary name).InStep r := by
  obtain ⟨place, kind, scopes, items⟩ := r
  unfold emptied
  split
  · rename_i draft hplace
    subst hplace
    split
    · rename_i field hfield
      have hholds : draft.holds field = false := by simpa [minds, hfield] using h
      exact ⟨⟨rfl, rfl, .entry (Draft.alike_set_nil hholds) _⟩, fun _ => rfl⟩
    · exact ⟨Alike.refl _, fun _ => rfl⟩
  · rename_i draft hplace
    subst hplace
    have hname : (name == Bytes.ofString "news") = false := h
    simp only [hname, Bool.false_eq_true, if_false]
    exact ⟨Alike.refl _, fun _ => rfl⟩
  · rename_i draft news hplace
    subst hplace
    split
    · rename_i field hfield
      have hholds : news.holds field = false := by simpa [minds, hfield] using h
      rw [News.set_nil hholds]
      exact ⟨Alike.refl _, fun _ => rfl⟩
    · exact ⟨Alike.refl _, fun _ => rfl⟩
  · exact ⟨Alike.refl _, fun _ => rfl⟩

theorem InStep.refl (r : Reader) : r.InStep r :=
  ⟨Alike.refl r, fun _ => rfl⟩

/-- A child of an entry without content: a link counts with one tag as well, and is the only one to
do so. -/
theorem inStep_enterChild_close (draft : Draft) (kind : Option Kind) (inner : Xml.Scope)
    (scopes : List Xml.Scope) (items : List Item) (vocabulary : Vocabulary) (name : Bytes)
    (tag : Xml.Tag) :
    (step ⟨enterChild draft vocabulary name tag, kind, inner :: scopes, items⟩ .close).InStep
      ((selfClosing ⟨.entry draft .children, kind, scopes, items⟩ vocabulary name tag).emptied
        vocabulary name) := by
  cases vocabulary with
  | sitemap =>
    simp only [enterChild, selfClosing, emptied]
    cases Field.ofName? name <;> exact InStep.refl _
  | news =>
    simp only [enterChild, selfClosing, emptied]
    cases name == Bytes.ofString "news" <;> exact InStep.refl _
  | links =>
    simp only [enterChild, selfClosing]
    cases name == Bytes.ofString "link" with
    | false => exact InStep.refl _
    | true =>
      cases draft.addLink tag with
      | ok draft => exact InStep.refl _
      | error fault => exact ⟨⟨rfl, rfl, .failed _⟩, fun h => by cases h⟩
  | other => exact InStep.refl _

/-- Both spellings of an element, for the vocabulary and the name it has. -/
theorem inStep_start_close (r : Reader) (inner : Xml.Scope) (vocabulary : Vocabulary) (name : Bytes)
    (tag : Xml.Tag) (hdone : r.isDone = false) :
    (({ r with scopes := inner :: r.scopes }.start vocabulary name tag).step .close).InStep
      ((r.selfClosing vocabulary name tag).emptied vocabulary name) := by
  obtain ⟨place, kind, scopes, items⟩ := r
  cases place with
  | prolog =>
    simp only [start, selfClosing, enterRoot]
    cases Kind.ofRoot? vocabulary name with
    | none => exact ⟨⟨rfl, rfl, .failed _⟩, fun h => by cases h⟩
    | some kind => exact InStep.refl _
  | root =>
    simp only [start]
    split
    -- An entry without content has no location.
    · refine ⟨⟨rfl, ?_, .root⟩, fun _ => rfl⟩
      exact (entries_cons _ _ _ .unnamed _).trans (List.append_nil _)
    · exact InStep.refl _
  | skipped depth => exact InStep.refl _
  | entry draft place =>
    cases place with
    | children => exact inStep_enterChild_close draft kind inner scopes items vocabulary name tag
    | skipped depth | field f depth pieces => exact InStep.refl _
    | news news place =>
      cases place with
      | children =>
        simp only [start, enterNewsChild, selfClosing, emptied]
        cases vocabulary with
        | news => cases NewsField.ofName? name <;> exact InStep.refl _
        | sitemap | links | other => exact InStep.refl _
      | skipped depth | field f depth pieces => exact InStep.refl _
  | finished => cases hdone
  | failed fault => cases hdone

/-- The reader behind an empty element with two tags is in step with the one behind the same element
with one tag, once that minds that the element was empty. -/
theorem inStep_pair (r : Reader) (tag : Xml.Tag) :
    ((r.step (.start tag)).step .close).InStep
      ((r.step (.selfClosing tag)).emptied (Content.nameOf r.scope tag).1
        (Content.nameOf r.scope tag).2) := by
  have hemptied : ∀ {done : Reader} (vocabulary : Vocabulary) (name : Bytes), done.isDone = true →
      done.emptied vocabulary name = done := by
    intro done vocabulary name hdone
    unfold isDone at hdone
    unfold emptied
    split at hdone
    · rename_i hplace
      simp only [hplace]
    · rename_i hplace
      simp only [hplace]
    · cases hdone
  cases hdone : r.isDone with
  | true =>
    have hstay : ∀ event, r.step event = r := fun event => by simp [step, hdone]
    rw [hstay, hstay, hstay, hemptied _ _ hdone]
    exact InStep.refl r
  | false =>
    cases henter : r.scope.enter tag with
    | ok inner =>
      have hname : Content.nameOf r.scope tag = nameOf inner tag := by
        simp only [Content.nameOf, Xml.Scope.inside, henter]
      rw [step_start hdone henter, step_selfClosing hdone henter, hname]
      exact inStep_start_close r inner _ _ tag hdone
    | error fault =>
      have hstart : r.step (.start tag) = r.stop (.xml fault) := by simp [step, hdone, henter]
      have halone : r.step (.selfClosing tag) = r.stop (.xml fault) := by
        simp [step, hdone, henter]
      rw [hstart, halone, hemptied _ _ rfl]
      exact InStep.refl _

theorem scopes_step_selfClosing (r : Reader) (tag : Xml.Tag) :
    (r.step (.selfClosing tag)).scopes = r.scopes := by
  unfold step
  split
  · rfl
  · simp only
    split
    · rfl
    · exact scopes_selfClosing _ _ _ _

end Reader

section Spellings

variable {before body blanks : Bytes}

/-- A start tag directly followed by its end tag. -/
def pairOf (body blanks : Bytes) : Bytes :=
  Xml.Tag.opening body ++ Xml.Tag.closing (Xml.Tag.ofContent body).name blanks

theorem dropMark_alone (before body : Bytes) :
    Xml.dropMark (before ++ Xml.Tag.alone body) = Xml.dropMark before ++ Xml.Tag.alone body :=
  Xml.dropMark_bracket before _

theorem dropMark_pairOf (before body blanks : Bytes) :
    Xml.dropMark (before ++ pairOf body blanks) = Xml.dropMark before ++ pairOf body blanks :=
  Xml.dropMark_bracket before _

theorem readerBefore_alone (hplace : TakesTag before) (hbody : Xml.Tag.IsBody body) :
    readerBefore (before ++ Xml.Tag.alone body) =
      (readerBefore (before ++ [0x3C])).step (.selfClosing (Xml.Tag.ofContent body)) := by
  unfold readerBefore
  rw [Xml.dropMark_bracket before [], dropMark_alone, Xml.Scanner.run_append,
    Xml.Scanner.run_tagAlone hplace hbody, Xml.Scanner.run_append]
  simp only [Xml.Scanner.emit, List.reverse_cons, Reader.run_append]
  rfl

theorem readerBefore_pairOf (hplace : TakesTag before) (hbody : Xml.Tag.IsBody body)
    (hblanks : ∀ byte ∈ blanks, Xml.isBlank byte = true) :
    readerBefore (before ++ pairOf body blanks) =
      ((readerBefore (before ++ [0x3C])).step (.start (Xml.Tag.ofContent body))).step .close := by
  unfold readerBefore
  rw [Xml.dropMark_bracket before [], dropMark_pairOf, Xml.Scanner.run_append, pairOf,
    Xml.Scanner.run_tagPair hplace hbody hblanks, Xml.Scanner.run_append]
  simp only [Xml.Scanner.emit, List.reverse_cons, Reader.run_append]
  rfl

/-- Both spellings leave the scanner alike but for what it has told, so that the rest of the
document is the same. -/
theorem toldBehind_pairOf (hplace : TakesTag before) (hbody : Xml.Tag.IsBody body)
    (hblanks : ∀ byte ∈ blanks, Xml.isBlank byte = true) (after : Bytes) :
    toldBehind (before ++ pairOf body blanks) after =
      toldBehind (before ++ Xml.Tag.alone body) after := by
  unfold toldBehind
  rw [dropMark_pairOf, dropMark_alone, Xml.Scanner.run_append, pairOf,
    Xml.Scanner.run_tagPair hplace hbody hblanks, Xml.Scanner.run_append,
    Xml.Scanner.run_tagAlone hplace hbody]
  rfl

theorem inStep_readerBefore_pairOf (hplace : TakesTag before) (hbody : Xml.Tag.IsBody body)
    (hblanks : ∀ byte ∈ blanks, Xml.isBlank byte = true) :
    let behind := readerBefore (before ++ Xml.Tag.alone body)
    let name := Content.nameOf behind.scope (Xml.Tag.ofContent body)
    (readerBefore (before ++ pairOf body blanks)).InStep (behind.emptied name.1 name.2) := by
  have hscope : (readerBefore (before ++ Xml.Tag.alone body)).scope =
      (readerBefore (before ++ [0x3C])).scope := by
    unfold Reader.scope
    rw [readerBefore_alone hplace hbody, Reader.scopes_step_selfClosing]
  simp only
  rw [readerBefore_pairOf hplace hbody hblanks, hscope, readerBefore_alone hplace hbody]
  exact Reader.inStep_pair _ _

/-- A document with an empty element, at the root or anywhere below, told by one tag or by a start
tag and an end tag. Both say the same unless the element is a piece of news, or a field that held
something before; the reader behind the two tags is then the one that minds the empty element, and
nothing else is different. -/
theorem read_pairOf (hmarkup : StartsWithMarkup (before ++ [0x3C])) (hplace : TakesTag before)
    (hbody : Xml.Tag.IsBody body) (hblanks : ∀ byte ∈ blanks, Xml.isBlank byte = true)
    (url : String) {contentType : Option String} (htype : IsNotPlain contentType) (after : Bytes) :
    let alone := before ++ Xml.Tag.alone body
    let pair := before ++ pairOf body blanks
    let behind := readerBefore alone
    let name := Content.nameOf behind.scope (Xml.Tag.ofContent body)
    let rest := toldBehind alone after
    (behind.minds name.1 name.2 = false → ∀ allowPartial,
      (read allowPartial url (pair ++ after) contentType).value =
        (read allowPartial url (alone ++ after) contentType).value) ∧
      ∀ allowPartial,
        (read allowPartial url (alone ++ after) contentType).value =
            ((behind.run rest.events.reverse).finish rest.fault?).result allowPartial ∧
          (read allowPartial url (pair ++ after) contentType).value =
            (((behind.emptied name.1 name.2).run rest.events.reverse).finish
              rest.fault?).result allowPartial := by
  intro alone pair behind name rest
  have halone : ∀ allowPartial, (read allowPartial url (alone ++ after) contentType).value =
      ((behind.run rest.events.reverse).finish rest.fault?).result allowPartial :=
    fun allowPartial => value_read_append after allowPartial url (hmarkup.bracket _) htype
  have hpair : ∀ allowPartial, (read allowPartial url (pair ++ after) contentType).value =
      (((behind.emptied name.1 name.2).run rest.events.reverse).finish
        rest.fault?).result allowPartial := by
    intro allowPartial
    have hstart : StartsWithMarkup pair := hmarkup.bracket _
    have hread := value_read_append after allowPartial url hstart htype
    rw [toldBehind_pairOf hplace hbody hblanks] at hread
    rw [hread]
    exact (inStep_readerBefore_pairOf hplace hbody hblanks).result_eq _ _ _
  refine ⟨?_, fun allowPartial => ⟨halone allowPartial, hpair allowPartial⟩⟩
  intro hminds allowPartial
  rw [hpair, halone]
  exact (Reader.inStep_emptied hminds).result_eq _ _ _

end Spellings

/-- An empty date says nothing where there was none before. News without content are left out if they
have one tag. -/
theorem read_pairOf_date_and_news :
    let date := Bytes.ofString "<urlset><url><loc>http://[::1]/</loc>"
    let news := Bytes.ofString
      "<urlset xmlns:n='http://www.google.com/schemas/sitemap-news/0.9'><url><loc>http://[::1]/</loc>"
    let after := Bytes.ofString "</url></urlset>"
    let read (content : Bytes) := (read false "http://a.b/s.xml" content none).value
    let newsOf (content : Bytes) := (read content).toOption.map fun found =>
      found.entries.map (·.news)
    (read (date ++ pairOf (Bytes.ofString "lastmod") [] ++ after) =
        read (date ++ Xml.Tag.alone (Bytes.ofString "lastmod") ++ after)) ∧
      newsOf (news ++ Xml.Tag.alone (Bytes.ofString "n:news") ++ after) = some [[]] ∧
      newsOf (news ++ pairOf (Bytes.ofString "n:news") [] ++ after) = some [[{}]] := by
  intro date news after read newsOf
  have htype : IsNotPlain none := by simp [IsNotPlain]
  have hdate : StartsWithMarkup (date ++ [0x3C]) :=
    ⟨[], [], (date ++ [0x3C]).tail, by decide +kernel, .inl rfl, by simp⟩
  have hnews : StartsWithMarkup (news ++ [0x3C]) :=
    ⟨[], [], (news ++ [0x3C]).tail, by decide +kernel, .inl rfl, by simp⟩
  have hlastmod : Xml.Tag.IsBody (Bytes.ofString "lastmod") :=
    ⟨by decide +kernel, by decide +kernel, by decide +kernel, by decide +kernel⟩
  have hbody : Xml.Tag.IsBody (Bytes.ofString "n:news") :=
    ⟨by decide +kernel, by decide +kernel, by decide +kernel, by decide +kernel⟩
  have hblanks : ∀ byte ∈ ([] : Bytes), Xml.isBlank byte = true := by simp
  have hdates := (read_pairOf hdate (by decide +kernel) hlastmod hblanks "http://a.b/s.xml" htype
    after).1 (by decide +kernel)
  have hboth := (read_pairOf hnews (by decide +kernel) hbody hblanks "http://a.b/s.xml" htype
    after).2 false
  refine ⟨hdates false, ?_, ?_⟩
  · exact (congrArg (fun value => (Except.toOption value).map _) hboth.1).trans (by decide +kernel)
  · exact (congrArg (fun value => (Except.toOption value).map _) hboth.2).trans (by decide +kernel)

end Sitemap

end Recrawl
