import Recrawl.Proofs.Sitemap.Draft
import Recrawl.Proofs.Sitemap.Frame

/-!
Reading the children of a piece of news and of an entry. The place behind a node holds the
reading of the nodes so far, so that the end tag finds the reading of them all.
-/

namespace Recrawl.Sitemap

namespace Reader

/-- The reader among the children of a piece of news, behind the given nodes. -/
def amongNews (r : Reader) (draft : Draft) (nodes : List Xml.Node) : Reader :=
  { r with place := .entry draft (.news (Content.news ⟨r.scope, nodes⟩) .children) }

/-- The frame of a child of a piece of news. -/
def newsFrame (draft : Draft) (news : News) (vocabulary : Vocabulary) (name : Bytes) : Frame :=
  if vocabulary = .news then
    match NewsField.ofName? name with
    | some field => .newsField draft news field
    | none => .skippedNewsChild draft news
  else .skippedNewsChild draft news

theorem place_newsFrame (draft : Draft) (news : News) (vocabulary : Vocabulary) (name : Bytes) :
    (newsFrame draft news vocabulary name).place 0 [] =
      .entry draft (.news news (enterNewsChild vocabulary name)) := by
  unfold newsFrame enterNewsChild
  by_cases h : vocabulary = .news
  · simp only [h, if_true, beq_self_eq_true]
    cases NewsField.ofName? name <;> rfl
  · simp [h, Frame.place]

theorem after_newsFrame (draft : Draft) {scope : Xml.Scope} (before : List Xml.Node) {tag : Xml.Tag}
    (children : List Xml.Node) {vocabulary : Vocabulary} {name : Bytes}
    (hname : Content.nameOf scope tag = (vocabulary, name)) :
    (newsFrame draft (Content.news ⟨scope, before⟩) vocabulary name).after
        (Content.text ⟨scope.inside tag, children⟩) =
      .entry draft
        (.news (Content.news ⟨scope, before ++ [.element tag children]⟩) .children) := by
  unfold newsFrame
  by_cases h : vocabulary = .news
  · subst h
    cases hfield : NewsField.ofName? name with
    | some field =>
      rw [Content.news_snoc_field before children hname hfield]
      rfl
    | none =>
      have hnone : ∀ field : NewsField,
          Content.ofNode? scope .news field.word (.element tag children) = none := by
        intro field
        rw [Content.ofNode?_newsField children hname, hfield]
        rfl
      rw [Content.news_snoc_of_none before hnone]
      rfl
  · have hnone : ∀ field : NewsField,
        Content.ofNode? scope .news field.word (.element tag children) = none :=
      fun field => Content.ofNode?_of_ne children hname h field.word
    rw [Content.news_snoc_of_none before hnone]
    simp [h, Frame.after]

/-- A child of a piece of news leaves the reader among the children, with the child read. -/
theorem run_newsChild (r : Reader) (draft : Draft) (before : List Xml.Node) (node : Xml.Node)
    (hsound : node.isSound r.scope = true) :
    (r.amongNews draft before).run node.events = r.amongNews draft (before ++ [node]) := by
  cases node with
  | element tag children =>
    obtain ⟨henter, -, hchildren⟩ := Xml.Node.isSound_element hsound
    cases hname : Content.nameOf r.scope tag with
    | mk vocabulary name =>
      have hplace := place_newsFrame draft (Content.news ⟨r.scope, before⟩) vocabulary name
      have hafter := after_newsFrame draft before children hname
      rw [run_element (r := r.amongNews draft before) rfl henter hname]
      change Reader.run { r with
        place := .entry draft (.news _ (enterNewsChild vocabulary name)), scopes := _ } _ = _
      rw [← hplace]
      have hframe := run_frame r (newsFrame draft (Content.news ⟨r.scope, before⟩) vocabulary name)
        hchildren
      rw [hafter] at hframe
      exact hframe
  | leaf tag =>
    unfold amongNews
    rw [Content.news_snoc_of_none before (fun _ => rfl)]
    exact step_selfClosing (r := r.amongNews draft before) rfl (Xml.Node.isSound_leaf hsound).1
  | text _ | literal _ | skipped =>
    unfold amongNews
    rw [Content.news_snoc_of_none before (fun _ => rfl)]
    exact run_of_tag?_eq_none rfl rfl rfl

/-- A piece of news is read from its start tag to its end tag. -/
theorem run_news (r : Reader) (draft : Draft) {inner : Xml.Scope} {children : List Xml.Node}
    (h : Xml.Node.areSound inner children = true) :
    { r with place := .entry draft (.news {} .children), scopes := inner :: r.scopes }.run
        (Xml.Node.eventsOf children ++ [Xml.Event.close]) =
      let news := Content.news ⟨inner, children⟩ :: draft.news
      { r with place := .entry { draft with news } .children } := by
  have hchildren := run_eventsOf (amongNews { r with scopes := inner :: r.scopes } draft)
    (run_newsChild { r with scopes := inner :: r.scopes } draft) [] children h
  have hstart : { r with place := .entry draft (.news {} .children), scopes := inner :: r.scopes } =
      amongNews { r with scopes := inner :: r.scopes } draft [] := rfl
  rw [run_append, hstart, hchildren]
  rfl

/-- The reader among the children of an entry, behind the given nodes. -/
def amongChildren (r : Reader) (nodes : List Xml.Node) : Reader :=
  { r with place := .entry (Content.draft ⟨r.scope, nodes⟩) .children }

/-- A tag that is its own end adds an alternate at most. -/
theorem selfClosing_child (r : Reader) (draft : Draft) (vocabulary : Vocabulary) (name : Bytes)
    {tag : Xml.Tag} (h : tag.isSound = true) :
    { r with place := .entry draft .children }.selfClosing vocabulary name tag =
      let link := if vocabulary = .links ∧ name = Bytes.ofString "link" then some tag else none
      let alternates := (link.bind alternateOf?).toList ++ draft.alternates
      { r with place := .entry { draft with alternates } .children } := by
  by_cases hlink : vocabulary = .links ∧ name = Bytes.ofString "link"
  · simp [selfClosing, hlink, Draft.addLink_of_isSound _ h]
  · simp [selfClosing, hlink]

section Child

variable {r : Reader} {before : List Xml.Node} {tag : Xml.Tag} {children : List Xml.Node}
  {vocabulary : Vocabulary} {name : Bytes}

theorem run_child (henter : r.scope.enter tag = .ok (r.scope.inside tag))
    (hname : Content.nameOf r.scope tag = (vocabulary, name)) :
    (r.amongChildren before).run (Xml.Node.element tag children).events =
      { r with
        place := enterChild (Content.draft ⟨r.scope, before⟩) vocabulary name tag
        scopes := r.scope.inside tag :: r.scopes }.run
          (Xml.Node.eventsOf children ++ [Xml.Event.close]) :=
  run_element (r := r.amongChildren before) rfl henter hname

theorem run_child_of_frame (hsound : (Xml.Node.element tag children).isSound r.scope = true)
    (hname : Content.nameOf r.scope tag = (vocabulary, name)) (frame : Frame)
    (hplace : enterChild (Content.draft ⟨r.scope, before⟩) vocabulary name tag = frame.place 0 [])
    (hafter : frame.after (Content.text ⟨r.scope.inside tag, children⟩) =
      .entry (Content.draft ⟨r.scope, before ++ [.element tag children]⟩) .children) :
    (r.amongChildren before).run (Xml.Node.element tag children).events =
      r.amongChildren (before ++ [.element tag children]) := by
  obtain ⟨henter, -, hchildren⟩ := Xml.Node.isSound_element hsound
  have hframe := run_frame r frame hchildren
  rw [hafter] at hframe
  rw [run_child henter hname, hplace]
  exact hframe

/-- A child of an entry that is neither a field nor news is passed through, apart from what its tag
announces. -/
theorem run_child_of_skipped (hsound : (Xml.Node.element tag children).isSound r.scope = true)
    (hname : Content.nameOf r.scope tag = (vocabulary, name))
    (hplace : enterChild (Content.draft ⟨r.scope, before⟩) vocabulary name tag =
      .entry (Content.draft ⟨r.scope, before ++ [.element tag children]⟩) (.skipped 0)) :
    (r.amongChildren before).run (Xml.Node.element tag children).events =
      r.amongChildren (before ++ [.element tag children]) :=
  run_child_of_frame hsound hname (.skippedChild _) hplace rfl

theorem run_child_sitemap (hsound : (Xml.Node.element tag children).isSound r.scope = true)
    (hname : Content.nameOf r.scope tag = (.sitemap, name)) :
    (r.amongChildren before).run (Xml.Node.element tag children).events =
      r.amongChildren (before ++ [.element tag children]) := by
  cases hfield : Field.ofName? name with
  | some field =>
    apply run_child_of_frame hsound hname (.field (Content.draft ⟨r.scope, before⟩) field)
    · simp only [enterChild, hfield]
      rfl
    · rw [Content.draft_snoc_field before children hname hfield]
      rfl
  | none =>
    apply run_child_of_skipped hsound hname
    have hnone : ∀ field : Field,
        Content.ofNode? r.scope .sitemap field.word (.element tag children) = none := by
      intro field
      rw [Content.ofNode?_field children hname, hfield]
      rfl
    have hnews := Content.ofNode?_of_ne children hname
      (show Vocabulary.sitemap ≠ .news by decide) "news"
    have hlink := Content.tagOf?_of_ne children hname
      (show Vocabulary.sitemap ≠ .links by decide) "link"
    rw [Content.draft_snoc_of_none before hnone, hnews, hlink]
    simp only [enterChild, hfield]
    rfl

theorem run_child_news (hsound : (Xml.Node.element tag children).isSound r.scope = true)
    (hname : Content.nameOf r.scope tag = (.news, name)) :
    (r.amongChildren before).run (Xml.Node.element tag children).events =
      r.amongChildren (before ++ [.element tag children]) := by
  obtain ⟨henter, -, hchildren⟩ := Xml.Node.isSound_element hsound
  have hlink := Content.tagOf?_of_ne children hname
    (show Vocabulary.news ≠ .links by decide) "link"
  have hdraft := Content.draft_snoc_of_ne_sitemap before children hname (by decide)
  rw [hlink] at hdraft
  by_cases h : name = Bytes.ofString "news"
  · subst h
    have hnews : Content.ofNode? r.scope .news "news" (.element tag children) =
        some ⟨r.scope.inside tag, children⟩ := by
      simp [Content.ofNode?, Content.isNamed_iff, hname]
    rw [hnews] at hdraft
    have hplace : enterChild (Content.draft ⟨r.scope, before⟩) .news (Bytes.ofString "news") tag =
        .entry (Content.draft ⟨r.scope, before⟩) (.news {} .children) := by
      simp [enterChild]
    have hrun := run_news r (Content.draft ⟨r.scope, before⟩) hchildren
    rw [run_child henter hname, hplace, hrun]
    unfold amongChildren
    rw [hdraft]
    rfl
  · apply run_child_of_skipped hsound hname
    have hnews : Content.ofNode? r.scope .news "news" (.element tag children) = none := by
      simp [Content.ofNode?, Content.isNamed_iff, hname, h]
    rw [hdraft, hnews]
    simp only [enterChild, beq_eq_false_iff_ne.mpr h]
    rfl

theorem run_child_links (hsound : (Xml.Node.element tag children).isSound r.scope = true)
    (hname : Content.nameOf r.scope tag = (.links, name)) :
    (r.amongChildren before).run (Xml.Node.element tag children).events =
      r.amongChildren (before ++ [.element tag children]) := by
  obtain ⟨henter, htag, hchildren⟩ := Xml.Node.isSound_element hsound
  have hnews := Content.ofNode?_of_ne children hname
    (show Vocabulary.links ≠ .news by decide) "news"
  have hdraft := Content.draft_snoc_of_ne_sitemap before children hname (by decide)
  rw [hnews] at hdraft
  apply run_child_of_skipped hsound hname
  rw [hdraft, Content.tagOf?_of_tag? rfl]
  simp only [Content.isNamed_iff, hname]
  by_cases h : name = Bytes.ofString "link"
  · simp [enterChild, h, Draft.addLink_of_isSound _ htag]
  · simp [enterChild, h]

theorem run_child_other (hsound : (Xml.Node.element tag children).isSound r.scope = true)
    (hname : Content.nameOf r.scope tag = (.other, name)) :
    (r.amongChildren before).run (Xml.Node.element tag children).events =
      r.amongChildren (before ++ [.element tag children]) := by
  have hnews := Content.ofNode?_of_ne children hname
    (show Vocabulary.other ≠ .news by decide) "news"
  have hlink := Content.tagOf?_of_ne children hname
    (show Vocabulary.other ≠ .links by decide) "link"
  apply run_child_of_skipped hsound hname
  rw [Content.draft_snoc_of_ne_sitemap before children hname (by decide), hnews, hlink]
  rfl

end Child

/-- A child of an entry leaves the reader among the children, with the child read. -/
theorem run_entryChild (r : Reader) (before : List Xml.Node) (node : Xml.Node)
    (hsound : node.isSound r.scope = true) :
    (r.amongChildren before).run node.events = r.amongChildren (before ++ [node]) := by
  cases node with
  | element tag children =>
    cases hname : Content.nameOf r.scope tag with
    | mk vocabulary name =>
      cases vocabulary with
      | sitemap => exact run_child_sitemap hsound hname
      | news => exact run_child_news hsound hname
      | links => exact run_child_links hsound hname
      | other => exact run_child_other hsound hname
  | leaf tag =>
    obtain ⟨henter, htag⟩ := Xml.Node.isSound_leaf hsound
    have hnews : Content.ofNode? r.scope .news "news" (.leaf tag) = none := rfl
    have hlink : Content.IsNamed r.scope .links "link" tag ↔
        (nameOf (r.scope.inside tag) tag).1 = .links ∧
          (nameOf (r.scope.inside tag) tag).2 = Bytes.ofString "link" := by
      rw [Content.isNamed_iff, Prod.ext_iff]
      exact and_iff_right (by decide)
    have hstep := step_selfClosing (r := r.amongChildren before) rfl henter
    refine hstep.trans ?_
    unfold amongChildren
    rw [selfClosing_child r _ _ _ htag, Content.draft_snoc_of_none before (fun _ => rfl), hnews,
      Content.tagOf?_of_tag? rfl]
    simp only [hlink]
    rfl
  | text _ | literal _ | skipped =>
    unfold amongChildren
    rw [Content.draft_snoc_of_none before (fun _ => rfl)]
    exact run_of_tag?_eq_none rfl rfl rfl

/-- An entry is read from its start tag to its end tag. -/
theorem run_entry (r : Reader) {inner : Xml.Scope} {children : List Xml.Node}
    (h : Xml.Node.areSound inner children = true) :
    { r with place := .entry {} .children, scopes := inner :: r.scopes }.run
        (Xml.Node.eventsOf children ++ [Xml.Event.close]) =
      { r with
        place := .root
        items := (Content.draft ⟨inner, children⟩).toItem :: r.items } := by
  have hchildren := run_eventsOf (amongChildren { r with scopes := inner :: r.scopes })
    (run_entryChild { r with scopes := inner :: r.scopes }) [] children h
  have hstart : { r with place := .entry {} .children, scopes := inner :: r.scopes } =
      amongChildren { r with scopes := inner :: r.scopes } [] := rfl
  rw [run_append, hstart, hchildren]
  rfl

end Reader

end Recrawl.Sitemap
