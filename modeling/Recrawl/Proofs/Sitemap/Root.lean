import Recrawl.Proofs.Sitemap.Children
import Recrawl.Proofs.Sitemap.Document

/-!
The reader computes the reading of the tree: from the events of a document it tells the
entries that can be read off its root element, in their order and with all they hold.
-/

namespace Recrawl.Sitemap

namespace Reader

/-- The reader among the children of the root element, behind the given nodes. -/
def amongEntries (r : Reader) (kind : Kind) (nodes : List Xml.Node) : Reader :=
  let drafts := (Content.elements ⟨r.scope, nodes⟩ .sitemap kind.entryName).map Content.draft
  { r with
    place := .root
    kind := some kind
    items := (drafts.map Draft.toItem).reverse ++ r.items }

theorem amongEntries_snoc (r : Reader) (kind : Kind) (before : List Xml.Node) {node : Xml.Node} :
    r.amongEntries kind (before ++ [node]) =
      let drafts := (Content.ofNode? r.scope .sitemap kind.entryName node).map Content.draft
      { r.amongEntries kind before with
        items := (drafts.map Draft.toItem).toList ++ (r.amongEntries kind before).items } := by
  unfold amongEntries
  rw [Content.elements_snoc]
  cases Content.ofNode? r.scope .sitemap kind.entryName node <;> simp

theorem start_amongEntries (r : Reader) (kind : Kind) (before : List Xml.Node)
    (scopes : List Xml.Scope) (vocabulary : Vocabulary) (name : Bytes) (tag : Xml.Tag) :
    { r.amongEntries kind before with scopes }.start vocabulary name tag =
      { r.amongEntries kind before with
        place :=
          if vocabulary = .sitemap ∧ name = Bytes.ofString kind.entryName then .entry {} .children
          else .skipped 0
        scopes } := by
  have hentry : ((vocabulary == .sitemap && kind.isEntry name) = true) =
      (vocabulary = .sitemap ∧ name = Bytes.ofString kind.entryName) := by
    simp [Kind.isEntry_iff]
  simp only [start, amongEntries, Option.any_some, hentry]
  split <;> rfl

/-- A child of the root element leaves the reader among the children, with the child read. -/
theorem run_rootChild (r : Reader) (kind : Kind) (before : List Xml.Node) (node : Xml.Node)
    (hsound : node.isSound r.scope = true) :
    (r.amongEntries kind before).run node.events = r.amongEntries kind (before ++ [node]) := by
  rw [amongEntries_snoc]
  cases node with
  | element tag children =>
    obtain ⟨henter, -, hchildren⟩ := Xml.Node.isSound_element hsound
    cases hname : Content.nameOf r.scope tag with
    | mk vocabulary name =>
      rw [run_element (r := r.amongEntries kind before) rfl henter hname, start_amongEntries]
      by_cases h : vocabulary = .sitemap ∧ name = Bytes.ofString kind.entryName
      · obtain ⟨rfl, rfl⟩ := h
        have hentry := run_entry (r.amongEntries kind before) hchildren
        have hnode : Content.ofNode? r.scope .sitemap kind.entryName (.element tag children) =
            some ⟨r.scope.inside tag, children⟩ := by
          simp [Content.ofNode?, Content.isNamed_iff, hname]
        rw [hnode, if_pos ⟨rfl, rfl⟩]
        exact hentry
      -- An element with the name of an entry counts only in the vocabulary of sitemaps.
      · have hframe := run_frame (r.amongEntries kind before) .skipped hchildren
        have hnode : Content.ofNode? r.scope .sitemap kind.entryName (.element tag children) =
            none := by
          simp [Content.ofNode?, Content.isNamed_iff, hname, h]
        rw [hnode, if_neg h]
        exact hframe
  | leaf tag =>
    exact step_selfClosing (r := r.amongEntries kind before) rfl (Xml.Node.isSound_leaf hsound).1
  | text _ | literal _ | skipped =>
    exact run_of_tag?_eq_none rfl rfl rfl

theorem entries_amongEntries (scope : Xml.Scope) (kind : Kind) (nodes : List Xml.Node) :
    (amongEntries { scopes := [scope] } kind nodes).entries =
      Content.entries ⟨scope, nodes⟩ kind := by
  have hitem : (fun content : Content => content.draft.toItem.entry?) = Content.entry? :=
    funext Content.entry?_toItem_draft
  change (_ ++ []).reverse.filterMap Item.entry? = _
  rw [List.append_nil, List.reverse_reverse, List.filterMap_map, List.filterMap_map]
  unfold Content.entries
  rw [← hitem]
  rfl

/-- The reader tells the kind of a sitemap by the name of its root element. -/
theorem rootKind?_of_tag? {root : Xml.Node} {tag : Xml.Tag} (htag : root.tag? = some tag) :
    rootKind? root = Kind.ofRoot? (Content.nameOf Xml.Binding.predefined tag).1
      (Content.nameOf Xml.Binding.predefined tag).2 := by
  simp only [rootKind?, htag, Option.bind_eq_bind, Option.bind_some, Content.isNamed_iff]
  cases Content.nameOf Xml.Binding.predefined tag with
  | mk vocabulary name =>
    by_cases h : vocabulary = .sitemap
    · subst h
      simp [Kind.ofRoot?]
    · simp [Kind.ofRoot?, h]

/-- A root element is read from its start tag to its end tag, with all of its entries. -/
theorem run_root {root : Xml.Node} {kind : Kind} (hkind : rootKind? root = some kind)
    (hsound : root.isSound Xml.Binding.predefined = true) :
    (({} : Reader).run root.events).place = .finished ∧
      (({} : Reader).run root.events).kind = some kind ∧
      (({} : Reader).run root.events).entries = entriesOfRoot kind root := by
  cases root with
  | element tag children =>
    obtain ⟨henter, -, hchildren⟩ := Xml.Node.isSound_element hsound
    cases hname : Content.nameOf Xml.Binding.predefined tag with
    | mk vocabulary name =>
      have hroot : Kind.ofRoot? vocabulary name = some kind := by
        rw [← hkind, rootKind?_of_tag? rfl, hname]
      have hstart : start { scopes := [Xml.Binding.predefined.inside tag] } vocabulary name tag =
          amongEntries { scopes := [Xml.Binding.predefined.inside tag] } kind [] := by
        simp [start, enterRoot, hroot, amongEntries, Content.elements]
      have hrun := run_eventsOf
        (amongEntries { scopes := [Xml.Binding.predefined.inside tag] } kind)
        (run_rootChild { scopes := [Xml.Binding.predefined.inside tag] } kind) [] children hchildren
      have hend : ({} : Reader).run (Xml.Node.element tag children).events =
          (amongEntries { scopes := [Xml.Binding.predefined.inside tag] } kind children).step
            .close := by
        refine (run_element (r := {}) rfl henter hname).trans ?_
        rw [run_append]
        change (Reader.run (start { scopes := [Xml.Binding.predefined.inside tag] } _ _ _) _).step
          .close = _
        rw [hstart, hrun]
        rfl
      rw [hend]
      exact ⟨rfl, rfl, entries_amongEntries _ kind children⟩
  | leaf tag =>
    obtain ⟨henter, -⟩ := Xml.Node.isSound_leaf hsound
    have hstep := step_selfClosing (r := {}) rfl henter
    have hroot : Kind.ofRoot? (nameOf (Xml.Binding.predefined.inside tag) tag).1
        (nameOf (Xml.Binding.predefined.inside tag) tag).2 = some kind := by
      rw [← hkind, rootKind?_of_tag? rfl]
      rfl
    have hend : ({} : Reader).run (Xml.Node.leaf tag).events =
        { place := .finished, kind := some kind } := by
      refine hstep.trans ?_
      change enterRoot {} (nameOf (Xml.Binding.predefined.inside tag) tag).1 _ .finished = _
      unfold enterRoot
      rw [hroot]
    rw [hend]
    exact ⟨rfl, rfl, rfl⟩
  | text raw => cases hkind
  | literal raw => cases hkind
  | skipped => cases hkind

theorem run_of_isDone {r : Reader} (h : r.isDone = true) (events : List Xml.Event) :
    r.run events = r := by
  induction events with
  | nil => rfl
  | cons event rest ih =>
    have hstep : r.step event = r := by simp [step, h]
    rw [run, List.foldl_cons, hstep]
    exact ih

/-- What stands in front of the root element does not count. -/
theorem run_prolog {prolog : List Xml.Node} (h : ∀ node ∈ prolog, node.tag? = none) :
    ({} : Reader).run (Xml.Node.eventsOf prolog) = {} := by
  induction prolog with
  | nil => rfl
  | cons node rest ih =>
    rw [Xml.Node.eventsOf, run_append, run_of_tag?_eq_none rfl rfl (h node (by simp))]
    exact ih fun node hnode => h node (by simp [hnode])

end Reader

/-- The events of a document with sound references and declarations yield exactly what its tree
says, and none of it is in doubt. In front of the root element there may be comments and
declarations; what comes behind it does not count. -/
theorem result_eq_reading (allowPartial : Bool) (prolog : List Xml.Node) (root : Xml.Node)
    (rest : List Xml.Event) (fault : Option Xml.Fault) {kind : Kind}
    (hprolog : ∀ node ∈ prolog, node.tag? = none)
    (hsound : root.isSound Xml.Binding.predefined = true) (hkind : rootKind? root = some kind) :
    let events := Xml.Node.eventsOf prolog ++ (root.events ++ rest)
    let sitemap : Sitemap := ⟨kind, entriesOfRoot kind root, false⟩
    ((({} : Reader).run events).finish fault).result allowPartial = .ok sitemap ∧
      ∀ url content, Xml.scan content = (events, fault) →
        (readDocument allowPartial url content).value = .ok sitemap := by
  intro events sitemap
  obtain ⟨hplace, hroot, hentries⟩ := Reader.run_root hkind hsound
  have hdone : (({} : Reader).run root.events).isDone = true := by
    unfold Reader.isDone
    rw [hplace]
  have hrun : (({} : Reader).run events).finish fault = ({} : Reader).run root.events := by
    rw [Reader.run_append, Reader.run_prolog hprolog, Reader.run_append,
      Reader.run_of_isDone hdone]
    simp [Reader.finish, hdone]
  have hresult : ((({} : Reader).run events).finish fault).result allowPartial = .ok sitemap := by
    rw [hrun]
    unfold Reader.result
    rw [hroot, hplace, hentries]
  refine ⟨hresult, ?_⟩
  intro url content hscan
  rw [value_readDocument]
  unfold readXml
  rw [hscan]
  exact hresult

/-- A list of one page with news and a link, all under prefixes, and markup in its address. What
comes before it has the name of a page but not its namespace. -/
def nestedList : Xml.Node :=
  let tag (content : String) : Xml.Tag := .ofContent (Bytes.ofString content)
  let text (raw : String) : Xml.Node := .text (Bytes.ofString raw)
  .element (tag <| "s:urlset xmlns:s='http://www.google.com/schemas/sitemap/0.84'" ++
      " xmlns:n='https://www.google.com/schemas/sitemap-news/0.9'" ++
      " xmlns:x='http://www.w3.org/1999/xhtml'") [
    .element (tag "url xmlns='http://a.b/'") [.element (tag "loc") [text "http://[::1]/b"]],
    .element (tag "s:url") [
      .element (tag "s:loc") [text "a"],
      text " between ",
      .element (tag "s:loc") [text " http://", .element (tag "b") [text "[::1]"], text "/&lt; "],
      .element (tag "s:lastmod") [text "2024-03-17T10:30:00Z"],
      .element (tag "s:priority") [text "0.5"],
      .element (tag "changefreq") [text "Daily"],
      .element (tag "n:changefreq") [text "never"],
      .element (tag "n:news") [
        .element (tag "title") [text "Sunday"],
        .element (tag "n:publication_date") [text "2000-02-29"]],
      .leaf (tag "x:link rel='Alternate' hreflang='de' href=' http://[::1]/de '"),
      .leaf (tag "x:link rel='Alternate' href='/en'"),
      .leaf (tag "link rel='alternate' href='http://[::1]/fr'"),
      .skipped]]

/-- The address of a page on this machine. -/
def localPage (path : String) : Url :=
  ⟨"http".toList, some { host := some (.ipv6 [0, 0, 0, 0, 0, 0, 0, 1]) }, path.toList, none, none⟩

/-- What the nested list says of its page. A title without the prefix of news is none. -/
def nestedPage : Entry where
  location := localPage "/%3C"
  modified := Time.Instant.of? 19799 37800 0
  priority := some ⟨0x3F000000⟩
  frequency := some .daily
  news := [⟨Time.Instant.of? 11016 0 0, none⟩]
  alternates := [⟨some "de", localPage "/de"⟩]

theorem result_eq_reading_nestedList :
    let content := [
      "<!--list--><s:urlset xmlns:s='http://www.google.com/schemas/sitemap/0.84'",
      " xmlns:n='https://www.google.com/schemas/sitemap-news/0.9'",
      " xmlns:x='http://www.w3.org/1999/xhtml'>",
      "<url xmlns='http://a.b/'><loc>http://[::1]/b</loc></url>",
      "<s:url><s:loc>a</s:loc> between <s:loc> http://<b>[::1]</b>/&lt; </s:loc>",
      "<s:lastmod>2024-03-17T10:30:00Z</s:lastmod><s:priority>0.5</s:priority>",
      "<changefreq>Daily</changefreq><n:changefreq>never</n:changefreq>",
      "<n:news><title>Sunday</title>",
      "<n:publication_date>2000-02-29</n:publication_date></n:news>",
      "<x:link rel='Alternate' hreflang='de' href=' http://[::1]/de '/>",
      "<x:link rel='Alternate' href='/en'/><link rel='alternate' href='http://[::1]/fr'/>",
      "<!----></s:url></s:urlset>"].flatMap Bytes.ofString
    (readDocument false "http://a.b/s.xml" content).value = .ok ⟨.urlSet, [nestedPage], false⟩ := by
  intro content
  have hprolog : ∀ node ∈ [Xml.Node.skipped], node.tag? = none := by simp [Xml.Node.tag?]
  have hsound : nestedList.isSound Xml.Binding.predefined = true := by decide +kernel
  have hkind : rootKind? nestedList = some .urlSet := by decide +kernel
  have hscan : Xml.scan content =
      (Xml.Node.eventsOf [.skipped] ++ (nestedList.events ++ []), none) := by
    decide +kernel
  have hentries : entriesOfRoot .urlSet nestedList = [nestedPage] := by decide +kernel
  obtain ⟨-, hread⟩ := result_eq_reading false [.skipped] nestedList [] none hprolog hsound hkind
  rw [← hentries]
  exact hread _ content hscan

end Recrawl.Sitemap
