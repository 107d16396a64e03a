import Recrawl.Proofs.Sitemap.Naming

/-!
What a sitemap says, read off the tree of its document. An element is looked up among the
children of another by its vocabulary and its name; where only one can count, the last one
does.
-/

namespace Recrawl

namespace Sitemap

/-- The content of an element: the declarations in force inside, and the nodes. -/
structure Content where
  scope : Xml.Scope
  nodes : List Xml.Node

namespace Content

/-- The content of a node, if it is an element of this name with a start tag and an end tag. -/
def ofNode? (scope : Xml.Scope) (vocabulary : Vocabulary) (name : String) :
    Xml.Node → Option Content
  | .element tag children =>
    if IsNamed scope vocabulary name tag then some ⟨scope.inside tag, children⟩ else none
  | _ => none

/-- The tag of a node, if it is an element of this name with or without an end tag. -/
def tagOf? (scope : Xml.Scope) (vocabulary : Vocabulary) (name : String) (node : Xml.Node) :
    Option Xml.Tag :=
  node.tag?.filter fun tag => IsNamed scope vocabulary name tag

/-- The contents of the child elements of this name that have a start tag and an end tag. -/
def elements (content : Content) (vocabulary : Vocabulary) (name : String) : List Content :=
  content.nodes.filterMap (ofNode? content.scope vocabulary name)

/-- The tags of all child elements of this name. -/
def tags (content : Content) (vocabulary : Vocabulary) (name : String) : List Xml.Tag :=
  content.nodes.filterMap (tagOf? content.scope vocabulary name)

/-- The character data at any depth, without the blanks at either end. -/
def text (content : Content) : List Char :=
  Text.trimChars (Xml.Node.piecesOf content.nodes).flatten

/-- The text of the last child element of this name. -/
def lastText? (content : Content) (vocabulary : Vocabulary) (name : String) :
    Option (List Char) :=
  (content.elements vocabulary name).getLast?.map text

end Content

/-- The value of the last of a link's attributes with this local name. -/
def lastValue? (attributes : List Xml.Attribute) (name : String) : Option (List Char) :=
  ((attributes.filter fun attr => Xml.localPart attr.name == Bytes.ofString name).getLast?).map
    fun attr => Xml.Reference.decoded attr.value

/-- The alternate that the tag of a link announces: `rel` says so, in any letter case, and `href`
is an absolute URL. -/
def alternateOf? (tag : Xml.Tag) : Option Alternate := do
  let relation ← lastValue? tag.distinctAttributes "rel"
  guard (relation.map Char.toLower = "alternate".toList)
  let address ← lastValue? tag.distinctAttributes "href"
  let target ← (Url.ofChars (Text.trimChars address)).toOption
  pure ⟨(lastValue? tag.distinctAttributes "hreflang").map String.ofList, target⟩

/-- A number from zero to one, or the negative zero. -/
def IsUnit (x : Number.Binary32) : Prop :=
  x.bits ≤ 0x3F800000 ∨ x.bits = 0x80000000

instance (x : Number.Binary32) : Decidable (IsUnit x) :=
  inferInstanceAs (Decidable (_ ∨ _))

/-- The number that a text spells in decimal, if it lies in the unit interval. -/
def unitNumber? (text : List Char) : Option Number.Binary32 := do
  let decimal ← Number.Decimal.parse? text
  let number ← Number.Binary32.ofUnitDecimal? decimal
  guard (IsUnit number)
  pure number

namespace Content

/-- What a piece of news says. A title without text counts as none. -/
def news (content : Content) : News where
  published := (content.lastText? .news "publication_date").bind fun text =>
    Time.parseW3c? (String.ofList text)
  title := (content.lastText? .news "title").bind fun text =>
    if text.isEmpty then none else some (String.ofList text)

/-- All news about a page. -/
def allNews (content : Content) : List News :=
  (content.elements .news "news").map news

/-- The alternates of a page. -/
def alternates (content : Content) : List Alternate :=
  (content.tags .links "link").filterMap alternateOf?

/-- When a page was modified. -/
def modified? (content : Content) : Option Time.Instant :=
  (content.lastText? .sitemap "lastmod").bind fun text => Time.parseW3c? (String.ofList text)

/-- The priority of a page. -/
def priority? (content : Content) : Option Number.Binary32 :=
  (content.lastText? .sitemap "priority").bind unitNumber?

/-- How often a page is said to change. -/
def frequency? (content : Content) : Option ChangeFrequency :=
  (content.lastText? .sitemap "changefreq").bind fun text =>
    ChangeFrequency.parse? (String.ofList text)

/-- The entry for a page or a further sitemap, unless it has no location or one that is no URL. -/
def entry? (content : Content) : Option Entry := do
  let location ← content.lastText? .sitemap "loc"
  let url ← (Url.ofChars location).toOption
  pure ⟨url, content.modified?, content.priority?, content.frequency?, content.allNews,
    content.alternates⟩

end Content

/-- The name of the elements that are the entries of a sitemap of this kind. -/
def Kind.entryName : Kind → String
  | .urlSet => "url"
  | .index => "sitemap"

/-- The entries of a sitemap, in the order of the document. -/
def Content.entries (content : Content) (kind : Kind) : List Entry :=
  (content.elements .sitemap kind.entryName).filterMap entry?

/-- The kind of sitemap that a root element begins. -/
def rootKind? (root : Xml.Node) : Option Kind := do
  let tag ← root.tag?
  if Content.IsNamed Xml.Binding.predefined .sitemap "urlset" tag then some .urlSet
  else if Content.IsNamed Xml.Binding.predefined .sitemap "sitemapindex" tag then some .index
  else none

/-- The entries inside a root element. -/
def entriesOfRoot (kind : Kind) : Xml.Node → List Entry
  | .element tag children => Content.entries ⟨Xml.Binding.predefined.inside tag, children⟩ kind
  | _ => []

namespace Content

section Snoc

variable (scope : Xml.Scope) (before : List Xml.Node) (node : Xml.Node)

theorem elements_snoc (vocabulary : Vocabulary) (name : String) :
    elements ⟨scope, before ++ [node]⟩ vocabulary name =
      elements ⟨scope, before⟩ vocabulary name ++
        (ofNode? scope vocabulary name node).toList := by
  unfold elements
  rw [List.filterMap_append]
  cases h : ofNode? scope vocabulary name node <;> simp [h]

theorem tags_snoc (vocabulary : Vocabulary) (name : String) :
    tags ⟨scope, before ++ [node]⟩ vocabulary name =
      tags ⟨scope, before⟩ vocabulary name ++ (tagOf? scope vocabulary name node).toList := by
  unfold tags
  rw [List.filterMap_append]
  cases h : tagOf? scope vocabulary name node <;> simp [h]

theorem lastText?_snoc (vocabulary : Vocabulary) (name : String) :
    lastText? ⟨scope, before ++ [node]⟩ vocabulary name =
      ((ofNode? scope vocabulary name node).map text).or
        (lastText? ⟨scope, before⟩ vocabulary name) := by
  unfold lastText?
  rw [elements_snoc, List.getLast?_append]
  cases ofNode? scope vocabulary name node <;> rfl

end Snoc

end Content

end Sitemap

end Recrawl
