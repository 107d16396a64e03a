import Recrawl.Sitemap.Entry
import Recrawl.Sitemap.Vocabulary
import Recrawl.Time.W3c
import Recrawl.Url.Parser
import Recrawl.Xml.Reference
import Recrawl.Xml.Scanner

/-!
Reading a sitemap from the events of an XML document. The reader takes one event
at a time and knows where in the document it is; an entry is complete with its
end tag, so that what follows never changes it.
-/
namespace Recrawl.Sitemap

/-- Why content is no sitemap, or why reading it stopped. -/
inductive Fault
  | empty
  | gzip (message : String)
  /-- The root element is none of a sitemap. -/
  | unknownRoot (name : String)
  | xml (fault : Xml.Fault)
  /-- The document ends inside an element. -/
  | truncated
  deriving DecidableEq, Repr

def Fault.message : Fault → String
  | empty => "empty sitemap"
  | gzip message => "failed to decompress gzip content: " ++ message
  | unknownRoot name => "unknown sitemap format: root element <" ++ name ++ ">"
  | xml fault => "malformed XML: " ++ fault.message
  | truncated => "unexpected end of document"

/-- The text of an element, read so far: its pieces, latest first. -/
abbrev Pieces := List (List Char)

/-- The characters of all pieces without the blanks at either end. -/
def Pieces.text (pieces : Pieces) : List Char :=
  Text.trimChars pieces.reverse.flatten

inductive Field
  | location
  | modified
  | priority
  | frequency
  deriving DecidableEq, Repr

inductive NewsField
  | published
  | title
  deriving DecidableEq, Repr

/-- An entry of which not everything is read. -/
structure Draft where
  location : Option (List Char) := none
  modified : Option Time.Instant := none
  priority : Option Number.Binary32 := none
  frequency : Option ChangeFrequency := none
  /-- Latest first. -/
  news : List News := []
  /-- Latest first. -/
  alternates : List Alternate := []
  deriving DecidableEq

/-- Where in a piece of news the reader is. A depth counts the elements that are open inside. -/
inductive NewsPlace
  | children
  | skipped (depth : Nat)
  | field (field : NewsField) (depth : Nat) (pieces : Pieces)
  deriving DecidableEq

inductive EntryPlace
  | children
  | skipped (depth : Nat)
  | field (field : Field) (depth : Nat) (pieces : Pieces)
  | news (news : News) (place : NewsPlace)
  deriving DecidableEq

inductive Place
  /-- In front of the root element. -/
  | prolog
  /-- Among the children of the root element. -/
  | root
  | skipped (depth : Nat)
  | entry (draft : Draft) (place : EntryPlace)
  | finished
  | failed (fault : Fault)
  deriving DecidableEq

inductive Item
  | entry (entry : Entry)
  /-- It has no location. -/
  | unnamed
  /-- Its location is no URL. -/
  | invalid (location : String) (fault : Url.Fault)
  deriving DecidableEq

def Item.entry? : Item → Option Entry
  | entry e => some e
  | _ => none

/-- The reader: its place, the kind of the root element once it is known, the declarations in force
in each open element, innermost first, and the items so far, latest first. -/
structure Reader where
  place : Place := .prolog
  kind : Option Kind := none
  scopes : List Xml.Scope := []
  items : List Item := []
  deriving DecidableEq

/-- The priority that a text gives: a number from zero to one. -/
def readPriority (text : List Char) : Option Number.Binary32 :=
  ((Number.Decimal.parse? text).bind Number.Binary32.ofUnitDecimal?).filter fun p => !p.isNegative

/-- Stores the text of a field. A field that comes again replaces the one before, also with
nothing. -/
def Draft.set (draft : Draft) (field : Field) (text : List Char) : Draft :=
  match field with
  | .location => { draft with location := some text }
  | .modified => { draft with modified := Time.parseW3c? (String.ofList text) }
  | .priority => { draft with priority := readPriority text }
  | .frequency => { draft with frequency := ChangeFrequency.parse? (String.ofList text) }

def News.set (news : News) (field : NewsField) (text : List Char) : News :=
  match field with
  | .published => { news with published := Time.parseW3c? (String.ofList text) }
  | .title => { news with title := if text.isEmpty then none else some (String.ofList text) }

def Draft.toItem (draft : Draft) : Item :=
  match draft.location with
  | none => .unnamed
  | some location =>
    match Url.ofChars location with
    | .error fault => .invalid (String.ofList location) fault
    | .ok url =>
      .entry ⟨url, draft.modified, draft.priority, draft.frequency, draft.news.reverse,
        draft.alternates.reverse⟩

/-- The attributes of a link by what follows their colon; the last one of a name counts. -/
structure LinkAttributes where
  relation : Option (List Char) := none
  language : Option (List Char) := none
  target : Option (List Char) := none

def LinkAttributes.read : LinkAttributes → List Xml.Attribute → Except Xml.Fault LinkAttributes
  | link, [] => .ok link
  | link, attr :: rest =>
    match Xml.Reference.decode attr.value with
    | .error fault => .error fault
    | .ok value =>
      let name := Xml.localPart attr.name
      if name == Bytes.ofString "rel" then read { link with relation := some value } rest
      else if name == Bytes.ofString "hreflang" then read { link with language := some value } rest
      else if name == Bytes.ofString "href" then read { link with target := some value } rest
      else read link rest

/-- The alternate that a link announces: it has that relation, in any letter case, and an absolute
URL. -/
def LinkAttributes.alternate? (link : LinkAttributes) : Option Alternate :=
  if (link.relation.map fun r => r.map Char.toLower) == some "alternate".toList then
    match link.target with
    | none => none
    | some target =>
      match Url.ofChars (Text.trimChars target) with
      | .ok url => some ⟨link.language.map String.ofList, url⟩
      | .error _ => none
  else none

def Draft.addLink (draft : Draft) (tag : Xml.Tag) : Except Xml.Fault Draft :=
  match LinkAttributes.read {} tag.distinctAttributes with
  | .error fault => .error fault
  | .ok link =>
    match link.alternate? with
    | some alternate => .ok { draft with alternates := alternate :: draft.alternates }
    | none => .ok draft

def Field.ofName? (name : Bytes) : Option Field :=
  if name == Bytes.ofString "loc" then some .location
  else if name == Bytes.ofString "lastmod" then some .modified
  else if name == Bytes.ofString "priority" then some .priority
  else if name == Bytes.ofString "changefreq" then some .frequency
  else none

def NewsField.ofName? (name : Bytes) : Option NewsField :=
  if name == Bytes.ofString "publication_date" then some .published
  else if name == Bytes.ofString "title" then some .title
  else none

def Kind.isEntry (kind : Kind) (name : Bytes) : Bool :=
  match kind with
  | .urlSet => name == Bytes.ofString "url"
  | .index => name == Bytes.ofString "sitemap"

def Kind.ofRoot? (vocabulary : Vocabulary) (name : Bytes) : Option Kind :=
  if vocabulary != .sitemap then none
  else if name == Bytes.ofString "urlset" then some .urlSet
  else if name == Bytes.ofString "sitemapindex" then some .index
  else none

namespace Reader

def scope (r : Reader) : Xml.Scope :=
  r.scopes.headD Xml.Binding.predefined

def stop (r : Reader) (fault : Fault) : Reader :=
  { r with place := .failed fault }

def nameOf (scope : Xml.Scope) (tag : Xml.Tag) : Vocabulary × Bytes :=
  (Vocabulary.ofNamespace (scope.resolve tag.name), Xml.localPart tag.name)

/-- Takes the root element, which goes on to `next`. -/
def enterRoot (r : Reader) (vocabulary : Vocabulary) (name : Bytes) (next : Place) : Reader :=
  match Kind.ofRoot? vocabulary name with
  | some kind => { r with kind := some kind, place := next }
  | none => r.stop (.unknownRoot (Text.Utf8.decodeLossy name))

/-- The place after the start of a child of an entry. -/
def enterChild (draft : Draft) (vocabulary : Vocabulary) (name : Bytes) (tag : Xml.Tag) : Place :=
  match vocabulary with
  | .sitemap =>
    match Field.ofName? name with
    | some field => .entry draft (.field field 0 [])
    | none => .entry draft (.skipped 0)
  | .news =>
    if name == Bytes.ofString "news" then .entry draft (.news {} .children)
    else .entry draft (.skipped 0)
  | .links =>
    if name == Bytes.ofString "link" then
      match draft.addLink tag with
      | .ok draft => .entry draft (.skipped 0)
      | .error fault => .failed (.xml fault)
    else .entry draft (.skipped 0)
  | .other => .entry draft (.skipped 0)

/-- The place after the start of a child of a piece of news. -/
def enterNewsChild (vocabulary : Vocabulary) (name : Bytes) : NewsPlace :=
  if vocabulary == .news then
    match NewsField.ofName? name with
    | some field => .field field 0 []
    | none => .skipped 0
  else .skipped 0

/-- Takes a start tag, with the vocabulary and the local name of its element. -/
def start (r : Reader) (vocabulary : Vocabulary) (name : Bytes) (tag : Xml.Tag) : Reader :=
  match r.place with
  | .prolog => r.enterRoot vocabulary name .root
  | .root =>
    if vocabulary == .sitemap && r.kind.any (·.isEntry name) then
      { r with place := .entry {} .children }
    else { r with place := .skipped 0 }
  | .skipped depth => { r with place := .skipped (depth + 1) }
  | .entry draft .children => { r with place := enterChild draft vocabulary name tag }
  | .entry draft (.skipped depth) => { r with place := .entry draft (.skipped (depth + 1)) }
  | .entry draft (.field field depth pieces) =>
    { r with place := .entry draft (.field field (depth + 1) pieces) }
  | .entry draft (.news news .children) =>
    { r with place := .entry draft (.news news (enterNewsChild vocabulary name)) }
  | .entry draft (.news news (.skipped depth)) =>
    { r with place := .entry draft (.news news (.skipped (depth + 1))) }
  | .entry draft (.news news (.field field depth pieces)) =>
    { r with place := .entry draft (.news news (.field field (depth + 1) pieces)) }
  | .finished => r
  | .failed _ => r

/-- Takes a tag that is its own end. Apart from the root, only links count. -/
def selfClosing (r : Reader) (vocabulary : Vocabulary) (name : Bytes) (tag : Xml.Tag) : Reader :=
  match r.place with
  | .prolog => r.enterRoot vocabulary name .finished
  | .entry draft .children =>
    if vocabulary == .links && name == Bytes.ofString "link" then
      match draft.addLink tag with
      | .ok draft => { r with place := .entry draft .children }
      | .error fault => r.stop (.xml fault)
    else r
  | _ => r

def close (r : Reader) : Reader :=
  match r.place with
  | .root => { r with place := .finished }
  | .skipped 0 => { r with place := .root }
  | .skipped (depth + 1) => { r with place := .skipped depth }
  | .entry draft .children => { r with place := .root, items := draft.toItem :: r.items }
  | .entry draft (.skipped 0) => { r with place := .entry draft .children }
  | .entry draft (.skipped (depth + 1)) => { r with place := .entry draft (.skipped depth) }
  | .entry draft (.field field 0 pieces) =>
    { r with place := .entry (draft.set field pieces.text) .children }
  | .entry draft (.field field (depth + 1) pieces) =>
    { r with place := .entry draft (.field field depth pieces) }
  | .entry draft (.news news .children) =>
    { r with place := .entry { draft with news := news :: draft.news } .children }
  | .entry draft (.news news (.skipped 0)) =>
    { r with place := .entry draft (.news news .children) }
  | .entry draft (.news news (.skipped (depth + 1))) =>
    { r with place := .entry draft (.news news (.skipped depth)) }
  | .entry draft (.news news (.field field 0 pieces)) =>
    { r with place := .entry draft (.news (news.set field pieces.text) .children) }
  | .entry draft (.news news (.field field (depth + 1) pieces)) =>
    { r with place := .entry draft (.news news (.field field depth pieces)) }
  | .prolog => r
  | .finished => r
  | .failed _ => r

/-- Adds characters to the field that is being read; elsewhere text does not count. -/
def addText (r : Reader) (chars : List Char) : Reader :=
  match r.place with
  | .entry draft (.field field depth pieces) =>
    { r with place := .entry draft (.field field depth (chars :: pieces)) }
  | .entry draft (.news news (.field field depth pieces)) =>
    { r with place := .entry draft (.news news (.field field depth (chars :: pieces))) }
  | _ => r

/-- The reader is inside an element whose text counts. -/
def inField (r : Reader) : Bool :=
  match r.place with
  | .entry _ (.field _ _ _) => true
  | .entry _ (.news _ (.field _ _ _)) => true
  | _ => false

def isDone (r : Reader) : Bool :=
  match r.place with
  | .finished => true
  | .failed _ => true
  | _ => false

def step (r : Reader) (event : Xml.Event) : Reader :=
  if r.isDone then r
  else
    match event with
    | .start tag =>
      match r.scope.enter tag with
      | .error fault => r.stop (.xml fault)
      | .ok scope =>
        let (vocabulary, name) := nameOf scope tag
        { r with scopes := scope :: r.scopes }.start vocabulary name tag
    | .selfClosing tag =>
      match r.scope.enter tag with
      | .error fault => r.stop (.xml fault)
      | .ok scope =>
        let (vocabulary, name) := nameOf scope tag
        r.selfClosing vocabulary name tag
    | .close => { r with scopes := r.scopes.drop 1 }.close
    | .text raw =>
      if r.inField then
        match Xml.Reference.decode raw with
        | .ok chars => r.addText chars
        | .error fault => r.stop (.xml fault)
      else r
    | .literal raw => r.addText (Text.Utf8.lossy raw)
    | .skipped => r

def run (r : Reader) (events : List Xml.Event) : Reader :=
  events.foldl step r

theorem run_append (r : Reader) (a b : List Xml.Event) : r.run (a ++ b) = (r.run a).run b := by
  simp [run, List.foldl_append]

/-- Takes the end of the events: a fault of the document, or its end. -/
def finish (r : Reader) (fault : Option Xml.Fault) : Reader :=
  if r.isDone then r
  else
    match fault with
    | some fault => r.stop (.xml fault)
    | none =>
      match r.place with
      | .prolog => r.stop .empty
      | _ => r.stop .truncated

def entries (r : Reader) : List Entry :=
  r.items.reverse.filterMap Item.entry?

end Reader

def readXml (content : Bytes) : Reader :=
  let (events, fault) := Xml.scan content
  (({} : Reader).run events).finish fault

end Recrawl.Sitemap
