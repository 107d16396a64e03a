import Recrawl.Xml.Namespace
import Recrawl.Xml.Reference

/-!
Documents as trees, and the events that tell a tree. A declaration is in force in the
element that makes it and in everything inside; text reaches the events without the blanks
at its ends, and not at all if it has nothing else.
-/

namespace Recrawl.Xml

/-- The text without the blanks at its ends, if anything is left. -/
def stretch? (raw : Bytes) : Option Bytes :=
  let core := ((raw.dropWhile isBlank).reverse.dropWhile isBlank).reverse
  if core.isEmpty then none else some core

/-- The references in some text all stand for characters. -/
def Reference.isSound (raw : Bytes) : Bool :=
  match decode raw with
  | .ok _ => true
  | .error _ => false

/-- The characters of a text whose references are sound. -/
def Reference.decoded (raw : Bytes) : List Char :=
  match decode raw with
  | .ok chars => chars
  | .error _ => []

theorem Reference.decode_of_isSound {raw : Bytes} (h : isSound raw = true) :
    decode raw = .ok (decoded raw) := by
  unfold isSound at h
  unfold decoded
  cases hdecode : decode raw with
  | ok chars => rfl
  | error fault => rw [hdecode] at h; cases h

/-- The references in the values of a tag's attributes are sound. -/
def Tag.isSound (tag : Tag) : Bool :=
  tag.distinctAttributes.all fun attr => Reference.isSound attr.value

namespace Scope

/-- The declarations of a tag are ones that may be made. -/
def accepts (scope : Scope) (tag : Tag) : Bool :=
  match scope.enter tag with
  | .ok _ => true
  | .error _ => false

/-- The declarations in force inside an element that makes no forbidden ones. -/
def inside (scope : Scope) (tag : Tag) : Scope :=
  match scope.enter tag with
  | .ok inner => inner
  | .error _ => scope

theorem enter_of_accepts {scope : Scope} {tag : Tag} (h : scope.accepts tag = true) :
    scope.enter tag = .ok (scope.inside tag) := by
  unfold accepts at h
  unfold inside
  cases henter : scope.enter tag with
  | ok inner => rfl
  | error fault => rw [henter] at h; cases h

end Scope

/-- A part of the content of a document. -/
inductive Node
  /-- An element that has a start tag and an end tag. -/
  | element (tag : Tag) (children : List Node)
  /-- An element whose tag is its own end. -/
  | leaf (tag : Tag)
  | text (raw : Bytes)
  | literal (raw : Bytes)
  /-- A comment, a declaration or an instruction. -/
  | skipped

namespace Node

/-- The tag of an element. -/
def tag? : Node → Option Tag
  | element tag _ => some tag
  | leaf tag => some tag
  | _ => none

mutual

/-- The events that tell a node. -/
def events : Node → List Event
  | element tag children => .start tag :: (eventsOf children ++ [.close])
  | leaf tag => [.selfClosing tag]
  | text raw => (stretch? raw).toList.map Event.text
  | literal raw => [.literal raw]
  | skipped => [.skipped]

/-- The events that tell nodes one after the other. -/
def eventsOf : List Node → List Event
  | [] => []
  | node :: rest => node.events ++ eventsOf rest

end

mutual

/-- The character data of a node at any depth, in the order of the text. -/
def pieces : Node → List (List Char)
  | element _ children => piecesOf children
  | leaf _ => []
  | text raw => (stretch? raw).toList.map Reference.decoded
  | literal raw => [Text.Utf8.lossy raw]
  | skipped => []

/-- The character data of nodes one after the other. -/
def piecesOf : List Node → List (List Char)
  | [] => []
  | node :: rest => node.pieces ++ piecesOf rest

end

mutual

/-- All references and all declarations in a node are sound. -/
def isSound : Scope → Node → Bool
  | scope, element tag children =>
    scope.accepts tag && tag.isSound && areSound (scope.inside tag) children
  | scope, leaf tag => scope.accepts tag && tag.isSound
  | _, text raw => (stretch? raw).all Reference.isSound
  | _, literal _ => true
  | _, skipped => true

/-- All references and all declarations in some nodes are sound. -/
def areSound : Scope → List Node → Bool
  | _, [] => true
  | scope, node :: rest => node.isSound scope && areSound scope rest

end

theorem isSound_element {scope : Scope} {tag : Tag} {children : List Node}
    (h : (element tag children).isSound scope = true) :
    scope.enter tag = .ok (scope.inside tag) ∧ tag.isSound = true ∧
      areSound (scope.inside tag) children = true := by
  simp only [isSound, Bool.and_eq_true] at h
  obtain ⟨⟨haccepts, htag⟩, hchildren⟩ := h
  exact ⟨Scope.enter_of_accepts haccepts, htag, hchildren⟩

theorem isSound_leaf {scope : Scope} {tag : Tag} (h : (leaf tag).isSound scope = true) :
    scope.enter tag = .ok (scope.inside tag) ∧ tag.isSound = true := by
  simp only [isSound, Bool.and_eq_true] at h
  exact ⟨Scope.enter_of_accepts h.1, h.2⟩

theorem areSound_cons {scope : Scope} {node : Node} {rest : List Node}
    (h : areSound scope (node :: rest) = true) :
    node.isSound scope = true ∧ areSound scope rest = true := by
  simpa only [areSound, Bool.and_eq_true] using h

end Node

end Recrawl.Xml
