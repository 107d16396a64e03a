import Recrawl.Proofs.Sitemap.Reading

/-!
Elements that the reader passes through from the start tag to the end tag: those it skips,
and those of which it wants nothing but the text. Whatever is nested inside, the depth comes
back to what it was, so that the end tag that counts is the element's own.
-/

namespace Recrawl.Sitemap

/-- What the reader is inside of while it does not care for the elements there. -/
inductive Frame
  /-- A child of the root element that is no entry. -/
  | skipped
  /-- A child of an entry that has no meaning. -/
  | skippedChild (draft : Draft)
  | field (draft : Draft) (field : Field)
  /-- A child of a piece of news that has no meaning. -/
  | skippedNewsChild (draft : Draft) (news : News)
  | newsField (draft : Draft) (news : News) (field : NewsField)

namespace Frame

/-- The place at a depth, with the text read so far. -/
def place : Frame → Nat → Pieces → Place
  | skipped, depth, _ => .skipped depth
  | skippedChild draft, depth, _ => .entry draft (.skipped depth)
  | field draft f, depth, pieces => .entry draft (.field f depth pieces)
  | skippedNewsChild draft news, depth, _ => .entry draft (.news news (.skipped depth))
  | newsField draft news f, depth, pieces => .entry draft (.news news (.field f depth pieces))

/-- The place behind the end tag. -/
def after : Frame → List Char → Place
  | skipped, _ => .root
  | skippedChild draft, _ => .entry draft .children
  | field draft f, text => .entry (draft.set f text) .children
  | skippedNewsChild draft news, _ => .entry draft (.news news .children)
  | newsField draft news f, text => .entry draft (.news (news.set f text) .children)

end Frame

namespace Reader

theorem step_start {r : Reader} {tag : Xml.Tag} {inner : Xml.Scope} (hdone : r.isDone = false)
    (henter : r.scope.enter tag = .ok inner) :
    r.step (.start tag) =
      { r with scopes := inner :: r.scopes }.start (nameOf inner tag).1 (nameOf inner tag).2
        tag := by
  simp [step, hdone, henter]

theorem step_selfClosing {r : Reader} {tag : Xml.Tag} {inner : Xml.Scope} (hdone : r.isDone = false)
    (henter : r.scope.enter tag = .ok inner) :
    r.step (.selfClosing tag) = r.selfClosing (nameOf inner tag).1 (nameOf inner tag).2 tag := by
  simp [step, hdone, henter]

theorem addText_of_not_inField {r : Reader} (h : r.inField = false) (chars : List Char) :
    r.addText chars = r := by
  unfold inField at h
  unfold addText
  split
  · rename_i hplace
    simp [hplace] at h
  · rename_i hplace
    simp [hplace] at h
  · rfl

theorem step_text_of_isSound {r : Reader} {raw : Bytes} (hdone : r.isDone = false)
    (hsound : Xml.Reference.isSound raw = true) :
    r.step (.text raw) = r.addText (Xml.Reference.decoded raw) := by
  have hdecode := Xml.Reference.decode_of_isSound hsound
  cases hfield : r.inField with
  | true => simp [step, hdone, hdecode, hfield]
  | false => simp [step, hdone, hfield, addText_of_not_inField hfield]

theorem step_skipped (r : Reader) : r.step .skipped = r := by
  unfold step
  split <;> rfl

section Inside

variable (r : Reader) (frame : Frame) (depth : Nat) (pieces : Pieces)

theorem isDone_inside : { r with place := frame.place depth pieces }.isDone = false := by
  cases frame <;> rfl

theorem step_start_inside {tag : Xml.Tag} {inner : Xml.Scope} (h : r.scope.enter tag = .ok inner) :
    { r with place := frame.place depth pieces }.step (.start tag) =
      { r with place := frame.place (depth + 1) pieces, scopes := inner :: r.scopes } := by
  rw [step_start (r.isDone_inside frame depth pieces) h]
  cases frame <;> rfl

theorem step_selfClosing_inside {tag : Xml.Tag} {inner : Xml.Scope}
    (h : r.scope.enter tag = .ok inner) :
    { r with place := frame.place depth pieces }.step (.selfClosing tag) =
      { r with place := frame.place depth pieces } := by
  rw [step_selfClosing (r.isDone_inside frame depth pieces) h]
  cases frame <;> rfl

theorem step_close_inside :
    { r with place := frame.place (depth + 1) pieces }.step .close =
      { r with place := frame.place depth pieces, scopes := r.scopes.drop 1 } := by
  cases frame <;> rfl

theorem step_close_last :
    { r with place := frame.place 0 pieces }.step .close =
      { r with place := frame.after pieces.text, scopes := r.scopes.drop 1 } := by
  cases frame <;> rfl

theorem step_text_inside {raw : Bytes} (h : Xml.Reference.isSound raw = true) :
    { r with place := frame.place depth pieces }.step (.text raw) =
      { r with place := frame.place depth (Xml.Reference.decoded raw :: pieces) } := by
  rw [step_text_of_isSound (r.isDone_inside frame depth pieces) h]
  cases frame <;> rfl

theorem step_literal_inside (raw : Bytes) :
    { r with place := frame.place depth pieces }.step (.literal raw) =
      { r with place := frame.place depth (Text.Utf8.lossy raw :: pieces) } := by
  cases frame <;> rfl

end Inside

mutual

/-- A node inside a frame leaves the reader where it was and adds its character data. -/
theorem run_inside (r : Reader) (frame : Frame) (depth : Nat) (pieces : Pieces) :
    (node : Xml.Node) → node.isSound r.scope = true →
      { r with place := frame.place depth pieces }.run node.events =
        { r with place := frame.place depth (node.pieces.reverse ++ pieces) }
  | .element tag children, h => by
    obtain ⟨henter, -, hchildren⟩ := Xml.Node.isSound_element h
    -- One level deeper with one more scope; the end tag takes both back.
    have hinner := runs_inside { r with scopes := r.scope.inside tag :: r.scopes } frame (depth + 1)
      pieces children hchildren
    rw [Xml.Node.events, run, List.foldl_cons, r.step_start_inside frame depth pieces henter]
    change Reader.run _ (_ ++ _) = _
    rw [run_append, hinner]
    exact step_close_inside _ frame depth _
  | .leaf tag, h => by
    exact r.step_selfClosing_inside frame depth pieces (Xml.Node.isSound_leaf h).1
  | .text raw, h => by
    rw [Xml.Node.events, Xml.Node.pieces]
    rw [Xml.Node.isSound] at h
    cases hstretch : Xml.stretch? raw with
    | none => rfl
    | some core =>
      rw [hstretch] at h
      exact r.step_text_inside frame depth pieces h
  | .literal raw, _ => r.step_literal_inside frame depth pieces raw
  | .skipped, _ => step_skipped _

theorem runs_inside (r : Reader) (frame : Frame) (depth : Nat) (pieces : Pieces) :
    (nodes : List Xml.Node) → Xml.Node.areSound r.scope nodes = true →
      { r with place := frame.place depth pieces }.run (Xml.Node.eventsOf nodes) =
        { r with place := frame.place depth ((Xml.Node.piecesOf nodes).reverse ++ pieces) }
  | [], _ => rfl
  | node :: rest, h => by
    obtain ⟨hnode, hrest⟩ := Xml.Node.areSound_cons h
    rw [Xml.Node.eventsOf, Xml.Node.piecesOf, run_append,
      run_inside r frame depth pieces node hnode, runs_inside r frame depth _ rest hrest,
      List.reverse_append, List.append_assoc]

end

/-- An element inside a frame: its end tag takes the reader to the place behind the frame. -/
theorem run_frame (r : Reader) (frame : Frame) {inner : Xml.Scope} {children : List Xml.Node}
    (h : Xml.Node.areSound inner children = true) :
    { r with place := frame.place 0 [], scopes := inner :: r.scopes }.run
        (Xml.Node.eventsOf children ++ [Xml.Event.close]) =
      { r with place := frame.after (Content.text ⟨inner, children⟩) } := by
  have hinner := runs_inside { r with scopes := inner :: r.scopes } frame 0 [] children h
  rw [run_append, hinner]
  have hclose := step_close_last { r with scopes := inner :: r.scopes } frame
    ((Xml.Node.piecesOf children).reverse ++ [])
  have htext : Pieces.text ((Xml.Node.piecesOf children).reverse ++ []) =
      Content.text ⟨inner, children⟩ := by
    unfold Pieces.text Content.text
    rw [List.append_nil, List.reverse_reverse]
  rw [htext] at hclose
  exact hclose

/-- Text and comments between the children of an element do not count. -/
theorem run_of_tag?_eq_none {r : Reader} (hdone : r.isDone = false) (hfield : r.inField = false)
    {node : Xml.Node} (htag : node.tag? = none) : r.run node.events = r := by
  cases node with
  | element tag children => cases htag
  | leaf tag => cases htag
  | text raw =>
    rw [Xml.Node.events]
    cases Xml.stretch? raw with
    | none => rfl
    | some core =>
      change r.step (.text core) = r
      simp [step, hdone, hfield]
  | literal raw =>
    change r.step (.literal raw) = r
    simp [step, hdone, addText_of_not_inField hfield]
  | skipped => exact r.step_skipped

/-- If a reader keeps up with every single node, it does with all nodes of an element. -/
theorem run_eventsOf (state : List Xml.Node → Reader) {scope : Xml.Scope}
    (hstep : ∀ before node, node.isSound scope = true →
      (state before).run node.events = state (before ++ [node]))
    (before nodes : List Xml.Node) (hsound : Xml.Node.areSound scope nodes = true) :
    (state before).run (Xml.Node.eventsOf nodes) = state (before ++ nodes) := by
  induction nodes generalizing before with
  | nil => rw [Xml.Node.eventsOf, List.append_nil]; rfl
  | cons node rest ih =>
    obtain ⟨hnode, hrest⟩ := Xml.Node.areSound_cons hsound
    rw [Xml.Node.eventsOf, run_append, hstep before node hnode, ih _ hrest, List.append_assoc,
      List.singleton_append]

theorem run_element {r : Reader} {tag : Xml.Tag} {children : List Xml.Node}
    (hdone : r.isDone = false) (henter : r.scope.enter tag = .ok (r.scope.inside tag))
    {vocabulary : Vocabulary} {name : Bytes}
    (hname : Content.nameOf r.scope tag = (vocabulary, name)) :
    r.run (Xml.Node.element tag children).events =
      ({ r with scopes := r.scope.inside tag :: r.scopes }.start vocabulary name tag).run
        (Xml.Node.eventsOf children ++ [Xml.Event.close]) := by
  rw [Xml.Node.events, run, List.foldl_cons, step_start hdone henter]
  change nameOf (r.scope.inside tag) tag = (vocabulary, name) at hname
  rw [hname]
  rfl

end Reader

end Recrawl.Sitemap
