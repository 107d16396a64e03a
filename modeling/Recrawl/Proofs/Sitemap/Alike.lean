import Recrawl.Proofs.Sitemap.Frame
import Recrawl.Sitemap.Document

/-!
Readers that tell the same sitemap whatever follows. They may hold different items, as long as the
entries among them are the same, and different locations of an entry in progress, as long as neither
is a URL.
-/

namespace Recrawl.Sitemap

/-- The URL of an entry in progress. -/
def Draft.url? (draft : Draft) : Option Url :=
  draft.location.bind fun location => (Url.ofChars location).toOption

/-- An entry in progress that differs at most in its location, where neither location is a URL. -/
inductive Draft.Alike (draft : Draft) : Draft → Prop
  | relocate (location : Option (List Char))
    (h : { draft with location }.url? = draft.url?) : Draft.Alike draft { draft with location }

namespace Draft

theorem Alike.refl (draft : Draft) : draft.Alike draft :=
  .relocate draft.location rfl

theorem entry?_toItem (draft : Draft) :
    draft.toItem.entry? = draft.url?.map fun url =>
      ⟨url, draft.modified, draft.priority, draft.frequency, draft.news.reverse,
        draft.alternates.reverse⟩ := by
  unfold toItem url?
  cases draft.location with
  | none => rfl
  | some location =>
    cases h : Url.ofChars location with
    | error fault => simp [h, Item.entry?, Except.toOption]
    | ok url => simp [h, Item.entry?, Except.toOption]

variable {a b : Draft}

theorem Alike.entry?_eq (h : a.Alike b) : b.toItem.entry? = a.toItem.entry? := by
  cases h with
  | relocate location hurl => rw [entry?_toItem, entry?_toItem, hurl]

theorem Alike.set (h : a.Alike b) (field : Field) (text : List Char) :
    (a.set field text).Alike (b.set field text) := by
  cases h with
  | relocate location hurl =>
    cases field with
    | location => exact Alike.refl _
    | modified => exact .relocate location hurl
    | priority => exact .relocate location hurl
    | frequency => exact .relocate location hurl

theorem Alike.addNews (h : a.Alike b) (news : News) :
    { a with news := news :: a.news }.Alike { b with news := news :: b.news } := by
  cases h with
  | relocate location hurl => exact .relocate location hurl

/-- A link has the same fault for both, or adds the same alternate to both. -/
theorem Alike.addLink (h : a.Alike b) (tag : Xml.Tag) :
    (∃ fault, a.addLink tag = .error fault ∧ b.addLink tag = .error fault) ∨
      ∃ a' b', a.addLink tag = .ok a' ∧ b.addLink tag = .ok b' ∧ a'.Alike b' := by
  cases h with
  | relocate location hurl =>
    unfold Draft.addLink
    cases LinkAttributes.read {} tag.distinctAttributes with
    | error fault => exact .inl ⟨fault, rfl, rfl⟩
    | ok link =>
      refine .inr ?_
      cases hlink : link.alternate? with
      | none => exact ⟨a, { a with location }, by simp [hlink], by simp [hlink],
          .relocate location hurl⟩
      | some alternate =>
        exact ⟨{ a with alternates := alternate :: a.alternates },
          { a with location, alternates := alternate :: a.alternates }, by simp [hlink],
          by simp [hlink], .relocate location hurl⟩

end Draft

/-- The same place, with entries in progress that are alike. -/
inductive Place.Alike : Place → Place → Prop
  | prolog : Alike .prolog .prolog
  | root : Alike .root .root
  | skipped (depth : Nat) : Alike (.skipped depth) (.skipped depth)
  | entry {a b : Draft} (h : a.Alike b) (place : EntryPlace) : Alike (.entry a place) (.entry b place)
  | finished : Alike .finished .finished
  | failed (fault : Fault) : Alike (.failed fault) (.failed fault)

theorem Place.Alike.refl (place : Place) : place.Alike place := by
  cases place with
  | prolog => exact .prolog
  | root => exact .root
  | skipped depth => exact .skipped depth
  | entry draft place => exact .entry (Draft.Alike.refl draft) place
  | finished => exact .finished
  | failed fault => exact .failed fault

namespace Reader

/-- The readers are at like places and tell the same entries. -/
structure Alike (a b : Reader) : Prop where
  kind : a.kind = b.kind
  entries : a.entries = b.entries
  place : a.place.Alike b.place

/-- While readers take events, the same declarations have to be in force. -/
structure InStep (a b : Reader) : Prop extends Alike a b where
  scopes : a.isDone = false → a.scopes = b.scopes

variable {a b : Reader}

theorem Alike.refl (r : Reader) : r.Alike r :=
  ⟨rfl, rfl, Place.Alike.refl r.place⟩

theorem Alike.isDone_eq (h : a.Alike b) : a.isDone = b.isDone := by
  obtain ⟨placeA, kindA, scopesA, itemsA⟩ := a
  obtain ⟨placeB, kindB, scopesB, itemsB⟩ := b
  obtain ⟨-, -, hplace⟩ := h
  cases hplace <;> rfl

theorem Alike.inField_eq (h : a.Alike b) : a.inField = b.inField := by
  obtain ⟨placeA, kindA, scopesA, itemsA⟩ := a
  obtain ⟨placeB, kindB, scopesB, itemsB⟩ := b
  obtain ⟨-, -, hplace⟩ := h
  cases hplace with
  | entry h place =>
    cases place with
    | news news place => cases place <;> rfl
    | children | skipped depth | field f depth pieces => rfl
  | prolog | root | skipped depth | finished | failed fault => rfl

/-- Going on to like places. -/
theorem Alike.move (h : a.Alike b) {placeA placeB : Place} (hplace : placeA.Alike placeB) :
    { a with place := placeA }.Alike { b with place := placeB } :=
  ⟨h.kind, h.entries, hplace⟩

theorem Alike.stop (h : a.Alike b) (fault : Fault) : (a.stop fault).Alike (b.stop fault) :=
  h.move (.failed fault)

theorem Alike.rescope (h : a.Alike b) (scopesA scopesB : List Xml.Scope) :
    { a with scopes := scopesA }.Alike { b with scopes := scopesB } :=
  ⟨h.kind, h.entries, h.place⟩

theorem Alike.enterRoot (h : a.Alike b) (vocabulary : Vocabulary) (name : Bytes) {next : Place} :
    (a.enterRoot vocabulary name next).Alike (b.enterRoot vocabulary name next) := by
  unfold Reader.enterRoot
  split
  · exact ⟨rfl, h.entries, Place.Alike.refl next⟩
  · exact h.stop _

theorem enterChild_alike {a b : Draft} (h : a.Alike b) (vocabulary : Vocabulary) (name : Bytes)
    (tag : Xml.Tag) :
    (enterChild a vocabulary name tag).Alike (enterChild b vocabulary name tag) := by
  unfold enterChild
  cases vocabulary with
  | sitemap => simp only; split <;> exact .entry h _
  | news => simp only; split <;> exact .entry h _
  | links =>
    simp only
    split
    · obtain ⟨fault, ha, hb⟩ | ⟨a', b', ha, hb, hlink⟩ := h.addLink tag
      · rw [ha, hb]
        exact .failed _
      · rw [ha, hb]
        exact .entry hlink _
    · exact .entry h _
  | other => exact .entry h _

theorem Alike.start (h : a.Alike b) (vocabulary : Vocabulary) (name : Bytes) (tag : Xml.Tag) :
    (a.start vocabulary name tag).Alike (b.start vocabulary name tag) := by
  obtain ⟨placeA, kind, scopesA, itemsA⟩ := a
  obtain ⟨placeB, kindB, scopesB, itemsB⟩ := b
  obtain ⟨rfl, hentries, hplace⟩ := h
  cases hplace with
  | prolog =>
    have hprolog : Reader.Alike ⟨.prolog, kind, scopesA, itemsA⟩ ⟨.prolog, kind, scopesB, itemsB⟩ :=
      ⟨rfl, hentries, .prolog⟩
    exact hprolog.enterRoot vocabulary name
  | root =>
    simp only [Reader.start]
    split
    · exact ⟨rfl, hentries, .entry (Draft.Alike.refl _) _⟩
    · exact ⟨rfl, hentries, .skipped 0⟩
  | skipped depth => exact ⟨rfl, hentries, .skipped _⟩
  | entry h place =>
    cases place with
    | children => exact ⟨rfl, hentries, enterChild_alike h vocabulary name tag⟩
    | skipped depth => exact ⟨rfl, hentries, .entry h _⟩
    | field f depth pieces => exact ⟨rfl, hentries, .entry h _⟩
    | news news place => cases place <;> exact ⟨rfl, hentries, .entry h _⟩
  | finished => exact ⟨rfl, hentries, .finished⟩
  | failed fault => exact ⟨rfl, hentries, .failed fault⟩

theorem Alike.selfClosing (h : a.Alike b) (vocabulary : Vocabulary) (name : Bytes)
    (tag : Xml.Tag) : (a.selfClosing vocabulary name tag).Alike (b.selfClosing vocabulary name tag) := by
  obtain ⟨placeA, kind, scopesA, itemsA⟩ := a
  obtain ⟨placeB, kindB, scopesB, itemsB⟩ := b
  obtain ⟨rfl, hentries, hplace⟩ := h
  cases hplace with
  | prolog =>
    have hprolog : Reader.Alike ⟨.prolog, kind, scopesA, itemsA⟩ ⟨.prolog, kind, scopesB, itemsB⟩ :=
      ⟨rfl, hentries, .prolog⟩
    exact hprolog.enterRoot vocabulary name
  | entry h place =>
    cases place with
    | children =>
      simp only [Reader.selfClosing]
      split
      · obtain ⟨fault, ha, hb⟩ | ⟨a', b', ha, hb, hlink⟩ := h.addLink tag
        · rw [ha, hb]
          exact ⟨rfl, hentries, .failed _⟩
        · rw [ha, hb]
          exact ⟨rfl, hentries, .entry hlink _⟩
      · exact ⟨rfl, hentries, .entry h _⟩
    | skipped depth | field f depth pieces | news news place => exact ⟨rfl, hentries, .entry h _⟩
  | root => exact ⟨rfl, hentries, .root⟩
  | skipped depth => exact ⟨rfl, hentries, .skipped depth⟩
  | finished => exact ⟨rfl, hentries, .finished⟩
  | failed fault => exact ⟨rfl, hentries, .failed fault⟩

theorem entries_cons (place : Place) (kind : Option Kind) (scopes : List Xml.Scope) (item : Item)
    (items : List Item) :
    entries ⟨place, kind, scopes, item :: items⟩ =
      entries ⟨place, kind, scopes, items⟩ ++ item.entry?.toList := by
  unfold entries
  rw [List.reverse_cons, List.filterMap_append]
  cases h : item.entry? <;> simp [h]

/-- Entries in progress that are alike end as the same entry, or as none. -/
theorem Alike.close (h : a.Alike b) : a.close.Alike b.close := by
  obtain ⟨placeA, kind, scopesA, itemsA⟩ := a
  obtain ⟨placeB, kindB, scopesB, itemsB⟩ := b
  obtain ⟨rfl, hentries, hplace⟩ := h
  cases hplace with
  | root => exact ⟨rfl, hentries, .finished⟩
  | skipped depth =>
    cases depth with
    | zero => exact ⟨rfl, hentries, .root⟩
    | succ depth => exact ⟨rfl, hentries, .skipped depth⟩
  | entry h place =>
    cases place with
    | children =>
      refine ⟨rfl, ?_, .root⟩
      simp only [Reader.close, entries_cons, h.entry?_eq]
      exact congrArg (· ++ _) hentries
    | skipped depth => cases depth <;> exact ⟨rfl, hentries, .entry h _⟩
    | field f depth pieces =>
      cases depth with
      | zero => exact ⟨rfl, hentries, .entry (h.set f pieces.text) _⟩
      | succ depth => exact ⟨rfl, hentries, .entry h _⟩
    | news news place =>
      cases place with
      | children => exact ⟨rfl, hentries, .entry (h.addNews news) _⟩
      | skipped depth => cases depth <;> exact ⟨rfl, hentries, .entry h _⟩
      | field f depth pieces => cases depth <;> exact ⟨rfl, hentries, .entry h _⟩
  | prolog => exact ⟨rfl, hentries, .prolog⟩
  | finished => exact ⟨rfl, hentries, .finished⟩
  | failed fault => exact ⟨rfl, hentries, .failed fault⟩

theorem Alike.addText (h : a.Alike b) (chars : List Char) :
    (a.addText chars).Alike (b.addText chars) := by
  cases hfield : a.inField with
  | false =>
    rw [addText_of_not_inField hfield, addText_of_not_inField (h.inField_eq ▸ hfield)]
    exact h
  | true =>
    obtain ⟨placeA, kind, scopesA, itemsA⟩ := a
    obtain ⟨placeB, kindB, scopesB, itemsB⟩ := b
    obtain ⟨rfl, hentries, hplace⟩ := h
    cases hplace with
    | entry h place =>
      cases place with
      | field f depth pieces => exact ⟨rfl, hentries, .entry h _⟩
      | news news place =>
        cases place with
        | field f depth pieces => exact ⟨rfl, hentries, .entry h _⟩
        | children | skipped depth => cases hfield
      | children | skipped depth => cases hfield
    | prolog | root | skipped depth | finished | failed fault => cases hfield

theorem scopes_start (r : Reader) (vocabulary : Vocabulary) (name : Bytes) (tag : Xml.Tag) :
    (r.start vocabulary name tag).scopes = r.scopes := by
  unfold start
  split <;> try rfl
  · unfold enterRoot
    split <;> rfl
  · split <;> rfl

theorem scopes_selfClosing (r : Reader) (vocabulary : Vocabulary) (name : Bytes) (tag : Xml.Tag) :
    (r.selfClosing vocabulary name tag).scopes = r.scopes := by
  unfold selfClosing
  split
  · unfold enterRoot
    split <;> rfl
  · split
    · split <;> rfl
    · rfl
  · rfl

theorem scopes_close (r : Reader) : r.close.scopes = r.scopes := by
  unfold close
  split <;> rfl

theorem scopes_addText (r : Reader) (chars : List Char) : (r.addText chars).scopes = r.scopes := by
  unfold addText
  split <;> rfl

/-- Readers in step stay so with every event. -/
theorem InStep.step (h : a.InStep b) (event : Xml.Event) : (a.step event).InStep (b.step event) := by
  cases hdone : a.isDone with
  | true =>
    have hdone' : b.isDone = true := h.isDone_eq ▸ hdone
    simp only [Reader.step, hdone, hdone', if_true]
    exact h
  | false =>
    have hdone' : b.isDone = false := h.isDone_eq ▸ hdone
    have hscopes := h.scopes hdone
    have hscope : a.scope = b.scope := by simp only [Reader.scope, hscopes]
    simp only [Reader.step, hdone, hdone', Bool.false_eq_true, if_false]
    cases event with
    | start tag =>
      simp only [hscope]
      split
      · exact ⟨h.toAlike.stop _, fun _ => hscopes⟩
      · refine ⟨(h.toAlike.rescope _ _).start _ _ tag, fun _ => ?_⟩
        rw [scopes_start, scopes_start, hscopes]
    | selfClosing tag =>
      simp only [hscope]
      split
      · exact ⟨h.toAlike.stop _, fun _ => hscopes⟩
      · refine ⟨h.toAlike.selfClosing _ _ tag, fun _ => ?_⟩
        rw [scopes_selfClosing, scopes_selfClosing, hscopes]
    | close =>
      refine ⟨(h.toAlike.rescope _ _).close, fun _ => ?_⟩
      rw [scopes_close, scopes_close, hscopes]
    | text raw =>
      simp only [h.inField_eq]
      split
      · split
        · refine ⟨h.toAlike.addText _, fun _ => ?_⟩
          rw [scopes_addText, scopes_addText, hscopes]
        · exact ⟨h.toAlike.stop _, fun _ => hscopes⟩
      · exact h
    | literal raw =>
      refine ⟨h.toAlike.addText _, fun _ => ?_⟩
      rw [scopes_addText, scopes_addText, hscopes]
    | skipped => exact h

theorem InStep.run (h : a.InStep b) (events : List Xml.Event) :
    (a.run events).InStep (b.run events) := by
  induction events generalizing a b with
  | nil => exact h
  | cons event rest ih => exact ih (h.step event)

theorem Alike.finish (h : a.Alike b) (fault : Option Xml.Fault) :
    (a.finish fault).Alike (b.finish fault) := by
  obtain ⟨placeA, kind, scopesA, itemsA⟩ := a
  obtain ⟨placeB, kindB, scopesB, itemsB⟩ := b
  have hdone := h.isDone_eq
  obtain ⟨rfl, hentries, hplace⟩ := h
  cases hplace with
  | finished => exact ⟨rfl, hentries, .finished⟩
  | failed fault => exact ⟨rfl, hentries, .failed fault⟩
  | prolog | root | skipped depth | entry h place =>
    cases fault <;> exact ⟨rfl, hentries, .failed _⟩

theorem Alike.result_eq (h : a.Alike b) (allowPartial : Bool) :
    a.result allowPartial = b.result allowPartial := by
  obtain ⟨placeA, kind, scopesA, itemsA⟩ := a
  obtain ⟨placeB, kindB, scopesB, itemsB⟩ := b
  obtain ⟨rfl, hentries, hplace⟩ := h
  unfold Reader.result
  rw [hentries]
  cases hplace <;> cases kind <;> rfl

/-- Readers in step tell the same sitemap, whatever follows. -/
theorem InStep.result_eq (h : a.InStep b) (events : List Xml.Event) (fault : Option Xml.Fault)
    (allowPartial : Bool) :
    ((a.run events).finish fault).result allowPartial =
      ((b.run events).finish fault).result allowPartial :=
  ((h.run events).toAlike.finish fault).result_eq allowPartial

end Reader

end Recrawl.Sitemap
