import Recrawl.Sitemap.Reader

/-!
The reader works from left to right. No event takes back an item, and the kind of the
sitemap is settled with its root element.
-/

namespace Recrawl.Sitemap.Reader

/-- What a reader has settled stays settled: the items so far, the kind once the root element is
taken, and that it is taken. -/
structure Extends (before after : Reader) : Prop where
  items : before.items <:+ after.items
  kind : before.place ≠ .prolog → after.kind = before.kind
  prolog : after.place = .prolog → before.place = .prolog ∧ after.kind = before.kind

namespace Extends

theorem refl (r : Reader) : Extends r r :=
  ⟨List.suffix_refl _, fun _ => rfl, fun h => ⟨h, rfl⟩⟩

theorem trans {a b c : Reader} (hab : Extends a b) (hbc : Extends b c) : Extends a c := by
  refine ⟨hab.items.trans hbc.items, ?_, ?_⟩
  · intro ha
    have hb : b.place ≠ .prolog := fun h => ha (hab.prolog h).1
    rw [hbc.kind hb, hab.kind ha]
  · intro hc
    obtain ⟨hb, hkind⟩ := hbc.prolog hc
    obtain ⟨ha, hkind'⟩ := hab.prolog hb
    exact ⟨ha, hkind.trans hkind'⟩

/-- Moving on to a place behind the prolog settles nothing new. -/
theorem move (r : Reader) {place : Place} (hplace : place ≠ .prolog) :
    Extends r { r with place } :=
  ⟨List.suffix_refl _, fun _ => rfl, fun h => absurd h hplace⟩

end Extends

theorem extends_stop (r : Reader) (fault : Fault) : Extends r (r.stop fault) :=
  Extends.move r (by simp)

theorem extends_enterRoot (r : Reader) (hplace : r.place = .prolog) (vocabulary : Vocabulary)
    (name : Bytes) {next : Place} (hnext : next ≠ .prolog) :
    Extends r (r.enterRoot vocabulary name next) := by
  unfold enterRoot
  split
  · exact ⟨List.suffix_refl _, fun h => absurd hplace h, fun h => absurd h hnext⟩
  · exact r.extends_stop _

theorem enterChild_ne_prolog (draft : Draft) (vocabulary : Vocabulary) (name : Bytes)
    (tag : Xml.Tag) : enterChild draft vocabulary name tag ≠ .prolog := by
  unfold enterChild
  cases vocabulary with
  | sitemap => simp only; split <;> simp
  | news => simp only; split <;> simp
  | links =>
    simp only
    split
    · split <;> simp
    · simp
  | other => simp

theorem extends_start (r : Reader) (vocabulary : Vocabulary) (name : Bytes) (tag : Xml.Tag) :
    Extends r (r.start vocabulary name tag) := by
  cases hplace : r.place with
  | prolog => simp only [start, hplace]; exact r.extends_enterRoot hplace vocabulary name (by simp)
  | root =>
    simp only [start, hplace]
    split <;> exact Extends.move r (by simp)
  | skipped depth => simp only [start, hplace]; exact Extends.move r (by simp)
  | entry draft place =>
    cases place with
    | children =>
      simp only [start, hplace]
      exact Extends.move r (enterChild_ne_prolog _ _ _ _)
    | skipped depth => simp only [start, hplace]; exact Extends.move r (by simp)
    | field f depth pieces => simp only [start, hplace]; exact Extends.move r (by simp)
    | news news place =>
      cases place <;> simp only [start, hplace] <;> exact Extends.move r (by simp)
  | finished => simp only [start, hplace]; exact Extends.refl r
  | failed fault => simp only [start, hplace]; exact Extends.refl r

theorem extends_selfClosing (r : Reader) (vocabulary : Vocabulary) (name : Bytes)
    (tag : Xml.Tag) : Extends r (r.selfClosing vocabulary name tag) := by
  unfold selfClosing
  split
  · rename_i hplace
    exact r.extends_enterRoot hplace vocabulary name (by simp)
  · split
    · split
      · exact Extends.move r (by simp)
      · exact r.extends_stop _
    · exact Extends.refl r
  · exact Extends.refl r

/-- An end tag adds an item if it is that of an entry, and otherwise only moves the reader on. -/
theorem extends_close (r : Reader) : Extends r r.close := by
  cases hplace : r.place with
  | prolog => simp only [close, hplace]; exact Extends.refl r
  | root => simp only [close, hplace]; exact Extends.move r (by simp)
  | skipped depth => cases depth <;> simp only [close, hplace] <;> exact Extends.move r (by simp)
  | entry draft place =>
    cases place with
    | children =>
      simp only [close, hplace]
      exact ⟨List.suffix_cons _ _, fun _ => rfl, fun h => by cases h⟩
    | skipped depth => cases depth <;> simp only [close, hplace] <;> exact Extends.move r (by simp)
    | field f depth pieces =>
      cases depth <;> simp only [close, hplace] <;> exact Extends.move r (by simp)
    | news news place =>
      cases place with
      | children => simp only [close, hplace]; exact Extends.move r (by simp)
      | skipped depth => cases depth <;> simp only [close, hplace] <;> exact Extends.move r (by simp)
      | field f depth pieces =>
        cases depth <;> simp only [close, hplace] <;> exact Extends.move r (by simp)
  | finished => simp only [close, hplace]; exact Extends.refl r
  | failed fault => simp only [close, hplace]; exact Extends.refl r

theorem extends_addText (r : Reader) (chars : List Char) : Extends r (r.addText chars) := by
  unfold addText
  split
  · exact Extends.move r (by simp)
  · exact Extends.move r (by simp)
  · exact Extends.refl r

/-- The declarations in force have no part in what is settled. -/
theorem Extends.of_scopes {r after : Reader} {scopes : List Xml.Scope}
    (h : Extends { r with scopes } after) : Extends r after :=
  ⟨h.items, h.kind, h.prolog⟩

theorem extends_step (r : Reader) (event : Xml.Event) : Extends r (r.step event) := by
  unfold step
  split
  · exact Extends.refl r
  · cases event with
    | start tag =>
      simp only
      split
      · exact r.extends_stop _
      · exact Extends.of_scopes (extends_start _ _ _ tag)
    | selfClosing tag =>
      simp only
      split
      · exact r.extends_stop _
      · exact r.extends_selfClosing _ _ tag
    | close => exact Extends.of_scopes (extends_close _)
    | text raw =>
      simp only
      split
      · split
        · exact r.extends_addText _
        · exact r.extends_stop _
      · exact Extends.refl r
    | literal raw => exact r.extends_addText _
    | skipped => exact Extends.refl r

theorem extends_run (r : Reader) (events : List Xml.Event) : Extends r (r.run events) := by
  induction events generalizing r with
  | nil => exact Extends.refl r
  | cons event rest ih => exact (r.extends_step event).trans (ih (r.step event))

/-- Text never completes an item and never settles the kind. -/
theorem step_text (r : Reader) (raw : Bytes) :
    (r.step (.text raw)).items = r.items ∧ (r.step (.text raw)).kind = r.kind := by
  unfold step
  split
  · exact ⟨rfl, rfl⟩
  · simp only
    split
    · split
      · unfold addText
        split <;> exact ⟨rfl, rfl⟩
      · exact ⟨rfl, rfl⟩
    · exact ⟨rfl, rfl⟩

theorem finish_eq (r : Reader) (fault : Option Xml.Fault) :
    (r.finish fault).items = r.items ∧ (r.finish fault).kind = r.kind := by
  unfold finish
  split
  · exact ⟨rfl, rfl⟩
  · split
    · exact ⟨rfl, rfl⟩
    · split <;> exact ⟨rfl, rfl⟩

theorem entries_prefix_of_extends {before after : Reader} (h : Extends before after) :
    before.entries <+: after.entries := by
  obtain ⟨later, hlater⟩ := h.items
  refine ⟨later.reverse.filterMap Item.entry?, ?_⟩
  unfold entries
  rw [← hlater, List.reverse_append, List.filterMap_append]

end Recrawl.Sitemap.Reader
