import Recrawl.Proofs.Sitemap.Document
import Recrawl.Proofs.Url.Ascii

/-!
Where the addresses in a sitemap come from. Each location of an entry, and each of its alternates, is a
URL that was read from some text; the reader makes up none.
-/

namespace Recrawl

namespace Sitemap

/-- The addresses that an entry holds. -/
def Entry.addresses (entry : Entry) : List Url :=
  entry.location :: entry.alternates.map (·.target)

theorem Entry.location_mem_addresses (entry : Entry) : entry.location ∈ entry.addresses :=
  List.mem_cons_self

theorem Entry.target_mem_addresses {entry : Entry} {alternate : Alternate}
    (h : alternate ∈ entry.alternates) : alternate.target ∈ entry.addresses :=
  List.mem_cons_of_mem _ (List.mem_map_of_mem h)

/-- All alternates so far were read. -/
def Draft.IsRead (draft : Draft) : Prop :=
  ∀ alternate ∈ draft.alternates, alternate.target.IsRead

namespace Draft.IsRead

variable {draft : Draft}

theorem empty : Draft.IsRead {} := fun _ h => absurd h List.not_mem_nil

theorem set (h : draft.IsRead) (field : Field) (text : List Char) : (draft.set field text).IsRead := by
  cases field <;> exact h

/-- The alternate of a tag is read from the value of an attribute. -/
theorem addLink (h : draft.IsRead) {tag : Xml.Tag} {after : Draft}
    (hafter : draft.addLink tag = .ok after) : after.IsRead := by
  unfold Draft.addLink at hafter
  split at hafter
  · cases hafter
  · rename_i link _
    split at hafter
    · rename_i alternate halternate
      cases hafter
      refine List.forall_mem_cons.mpr ⟨?_, h⟩
      unfold LinkAttributes.alternate? at halternate
      split at halternate
      · split at halternate
        · cases halternate
        · split at halternate
          · rename_i target _ url hurl
            cases halternate
            exact ⟨_, hurl⟩
          · cases halternate
      · cases halternate
    · cases hafter
      exact h

/-- An entry takes its location from a text that is read, and its alternates from the draft. -/
theorem toItem (h : draft.IsRead) {entry : Entry} (hentry : draft.toItem = .entry entry) :
    ∀ url ∈ entry.addresses, url.IsRead := by
  unfold Draft.toItem at hentry
  split at hentry
  · cases hentry
  · split at hentry
    · cases hentry
    · rename_i hurl
      cases hentry
      refine List.forall_mem_cons.mpr ⟨⟨_, hurl⟩, fun url hmem => ?_⟩
      obtain ⟨alternate, halternate, rfl⟩ := List.mem_map.mp hmem
      exact h alternate (List.mem_reverse.mp halternate)

end Draft.IsRead

/-- The entry that is being read, if any, has only alternates that were read. -/
def Place.IsRead : Place → Prop
  | .entry draft _ => draft.IsRead
  | _ => True

namespace Reader

/-- All addresses that the reader holds were read. -/
structure HoldsRead (r : Reader) : Prop where
  place : r.place.IsRead
  items : ∀ entry, .entry entry ∈ r.items → ∀ url ∈ entry.addresses, url.IsRead

namespace HoldsRead

variable {r : Reader}

theorem move (h : r.HoldsRead) {place : Place} (hplace : place.IsRead) :
    HoldsRead { r with place } := ⟨hplace, h.items⟩

theorem scopes (h : r.HoldsRead) (scopes : List Xml.Scope) : HoldsRead { r with scopes } :=
  ⟨h.place, h.items⟩

theorem stop (h : r.HoldsRead) (fault : Fault) : (r.stop fault).HoldsRead := h.move trivial

theorem enterRoot (h : r.HoldsRead) (vocabulary : Vocabulary) (name : Bytes) {next : Place}
    (hnext : next.IsRead) : (r.enterRoot vocabulary name next).HoldsRead := by
  unfold Reader.enterRoot
  split
  · exact ⟨hnext, h.items⟩
  · exact h.stop _

theorem isRead_enterChild {draft : Draft} (h : draft.IsRead) (vocabulary : Vocabulary) (name : Bytes)
    (tag : Xml.Tag) : (enterChild draft vocabulary name tag).IsRead := by
  unfold enterChild
  cases vocabulary with
  | sitemap => simp only; split <;> exact h
  | news => simp only; split <;> exact h
  | links =>
    simp only
    split
    · split
      · rename_i hlink
        exact h.addLink hlink
      · trivial
    · exact h
  | other => exact h

theorem start (h : r.HoldsRead) (vocabulary : Vocabulary) (name : Bytes) (tag : Xml.Tag) :
    (r.start vocabulary name tag).HoldsRead := by
  have hread := h.place
  cases hplace : r.place with
  | prolog => simp only [Reader.start, hplace]; exact h.enterRoot vocabulary name trivial
  | root =>
    simp only [Reader.start, hplace]
    split
    · exact h.move Draft.IsRead.empty
    · exact h.move trivial
  | skipped depth => simp only [Reader.start, hplace]; exact h.move trivial
  | entry draft place =>
    rw [hplace] at hread
    cases place with
    | children =>
      simp only [Reader.start, hplace]
      exact h.move (isRead_enterChild hread vocabulary name tag)
    | skipped depth => simp only [Reader.start, hplace]; exact h.move hread
    | field f depth pieces => simp only [Reader.start, hplace]; exact h.move hread
    | news news place => cases place <;> simp only [Reader.start, hplace] <;> exact h.move hread
  | finished => simpa only [Reader.start, hplace] using h
  | failed fault => simpa only [Reader.start, hplace] using h

theorem selfClosing (h : r.HoldsRead) (vocabulary : Vocabulary) (name : Bytes) (tag : Xml.Tag) :
    (r.selfClosing vocabulary name tag).HoldsRead := by
  unfold Reader.selfClosing
  split
  · exact h.enterRoot vocabulary name trivial
  · rename_i draft hplace
    have hread := h.place
    rw [hplace] at hread
    split
    · split
      · rename_i hlink
        exact h.move (Draft.IsRead.addLink hread hlink)
      · exact h.stop _
    · exact h
  · exact h

/-- An end tag completes the entry that is being read, or leaves its alternates as they are. -/
theorem close (h : r.HoldsRead) : r.close.HoldsRead := by
  have hread := h.place
  cases hplace : r.place with
  | prolog => simpa only [Reader.close, hplace] using h
  | root => simp only [Reader.close, hplace]; exact h.move trivial
  | skipped depth => cases depth <;> simp only [Reader.close, hplace] <;> exact h.move trivial
  | entry draft place =>
    rw [hplace] at hread
    cases place with
    | children =>
      simp only [Reader.close, hplace]
      refine ⟨trivial, fun entry hentry => ?_⟩
      rcases List.mem_cons.mp hentry with hnew | hold
      · exact Draft.IsRead.toItem hread hnew.symm
      · exact h.items entry hold
    | skipped depth => cases depth <;> simp only [Reader.close, hplace] <;> exact h.move hread
    | field f depth pieces =>
      cases depth with
      | zero => simp only [Reader.close, hplace]; exact h.move (Draft.IsRead.set hread _ _)
      | succ depth => simp only [Reader.close, hplace]; exact h.move hread
    | news news place =>
      cases place with
      | children => simp only [Reader.close, hplace]; exact h.move hread
      | skipped depth => cases depth <;> simp only [Reader.close, hplace] <;> exact h.move hread
      | field f depth pieces =>
        cases depth <;> simp only [Reader.close, hplace] <;> exact h.move hread
  | finished => simpa only [Reader.close, hplace] using h
  | failed fault => simpa only [Reader.close, hplace] using h

theorem addText (h : r.HoldsRead) (chars : List Char) : (r.addText chars).HoldsRead := by
  have hread := h.place
  unfold Reader.addText
  split
  · rename_i hplace
    rw [hplace] at hread
    exact h.move hread
  · rename_i hplace
    rw [hplace] at hread
    exact h.move hread
  · exact h

theorem step (h : r.HoldsRead) (event : Xml.Event) : (r.step event).HoldsRead := by
  unfold Reader.step
  split
  · exact h
  · cases event with
    | start tag =>
      simp only
      split
      · exact h.stop _
      · exact (h.scopes _).start _ _ tag
    | selfClosing tag =>
      simp only
      split
      · exact h.stop _
      · exact h.selfClosing _ _ tag
    | close => exact (h.scopes _).close
    | text raw =>
      simp only
      split
      · split
        · exact h.addText _
        · exact h.stop _
      · exact h
    | literal raw => exact h.addText _
    | skipped => exact h

theorem run (h : r.HoldsRead) (events : List Xml.Event) : (r.run events).HoldsRead := by
  induction events generalizing r with
  | nil => exact h
  | cons event rest ih => exact ih (h.step event)

theorem finish (h : r.HoldsRead) (fault : Option Xml.Fault) : (r.finish fault).HoldsRead := by
  unfold Reader.finish
  split
  · exact h
  · split
    · exact h.stop _
    · split <;> exact h.stop _

theorem result (h : r.HoldsRead) {allowPartial : Bool} {sitemap : Sitemap}
    (hresult : r.result allowPartial = .ok sitemap) :
    ∀ entry ∈ sitemap.entries, ∀ url ∈ entry.addresses, url.IsRead := by
  intro entry hentry
  have hmem : entry ∈ r.entries := by
    unfold Reader.result at hresult
    split at hresult
    · split at hresult <;> cases hresult
      exact hentry
    · cases hresult
    · cases hresult
      exact hentry
    · cases hresult
  obtain ⟨item, hitem, hsome⟩ := List.mem_filterMap.mp hmem
  cases item with
  | entry found =>
    cases hsome
    exact h.items entry (List.mem_reverse.mp hitem)
  | unnamed => cases hsome
  | invalid location fault => cases hsome

end HoldsRead

end Reader

theorem holdsRead_readXml (content : Bytes) : (readXml content).HoldsRead := by
  have hstart : Reader.HoldsRead {} := ⟨trivial, fun _ h => absurd h List.not_mem_nil⟩
  exact (hstart.run _).finish _

theorem isRead_of_lineEntry? {line : List Char} {entry : Entry} (h : lineEntry? line = some entry) :
    ∀ url ∈ entry.addresses, url.IsRead := by
  unfold lineEntry? at h
  split at h
  · rename_i url hurl
    split at h
    · cases h
      exact List.forall_mem_singleton.mpr ⟨line, hurl⟩
    · cases h
  · cases h

/-- Whatever a sitemap is read from, the addresses in it were read. -/
theorem isRead_of_read {allowPartial : Bool} {url : String} {content : Bytes}
    {contentType : Option String} {sitemap : Sitemap}
    (h : (read allowPartial url content contentType).value = .ok sitemap) :
    ∀ entry ∈ sitemap.entries, ∀ url ∈ entry.addresses, url.IsRead := by
  unfold read at h
  split at h
  · cases h
  · rename_i decoded _
    split at h
    · cases h
    · simp only at h
      split at h
      · rw [Logged.value_map, value_readPlain] at h
        cases h
        intro entry hentry
        obtain ⟨line, -, hline⟩ := List.mem_filterMap.mp hentry
        exact isRead_of_lineEntry? hline
      · rw [value_readDocument] at h
        exact (holdsRead_readXml decoded).result h

end Sitemap

end Recrawl
