import Recrawl.Proofs.Sitemap.Document
import Recrawl.Proofs.Sitemap.Growth
import Recrawl.Proofs.Xml.Growth

/-!
Reading the beginning of a document. What a cut document yields is the beginning of what
any continuation of it yields, whether the cut is inside a tag, a reference, a literal
section or a field: an entry is told at its end tag and never later or earlier.
-/

namespace Recrawl

namespace Sitemap

/-- The reader after all events whose last byte is in the content. -/
def readerBefore (content : Bytes) : Reader :=
  ({} : Reader).run (({} : Xml.Scanner).run (Xml.dropMark content)).events.reverse

/-- The entries whose end tag is in the content. -/
def endedEntries (content : Bytes) : List Entry :=
  (readerBefore content).entries

/-- The end of the input completes no item and does not settle the kind. -/
theorem readXml_eq_readerBefore (content : Bytes) :
    (readXml content).items = (readerBefore content).items ∧
      (readXml content).kind = (readerBefore content).kind := by
  unfold readXml Xml.scan readerBefore
  generalize ({} : Xml.Scanner).run (Xml.dropMark content) = s
  simp only
  obtain ⟨hitems, hkind⟩ :=
    ((({} : Reader).run s.finish.events.reverse)).finish_eq s.finish.fault?
  rw [hitems, hkind]
  -- A cut inside text tells the text up to the cut; it may be in a field, but ends none.
  rcases s.events_finish with hevents | ⟨raw, hevents⟩
  · rw [hevents]
    exact ⟨rfl, rfl⟩
  · rw [hevents, List.reverse_cons, Reader.run_append]
    exact Reader.step_text _ raw

theorem entries_readXml (content : Bytes) :
    (readXml content).entries = endedEntries content := by
  unfold endedEntries Reader.entries
  rw [(readXml_eq_readerBefore content).1]

/-- A continuation of the content adds events behind those that were told. -/
theorem extends_readerBefore {content : Bytes} (h : StartsWithMarkup content) (more : Bytes) :
    Reader.Extends (readerBefore content) (readerBefore (content ++ more)) := by
  unfold readerBefore
  rw [h.dropMark_append, Xml.Scanner.run_append]
  generalize ({} : Xml.Scanner).run (Xml.dropMark content) = s
  obtain ⟨later, hlater⟩ := s.events_run more
  rw [← hlater, List.reverse_append, Reader.run_append]
  exact Reader.extends_run _ _

/-- A reader that has taken the root element is behind the prolog. -/
theorem place_readerBefore {content : Bytes} {kind : Kind}
    (h : (readerBefore content).kind = some kind) : (readerBefore content).place ≠ .prolog := by
  intro hprolog
  have hstart : Reader.Extends {} (readerBefore content) := Reader.extends_run {} _
  have hnone : (readerBefore content).kind = none := (hstart.prolog hprolog).2
  rw [h] at hnone
  cases hnone

theorem result_eq_ok_of_kind {r : Reader} {kind : Kind} (h : r.kind = some kind) :
    ∃ isPartial, r.result true = .ok ⟨kind, r.entries, isPartial⟩ := by
  unfold Reader.result
  rw [h]
  cases r.place with
  | failed fault => exact ⟨true, rfl⟩
  | prolog => exact ⟨false, rfl⟩
  | root => exact ⟨false, rfl⟩
  | skipped depth => exact ⟨false, rfl⟩
  | entry draft place => exact ⟨false, rfl⟩
  | finished => exact ⟨false, rfl⟩

theorem kind_of_result_eq_ok {r : Reader} {allowPartial : Bool} {sitemap : Sitemap}
    (h : r.result allowPartial = .ok sitemap) :
    r.kind = some sitemap.kind ∧ sitemap.entries = r.entries := by
  unfold Reader.result at h
  split at h
  · split at h
    · rename_i hkind hplace hallow
      cases h
      exact ⟨hkind, rfl⟩
    · cases h
  · cases h
  · rename_i hkind hplace
    cases h
    exact ⟨hkind, rfl⟩
  · cases h

/-- If the beginning of a document can be read, so can every continuation of it, as the same kind of
sitemap, with the same entries in front. Both have exactly the entries that end in what was read. -/
theorem read_append (url : String) (content more : Bytes) (contentType : Option String)
    (hmarkup : StartsWithMarkup content) (htype : IsNotPlain contentType) (sitemap : Sitemap)
    (hread : (read true url content contentType).value = .ok sitemap) :
    sitemap.entries = endedEntries content ∧
      ∃ longer, (read true url (content ++ more) contentType).value = .ok longer ∧
        longer.kind = sitemap.kind ∧ longer.entries = endedEntries (content ++ more) ∧
        sitemap.entries <+: longer.entries := by
  rw [value_read_of_startsWithMarkup true url hmarkup htype] at hread
  rw [value_read_of_startsWithMarkup true url (hmarkup.append more) htype]
  obtain ⟨hkind, hentries⟩ := kind_of_result_eq_ok hread
  have hextends := extends_readerBefore hmarkup more
  rw [(readXml_eq_readerBefore content).2] at hkind
  have hlonger : (readXml (content ++ more)).kind = some sitemap.kind := by
    rw [(readXml_eq_readerBefore (content ++ more)).2, hextends.kind (place_readerBefore hkind),
      hkind]
  obtain ⟨isPartial, hresult⟩ := result_eq_ok_of_kind hlonger
  rw [entries_readXml] at hentries hresult
  refine ⟨hentries, _, hresult, rfl, rfl, ?_⟩
  rw [hentries]
  exact Reader.entries_prefix_of_extends hextends

/-- A list of two pages up to the middle of the second address. -/
def cutList : Bytes :=
  Bytes.ofString "<urlset><url><loc>http://[::1]/</loc></url><url><loc>http://[::"

/-- The cut list yields the first page, and with its rest behind it the second one too. -/
theorem read_append_cutList :
    let rest := Bytes.ofString "2]/</loc></url></urlset>"
    ∃ cut whole, (read true "http://a.b/s.xml" cutList none).value = .ok cut ∧
      (read true "http://a.b/s.xml" (cutList ++ rest) none).value = .ok whole ∧
      cut.entries <+: whole.entries ∧ cut.entries.length = 1 ∧ whole.entries.length = 2 := by
  intro rest
  have hmarkup : StartsWithMarkup cutList :=
    ⟨[], [], cutList.tail, by decide +kernel, .inl rfl, by simp⟩
  have htype : IsNotPlain none := by simp [IsNotPlain]
  have hsome : (read true "http://a.b/s.xml" cutList none).value.toOption.isSome = true := by
    decide +kernel
  cases hcut : (read true "http://a.b/s.xml" cutList none).value with
  | error fault =>
    rw [hcut] at hsome
    cases hsome
  | ok cut =>
    obtain ⟨hentries, whole, hwhole, -, hlonger, hprefix⟩ :=
      read_append "http://a.b/s.xml" cutList rest none hmarkup htype cut hcut
    refine ⟨cut, whole, rfl, hwhole, hprefix, ?_, ?_⟩
    · rw [hentries]
      decide +kernel
    · rw [hlonger]
      decide +kernel

end Sitemap

end Recrawl
