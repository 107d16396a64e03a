import Recrawl.Proofs.Filter.Chain

/-!
What a chain of filters makes of one document with two contents. The filters look at the
content only to sign it, so that nothing but the signature tells the two runs apart, and it
stands only where the chain writes or copies it.
-/

namespace Recrawl

namespace Metadata

/-- The same keys in the same order with the same values, but that at the marked keys one may hold
the text `first` alone where the other holds the text `second` alone. -/
def AgreesUpTo (marked : List String) (first second : String) (m m' : Metadata) : Prop :=
  m.keys = m'.keys ∧ ∀ key, m.values key = m'.values key ∨
    key ∈ marked ∧ m.values key = [first] ∧ m'.values key = [second]

namespace AgreesUpTo

variable {marked : List String} {first second : String} {m m' : Metadata}

theorem refl (marked : List String) (first second : String) (m : Metadata) :
    AgreesUpTo marked first second m m :=
  ⟨rfl, fun _ => .inl rfl⟩

theorem set (h : AgreesUpTo marked first second m m') (key value : String) :
    AgreesUpTo marked first second (m.set key value) (m'.set key value) := by
  refine ⟨by rw [keys_set, keys_set, h.1], fun other => ?_⟩
  by_cases hother : other = key
  · left
    simp [hother]
  · simpa [hother] using h.2 other

theorem erase (h : AgreesUpTo marked first second m m') (key : String) :
    AgreesUpTo marked first second (m.erase key) (m'.erase key) := by
  refine ⟨by rw [keys_erase, keys_erase, h.1], fun other => ?_⟩
  by_cases hother : other = key
  · left
    simp [hother]
  · simpa [hother] using h.2 other

/-- Writing the two texts marks the key. -/
theorem set_marked (h : AgreesUpTo marked first second m m') (key : String) :
    AgreesUpTo (key :: marked) first second (m.set key first) (m'.set key second) := by
  refine ⟨by rw [keys_set, keys_set, h.1], fun other => ?_⟩
  by_cases hother : other = key
  · right
    simp [hother]
  · simpa [hother] using h.2 other

theorem first?_cases (h : AgreesUpTo marked first second m m') (key : String) :
    m.first? key = m'.first? key ∨
      key ∈ marked ∧ m.first? key = some first ∧ m'.first? key = some second := by
  obtain hsame | ⟨hmem, hfirst, hsecond⟩ := h.2 key
  · exact .inl (first?_congr hsame)
  · exact .inr ⟨hmem, first?_of_values hfirst, first?_of_values hsecond⟩

end AgreesUpTo

end Metadata

namespace FilterSettings

/-- The keys that may hold a signature of the content behind the filters with these names, if the
marked ones may in front of them. A copy is one of the content only where it was signed before. -/
def signedKeysFrom (s : FilterSettings) : List String → List String → List String
  | marked, [] => marked
  | marked, name :: rest =>
    if name == "signature_copy" then
      s.signedKeysFrom (if s.signatureKey ∈ marked then s.copyKey :: marked else marked) rest
    else s.signedKeysFrom (s.signatureKey :: marked) rest

/-- The keys that may hold a signature of the content behind all filters. -/
def signedKeys (s : FilterSettings) : List String :=
  s.signedKeysFrom [] s.names

/-- The default filters copy before they sign. -/
example : ({} : FilterSettings).signedKeys = [Key.signature] := by decide

end FilterSettings

namespace ParseFilter

open Digest.Blake3 (digest)

variable (url : String) (one other : Bytes) {m m' : Metadata} {marked : List String}

theorem signatureCopy_agreesUpTo {first second : String}
    (h : m.AgreesUpTo marked first second m') (key copyKey : String) (links : List Link) :
    ∃ n n', (signatureCopy key copyKey).run url one ⟨m, links⟩ = (⟨n, links⟩, none) ∧
      (signatureCopy key copyKey).run url other ⟨m', links⟩ = (⟨n', links⟩, none) ∧
      n.AgreesUpTo (if key ∈ marked then copyKey :: marked else marked) first second n' := by
  have hgrown {n n' : Metadata} (hn : n.AgreesUpTo marked first second n') :
      n.AgreesUpTo (if key ∈ marked then copyKey :: marked else marked) first second n' := by
    refine ⟨hn.1, fun k => (hn.2 k).imp_right fun ⟨hmem, hvalues⟩ => ⟨?_, hvalues⟩⟩
    split
    · exact List.mem_cons_of_mem _ hmem
    · exact hmem
  obtain hsame | ⟨hmem, hfirst, hsecond⟩ := h.first?_cases key
  · cases hvalue : m'.first? key with
    | none =>
      rw [hvalue] at hsame
      exact ⟨m, m', by simp [signatureCopy, hsame], by simp [signatureCopy, hvalue], hgrown h⟩
    | some value =>
      rw [hvalue] at hsame
      exact ⟨m.set copyKey value, m'.set copyKey value, by simp [signatureCopy, hsame],
        by simp [signatureCopy, hvalue], hgrown (h.set copyKey value)⟩
  · refine ⟨m.set copyKey first, m'.set copyKey second, by simp [signatureCopy, hfirst],
      by simp [signatureCopy, hsecond], ?_⟩
    rw [if_pos hmem]
    exact h.set_marked copyKey

/-- The filters of some settings run to their end on two contents of a document, keep its links, and
leave metadata that differs in signatures alone. -/
theorem runAll_agreesUpTo {settings : FilterSettings} {names : List String}
    {filters : List ParseFilter} (hfilters : ofNames settings names = .ok filters)
    (h : m.AgreesUpTo marked (digest (signedInput url one)) (digest (signedInput url other)) m')
    (links : List Link) :
    ∃ n n', runAll url one filters ⟨m, links⟩ = (⟨n, links⟩, none) ∧
      runAll url other filters ⟨m', links⟩ = (⟨n', links⟩, none) ∧
      n.AgreesUpTo (settings.signedKeysFrom marked names) (digest (signedInput url one))
        (digest (signedInput url other)) n' := by
  induction names generalizing filters m m' marked with
  | nil =>
    cases hfilters
    exact ⟨m, m', rfl, rfl, h⟩
  | cons name rest ih =>
    obtain ⟨filter, later, hname, hrest, rfl⟩ := exists_of_ofNames_cons hfilters
    obtain ⟨hcopy, rfl⟩ | ⟨hsign, rfl⟩ := ofName?_cases hname
    · obtain ⟨n, n', hone, hother, hn⟩ := signatureCopy_agreesUpTo url one other h
        settings.signatureKey settings.copyKey links
      obtain ⟨last, last', hlast, hlast', hagree⟩ := ih hrest hn
      refine ⟨last, last', ?_, ?_, ?_⟩
      · rw [runAll, hone]
        exact hlast
      · rw [runAll, hother]
        exact hlast'
      · rw [FilterSettings.signedKeysFrom, if_pos hcopy]
        exact hagree
    · obtain ⟨last, last', hlast, hlast', hagree⟩ :=
        ih hrest (h.set_marked settings.signatureKey)
      refine ⟨last, last', hlast, hlast', ?_⟩
      rw [FilterSettings.signedKeysFrom, hsign]
      exact hagree

end ParseFilter

end Recrawl
