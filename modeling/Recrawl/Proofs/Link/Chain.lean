import Recrawl.Proofs.Except
import Recrawl.Proofs.Link.Punycode
import Recrawl.Proofs.Url.Ascii

/-!
Chains of filters on targets in ASCII. There is no host to be written in another way, so that a chain
takes away the fragment at most, whatever the order of its filters.
-/

namespace Recrawl

namespace UrlFilter

open Text (IsAscii)
open Url (ofChars)

/-- The text in front of the first number sign. -/
def withoutFragment (target : List Char) : List Char := target.takeWhile (· != '#')

theorem withoutFragment_subset (target : List Char) : withoutFragment target ⊆ target :=
  (List.takeWhile_sublist _).subset

theorem withoutFragment_withoutFragment (target : List Char) :
    withoutFragment (withoutFragment target) = withoutFragment target := by
  induction target with
  | nil => rfl
  | cons c rest ih =>
    unfold withoutFragment at ih ⊢
    rw [List.takeWhile_cons]
    split
    · rename_i hc
      rw [List.takeWhile_cons, if_pos hc, ih]
    · rfl

variable {target result : List Char}

theorem not_rewrites_of_isAscii (h : IsAscii target) (written : WrittenHost) :
    ¬ Rewrites target written := by
  rintro ⟨hwritten, hunicode⟩
  have hall : (written.host.all fun c => decide (c.toNat < 0x80)) = true := by
    refine List.all_eq_true.mpr fun c hc => decide_eq_true (h c ?_)
    rw [eq_append_of_writtenHost? hwritten]
    exact List.mem_append_left _ (List.mem_append_right _ hc)
  rw [hall] at hunicode
  cases hunicode

theorem applyPunycode_of_isAscii (h : IsAscii target) {url : Url} (hurl : ofChars target = .ok url) :
    applyPunycode target = some target :=
  applyPunycode_of_not_rewrites hurl (not_rewrites_of_isAscii h)

/-- A target in ASCII is kept as it is, or dropped. -/
theorem eq_of_applyPunycode (h : IsAscii target) (hresult : applyPunycode target = some result) :
    result = target := by
  cases hurl : ofChars target with
  | error fault =>
    rw [(applyPunycode_eq_none_iff target).mpr (.inl ⟨fault, hurl⟩)] at hresult
    cases hresult
  | ok url =>
    rw [applyPunycode_of_isAscii h hurl] at hresult
    exact (Option.some.inj hresult).symm

/-- What a chain leaves of a target in ASCII, if it does not drop it. -/
def remainder (filters : List UrlFilter) (target : List Char) : List Char :=
  if stripFragment ∈ filters then withoutFragment target else target

theorem remainder_punycode_cons (filters : List UrlFilter) (target : List Char) :
    remainder (punycode :: filters) target = remainder filters target := by
  simp [remainder]

theorem remainder_stripFragment_cons (filters : List UrlFilter) (target : List Char) :
    remainder (stripFragment :: filters) target = withoutFragment target := by
  simp [remainder]

theorem remainder_withoutFragment (filters : List UrlFilter) (target : List Char) :
    remainder filters (withoutFragment target) = withoutFragment target := by
  unfold remainder
  split
  · exact withoutFragment_withoutFragment target
  · rfl

theorem remainder_remainder (filters : List UrlFilter) (target : List Char) :
    remainder filters (remainder filters target) = remainder filters target := by
  by_cases h : stripFragment ∈ filters
  · simp [remainder, h, withoutFragment_withoutFragment]
  · simp [remainder, h]

theorem applyAllChars_cons (filter : UrlFilter) (filters : List UrlFilter) (target : List Char) :
    applyAllChars (filter :: filters) target =
      (filter.applyChars target).bind (applyAllChars filters) := by
  cases h : filter.applyChars target <;> simp [applyAllChars, h]

/-- Whatever comes out of a chain, it is the target but for its fragment. -/
theorem eq_remainder_of_applyAllChars {filters : List UrlFilter} (h : IsAscii target)
    (hresult : applyAllChars filters target = some result) : result = remainder filters target := by
  induction filters generalizing target with
  | nil => exact (Option.some.inj hresult).symm
  | cons filter rest ih =>
    rw [applyAllChars_cons] at hresult
    obtain ⟨next, hnext, hrest⟩ := Option.bind_eq_some_iff.mp hresult
    cases filter with
    | punycode =>
      obtain rfl := eq_of_applyPunycode h hnext
      rw [remainder_punycode_cons]
      exact ih h hrest
    | stripFragment =>
      obtain rfl : withoutFragment target = next := Option.some.inj hnext
      rw [remainder_stripFragment_cons, ← remainder_withoutFragment rest]
      exact ih (h.of_subset (withoutFragment_subset target)) hrest

/-- The target is ASCII, and it is read as a URL with its fragment and without it. -/
structure IsSettled (target : List Char) : Prop where
  ascii : IsAscii target
  whole : ∃ url, ofChars target = .ok url
  cut : ∃ url, ofChars (withoutFragment target) = .ok url

namespace IsSettled

/-- Each filter of a chain leaves a target of this kind. -/
theorem withoutFragment (h : IsSettled target) : IsSettled (withoutFragment target) :=
  ⟨h.ascii.of_subset (withoutFragment_subset target), h.cut,
    (withoutFragment_withoutFragment target).symm ▸ h.cut⟩

theorem remainder (h : IsSettled target) (filters : List UrlFilter) :
    IsSettled (remainder filters target) := by
  unfold UrlFilter.remainder
  split
  · exact h.withoutFragment
  · exact h

theorem applyAllChars (h : IsSettled target) (filters : List UrlFilter) :
    applyAllChars filters target = some (UrlFilter.remainder filters target) := by
  induction filters generalizing target with
  | nil => rfl
  | cons filter rest ih =>
    rw [applyAllChars_cons]
    cases filter with
    | punycode =>
      obtain ⟨url, hurl⟩ := h.whole
      rw [applyChars, applyPunycode_of_isAscii h.ascii hurl, Option.bind_some,
        remainder_punycode_cons, ih h]
    | stripFragment =>
      change UrlFilter.applyAllChars rest (UrlFilter.withoutFragment target) = _
      rw [ih h.withoutFragment, remainder_withoutFragment, remainder_stripFragment_cons]

end IsSettled

theorem ofName?_name (filter : UrlFilter) : ofName? filter.name = some filter := by
  cases filter <;> decide

theorem name_of_ofName? {name : String} {filter : UrlFilter} (h : ofName? name = some filter) :
    filter.name = name := by
  simpa using List.find?_some h

theorem ofNames_cons_eq_ok {name : String} {rest : List String} {filters : List UrlFilter}
    (h : ofNames (name :: rest) = .ok filters) :
    ∃ first later, first.name = name ∧ ofNames rest = .ok later ∧ filters = first :: later := by
  rw [ofNames] at h
  split at h
  · cases h
  · rename_i first hfirst
    obtain ⟨later, hlater, rfl⟩ := map_eq_ok_iff.mp h
    exact ⟨first, later, name_of_ofName? hfirst, hlater, rfl⟩

/-- A filter is in the chain exactly if its name is in the list. -/
theorem mem_ofNames {names : List String} {filters : List UrlFilter} (h : ofNames names = .ok filters)
    (filter : UrlFilter) : filter ∈ filters ↔ filter.name ∈ names := by
  have hname : ∀ other : UrlFilter, filter = other ↔ filter.name = other.name := by
    intro other
    cases filter <;> cases other <;> decide
  induction names generalizing filters with
  | nil =>
    cases h
    simp
  | cons name rest ih =>
    obtain ⟨first, later, rfl, hlater, rfl⟩ := ofNames_cons_eq_ok h
    rw [List.mem_cons, List.mem_cons, hname]
    exact or_congr Iff.rfl (ih hlater)

/-- A list of names of filters is a chain. -/
theorem exists_ofNames {names : List String}
    (h : ∀ name ∈ names, ∃ filter : UrlFilter, filter.name = name) :
    ∃ filters, ofNames names = .ok filters := by
  induction names with
  | nil => exact ⟨[], rfl⟩
  | cons name rest ih =>
    obtain ⟨⟨first, rfl⟩, hrest⟩ := List.forall_mem_cons.mp h
    obtain ⟨later, hlater⟩ := ih hrest
    exact ⟨first :: later, by rw [ofNames, ofName?_name, hlater]; rfl⟩

end UrlFilter

/-- The text of the URL is read as a URL again, with its fragment and without it. -/
structure Url.IsReadAgain (url : Url) : Prop where
  whole : ∃ again, Url.ofChars url.render = .ok again
  cut : ∃ again, Url.ofChars (UrlFilter.withoutFragment url.render) = .ok again

namespace UrlFilter

variable {url : Url} {filters : List UrlFilter}

theorem isSettled_render (hread : url.IsRead) (hagain : url.IsReadAgain) :
    IsSettled url.render :=
  ⟨Url.isAscii_render hread, hagain.whole, hagain.cut⟩

/-- What a chain leaves of the text of a URL, if it does not drop it. -/
theorem eq_of_applyAll_toString {result : String} (hread : url.IsRead)
    (h : applyAll filters url.toString = some result) :
    result = String.ofList (remainder filters url.render) := by
  obtain ⟨chars, hchars, rfl⟩ := Option.map_eq_some_iff.mp h
  rw [Url.toString, String.toList_ofList] at hchars
  rw [eq_remainder_of_applyAllChars (Url.isAscii_render hread) hchars]

/-- A chain does not drop a target of this kind. -/
theorem IsSettled.applyAll {target : List Char} (h : IsSettled target) (filters : List UrlFilter) :
    applyAll filters (String.ofList target) = some (String.ofList (UrlFilter.remainder filters target)) := by
  rw [UrlFilter.applyAll, String.toList_ofList, h.applyAllChars filters]
  rfl

end UrlFilter

end Recrawl
