import Recrawl.Filter.Chain

/-!
The chain of filters that the settings name. Each of its filters runs to its end, keeps
the links as they are and writes no key but the two of the settings, and so does the chain.
-/

namespace Recrawl

namespace ParseFilter

/-- The filter never fails, keeps all links, and changes the values of no other key. -/
def WritesOnly (keys : List String) (filter : ParseFilter) : Prop :=
  ∀ url content parsed, ∃ metadata,
    filter.run url content parsed = (⟨metadata, parsed.links⟩, none) ∧
      ∀ key ∉ keys, metadata.values key = parsed.metadata.values key

theorem writesOnly_signatureCopy {key copyKey : String} {keys : List String}
    (h : copyKey ∈ keys) : (signatureCopy key copyKey).WritesOnly keys := by
  intro url content parsed
  cases hfirst : parsed.metadata.first? key with
  | none => exact ⟨parsed.metadata, by simp [signatureCopy, hfirst], fun _ _ => rfl⟩
  | some signature =>
    refine ⟨parsed.metadata.set copyKey signature, by simp [signatureCopy, hfirst], ?_⟩
    intro other hother
    have hne : other ≠ copyKey := fun e => hother (e ▸ h)
    simp [hne]

theorem writesOnly_contentSignature {key : String} {keys : List String} (h : key ∈ keys) :
    (contentSignature key).WritesOnly keys := by
  intro url content parsed
  refine ⟨_, rfl, ?_⟩
  intro other hother
  have hne : other ≠ key := fun e => hother (e ▸ h)
  simp [hne]

/-- There are two filters to be named. -/
theorem ofName?_cases {settings : FilterSettings} {name : String} {filter : ParseFilter}
    (h : ofName? settings name = some filter) :
    (name == "signature_copy") = true ∧
        filter = signatureCopy settings.signatureKey settings.copyKey ∨
      (name == "signature_copy") = false ∧ filter = contentSignature settings.signatureKey := by
  unfold ofName? at h
  split at h
  · rename_i hname
    cases h
    exact .inl ⟨hname, rfl⟩
  · rename_i hname
    split at h
    · cases h
      exact .inr ⟨Bool.not_eq_true _ ▸ hname, rfl⟩
    · cases h

theorem exists_of_ofNames_cons {settings : FilterSettings} {name : String} {rest : List String}
    {filters : List ParseFilter} (h : ofNames settings (name :: rest) = .ok filters) :
    ∃ first later, ofName? settings name = some first ∧ ofNames settings rest = .ok later ∧
      filters = first :: later := by
  cases hname : ofName? settings name with
  | none =>
    rw [ofNames, hname] at h
    cases h
  | some first =>
    cases hrest : ofNames settings rest with
    | error unknown =>
      rw [ofNames, hname, hrest] at h
      cases h
    | ok later =>
      rw [ofNames, hname, hrest] at h
      cases h
      exact ⟨first, later, rfl, rfl, rfl⟩

theorem writesOnly_of_ofName? {settings : FilterSettings} {name : String} {filter : ParseFilter}
    (h : ofName? settings name = some filter) :
    filter.WritesOnly [settings.signatureKey, settings.copyKey] := by
  obtain ⟨-, rfl⟩ | ⟨-, rfl⟩ := ofName?_cases h
  · exact writesOnly_signatureCopy (by simp)
  · exact writesOnly_contentSignature (by simp)

theorem writesOnly_of_ofNames {settings : FilterSettings} {names : List String}
    {filters : List ParseFilter} (h : ofNames settings names = .ok filters) :
    ∀ filter ∈ filters, filter.WritesOnly [settings.signatureKey, settings.copyKey] := by
  induction names generalizing filters with
  | nil =>
    cases h
    simp
  | cons name rest ih =>
    obtain ⟨first, later, hname, hrest, rfl⟩ := exists_of_ofNames_cons h
    intro filter hmem
    rcases List.mem_cons.mp hmem with rfl | hlater
    · exact writesOnly_of_ofName? hname
    · exact ih hrest filter hlater

/-- What holds of each filter holds of their chain. -/
theorem runAll_of_writesOnly {keys : List String} {filters : List ParseFilter}
    (h : ∀ filter ∈ filters, filter.WritesOnly keys) (url : String) (content : Bytes)
    (parsed : Parsed) :
    ∃ metadata, runAll url content filters parsed = (⟨metadata, parsed.links⟩, none) ∧
      ∀ key ∉ keys, metadata.values key = parsed.metadata.values key := by
  induction filters generalizing parsed with
  | nil => exact ⟨parsed.metadata, rfl, fun _ _ => rfl⟩
  | cons filter rest ih =>
    obtain ⟨first, hfirst, hkept⟩ := h filter (by simp) url content parsed
    obtain ⟨last, hlast, hrest⟩ := ih (fun f hf => h f (by simp [hf])) ⟨first, parsed.links⟩
    refine ⟨last, ?_, ?_⟩
    · rw [runAll, hfirst]
      exact hlast
    · intro key hkey
      rw [hrest key hkey, hkept key hkey]

/-- The chain of some settings runs to its end. -/
theorem runAll_of_ofSettings {settings : FilterSettings} {filters : List ParseFilter}
    (h : ofSettings settings = .ok filters) (url : String) (content : Bytes) (parsed : Parsed) :
    ∃ metadata, runAll url content filters parsed = (⟨metadata, parsed.links⟩, none) ∧
      ∀ key, key ≠ settings.signatureKey → key ≠ settings.copyKey →
        metadata.values key = parsed.metadata.values key := by
  obtain ⟨metadata, hrun, hkept⟩ :=
    runAll_of_writesOnly (writesOnly_of_ofNames h) url content parsed
  exact ⟨metadata, hrun, fun key hsignature hcopy => hkept key (by simp [hsignature, hcopy])⟩

/-- The filters of the default settings. -/
def standard : List ParseFilter :=
  [signatureCopy Key.signature Key.signatureOld, contentSignature Key.signature]

end ParseFilter

end Recrawl
