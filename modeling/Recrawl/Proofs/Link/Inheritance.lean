import Recrawl.Link.Inheritance
import Recrawl.Proofs.Text.Integer

/-!
What a link takes over from its document, key by key. The values at a key come from the values of
the document at the same key, so that documents which agree at the keys that count have links
with the same metadata.
-/

namespace Recrawl.LinkRules

theorem parts_of_ofSettings {settings : LinkSettings} {rules : LinkRules}
    (h : ofSettings settings = .ok rules) :
    rules.inherited = settings.inherited ∧ rules.tracksPath = settings.tracksPath ∧
      rules.tracksDepth = settings.tracksDepth := by
  unfold ofSettings at h
  cases hfilters : UrlFilter.ofNames settings.filters with
  | error name =>
    rw [hfilters] at h
    cases h
  | ok filters =>
    rw [hfilters] at h
    cases h
    exact ⟨rfl, rfl, rfl⟩

theorem filters_of_ofSettings {settings : LinkSettings} {rules : LinkRules}
    (h : ofSettings settings = .ok rules) :
    UrlFilter.ofNames settings.filters = .ok rules.filters := by
  unfold ofSettings at h
  cases hfilters : UrlFilter.ofNames settings.filters with
  | error name =>
    rw [hfilters] at h
    cases h
  | ok filters =>
    rw [hfilters] at h
    cases h
    rfl

theorem depthOf_of_values_eq_nil {m : Metadata} (h : m.values Key.depth = []) : depthOf m = 0 := by
  rw [depthOf, (m.first?_eq_none_iff _).mpr h]

theorem depthOf_of_values {m : Metadata} {n : Nat} (h : m.values Key.depth = [toString n])
    (hn : n < UInt32.size) : (depthOf m).toNat = n := by
  rw [depthOf, Metadata.first?_of_values h]
  simp only [Text.readUInt32_toString hn]
  exact UInt32.toNat_ofNat_of_lt hn

/-- One more than a depth does not wrap around, as long as the word holds it. -/
theorem toNat_depthOf_add_one {m : Metadata} (h : (depthOf m).toNat + 1 < UInt32.size) :
    (depthOf m + 1).toNat = (depthOf m).toNat + 1 := by
  rw [UInt32.toNat_add]
  exact Nat.mod_eq_of_lt h

theorem values_inherit (parent m : Metadata) (key other : String) :
    (inherit parent m key).values other =
      if other = key ∧ parent.values key ≠ [] then parent.values key else m.values other := by
  unfold inherit Metadata.contains
  cases hvalues : parent.values key with
  | nil => simp
  | cons value rest => simp

theorem values_foldl_inherit (parent m : Metadata) (keys : List String) (other : String) :
    (keys.foldl (inherit parent) m).values other =
      if other ∈ keys ∧ parent.values other ≠ [] then parent.values other
      else m.values other := by
  induction keys generalizing m with
  | nil => simp
  | cons key rest ih =>
    rw [List.foldl_cons, ih, values_inherit]
    by_cases hrest : other ∈ rest
    · by_cases hvalues : parent.values other = []
      · by_cases hkey : other = key
        · simp [hvalues, ← hkey]
        · simp [hvalues, hkey]
      · simp [hrest, hvalues]
    · by_cases hkey : other = key
      · simp [hrest, ← hkey]
      · simp [hrest, hkey]

/-- The values that a link takes over: the depth and the path if they are tracked, and else those of
the document, if the key is inherited. -/
theorem values_transfer (rules : LinkRules) (source : String) (parent : Metadata) (key : String) :
    (rules.transfer source parent).values key =
      if rules.tracksDepth = true ∧ key = Key.depth then [toString (depthOf parent + 1).toNat]
      else if rules.tracksPath = true ∧ key = Key.path then parent.values Key.path ++ [source]
      else if key ∈ rules.inherited then parent.values key else [] := by
  have hcopied : (rules.inherited.foldl (inherit parent) Metadata.empty).values key =
      if key ∈ rules.inherited then parent.values key else [] := by
    rw [values_foldl_inherit, Metadata.values_empty]
    by_cases hvalues : parent.values key = []
    · simp [hvalues]
    · simp [hvalues]
  unfold transfer
  cases rules.tracksDepth with
  | true =>
    cases rules.tracksPath <;> simp [hcopied]
  | false =>
    cases rules.tracksPath <;> simp [hcopied]

/-- The values that a link takes over at a key depend on no other key of the document. -/
theorem values_transfer_congr (rules : LinkRules) (source : String) {parent parent' : Metadata}
    {key : String} (h : parent.values key = parent'.values key) :
    (rules.transfer source parent).values key = (rules.transfer source parent').values key := by
  rw [values_transfer, values_transfer, h]
  by_cases hdepth : rules.tracksDepth = true ∧ key = Key.depth
  · rw [hdepth.2] at h
    rw [if_pos hdepth, if_pos hdepth, depthOf, depthOf, Metadata.first?_congr h]
  · by_cases hpath : rules.tracksPath = true ∧ key = Key.path
    · rw [hpath.2] at h
      rw [if_neg hdepth, if_neg hdepth, if_pos hpath, if_pos hpath, h]
    · rw [if_neg hdepth, if_neg hdepth, if_neg hpath, if_neg hpath]

theorem values_of_link? {rules : LinkRules} {source : Url} {target : String} {parent : Metadata}
    {tags : List (String × String)} {link : Link}
    (h : rules.link? source target parent tags = some link) {key : String}
    (hkey : ∀ tag ∈ tags, key ≠ tag.1) :
    link.metadata.values key = (rules.transfer source.toString parent).values key := by
  have hkept (m : Metadata) (tags : List (String × String)) (hne : ∀ tag ∈ tags, key ≠ tag.1) :
      (tags.foldl (fun m tag => m.set tag.1 tag.2) m).values key = m.values key := by
    induction tags generalizing m with
    | nil => rfl
    | cons tag rest ih =>
      rw [List.foldl_cons, ih _ fun other hother => hne other (by simp [hother]),
        Metadata.values_set, if_neg (hne tag (by simp))]
  unfold link? at h
  obtain ⟨filtered, -, rfl⟩ := Option.map_eq_some_iff.mp h
  exact hkept _ tags hkey

theorem inherit_congr {parent parent' : Metadata} {key : String}
    (h : parent.values key = parent'.values key) (m : Metadata) :
    inherit parent m key = inherit parent' m key := by
  unfold inherit Metadata.contains
  rw [h]

theorem foldl_inherit_congr {parent parent' : Metadata} {keys : List String}
    (h : ∀ key ∈ keys, parent.values key = parent'.values key) (m : Metadata) :
    keys.foldl (inherit parent) m = keys.foldl (inherit parent') m := by
  induction keys generalizing m with
  | nil => rfl
  | cons key rest ih =>
    rw [List.foldl_cons, List.foldl_cons, inherit_congr (h key (by simp))]
    exact ih (fun other hother => h other (by simp [hother])) _

/-- A link takes over the same metadata, in the same order, from two documents that agree at the
inherited keys, on the path and on the depth, as far as these are tracked. -/
theorem transfer_congr {rules : LinkRules} {parent parent' : Metadata}
    (hinherited : ∀ key ∈ rules.inherited, parent.values key = parent'.values key)
    (hpath : rules.tracksPath = true → parent.values Key.path = parent'.values Key.path)
    (hdepth : rules.tracksDepth = true → parent.first? Key.depth = parent'.first? Key.depth)
    (source : String) : rules.transfer source parent = rules.transfer source parent' := by
  unfold transfer
  simp only [foldl_inherit_congr hinherited]
  have hdistance (h : rules.tracksDepth = true) : depthOf parent = depthOf parent' := by
    rw [depthOf, depthOf, hdepth h]
  cases hd : rules.tracksDepth with
  | true =>
    cases hp : rules.tracksPath with
    | true => simp [hdistance hd, hpath hp]
    | false => simp [hdistance hd]
  | false =>
    cases hp : rules.tracksPath with
    | true => simp [hpath hp]
    | false => rfl

end Recrawl.LinkRules
