import Recrawl.Metadata.Basic

/-!
Metadata compared entry by entry. A key that is set to what it holds leaves everything as it is, and
an update of some keys leaves the entries of all others in place.
-/

namespace Recrawl

namespace Metadata

theorem ext_entries {m m' : Metadata} (h : m.entries = m'.entries) : m = m' := by
  cases m
  cases m'
  simpa using h

theorem upsert_of_lookup {key value : String} {values : List String}
    {entries : List (String × List String)} (h : lookup key entries = value :: values) :
    upsert key (fun _ => value :: values) entries = entries := by
  induction entries with
  | nil => cases h
  | cons entry rest ih =>
    obtain ⟨k, held⟩ := entry
    by_cases hk : k = key
    · rw [lookup, if_pos hk] at h
      rw [upsert, if_pos hk, h]
    · rw [lookup, if_neg hk] at h
      rw [upsert, if_neg hk, ih h]

theorem set_of_values {m : Metadata} {key value : String} (h : m.values key = [value]) :
    m.set key value = m :=
  ext_entries (upsert_of_lookup h)

theorem setFlag_of_values {m : Metadata} {key : String} {value : Bool}
    (h : m.values key = [if value then "true" else "false"]) : m.setFlag key value = m :=
  set_of_values h

theorem contains_setFlag (m : Metadata) (key : String) (value : Bool) (other : String) :
    (m.setFlag key value).contains other = (decide (other = key) || m.contains other) := by
  unfold contains
  rw [values_setFlag]
  by_cases h : other = key <;> simp [h]

/-- A flag that is on has a value. -/
theorem contains_of_flag {m : Metadata} {key : String} (h : m.flag key = true) :
    m.contains key = true := by
  rw [contains_eq_isSome]
  cases hfirst : m.first? key with
  | none =>
    rw [flag, hfirst] at h
    cases h
  | some value => rfl

/-- The entries at other keys than the given ones, in order. -/
def rest (m : Metadata) (keys : List String) : List (String × List String) :=
  m.entries.filter fun entry => entry.1 ∉ keys

theorem filter_upsert (keep : String → Bool) {key : String} (h : keep key = false)
    (change : List String → List String) (entries : List (String × List String)) :
    (upsert key change entries).filter (fun entry => keep entry.1) =
      entries.filter fun entry => keep entry.1 := by
  induction entries with
  | nil => simp [upsert, h]
  | cons entry rest ih =>
    obtain ⟨k, values⟩ := entry
    by_cases hk : k = key
    · simp [upsert, hk, h]
    · simp [upsert, hk, List.filter_cons, ih]

theorem lookup_filter_of_keep (keep : String → Bool) {key : String} (h : keep key = true)
    (entries : List (String × List String)) :
    lookup key (entries.filter fun entry => keep entry.1) = lookup key entries := by
  induction entries with
  | nil => rfl
  | cons entry rest ih =>
    obtain ⟨k, values⟩ := entry
    by_cases hk : k = key
    · simp [lookup, hk, h]
    · cases hkeep : keep k with
      | true => simp [lookup, hk, hkeep, ih]
      | false => simp [lookup, hk, hkeep, ih]

variable {keys : List String} {key : String}

theorem rest_set (m : Metadata) (h : key ∈ keys) (value : String) :
    (m.set key value).rest keys = m.rest keys :=
  filter_upsert (fun key => key ∉ keys) (by simpa using h) _ m.entries

theorem rest_setFlag (m : Metadata) (h : key ∈ keys) (value : Bool) :
    (m.setFlag key value).rest keys = m.rest keys :=
  m.rest_set h _

theorem rest_erase (m : Metadata) (h : key ∈ keys) :
    (m.erase key).rest keys = m.rest keys := by
  unfold rest erase
  rw [List.filter_filter]
  apply List.filter_congr
  intro entry _
  by_cases hentry : entry.1 ∈ keys
  · simp [hentry]
  · have hne : entry.1 ≠ key := fun e => hentry (e ▸ h)
    simp [hentry, hne]

theorem rest_mono {m m' : Metadata} {more : List String} (h : m.rest keys = m'.rest keys)
    (hkeys : keys ⊆ more) : m.rest more = m'.rest more := by
  have hrest (m : Metadata) :
      m.rest more = (m.rest keys).filter fun entry => entry.1 ∉ more := by
    unfold rest
    rw [List.filter_filter]
    apply List.filter_congr
    intro entry _
    by_cases hentry : entry.1 ∈ keys
    · have hmore : entry.1 ∈ more := hkeys hentry
      simp [hmore]
    · simp [hentry]
  rw [hrest m, hrest m', h]

theorem values_eq_of_rest_eq {m m' : Metadata} (h : m.rest keys = m'.rest keys)
    (hkey : key ∉ keys) : m.values key = m'.values key := by
  have hrest (m : Metadata) : lookup key (m.rest keys) = m.values key :=
    lookup_filter_of_keep (fun key => key ∉ keys) (by simpa using hkey) m.entries
  rw [← hrest m, ← hrest m', h]

end Metadata

end Recrawl
