/-!
Metadata: an ordered multimap from keys to values that travels with an item
through every stage and is kept between two visits. A key without values does
not exist; a new key goes behind the others and keeps its place until it is
removed.
-/
namespace Recrawl

/-- Keys with their values, in the order in which the keys were created. -/
structure Metadata where
  entries : List (String × List String)
  nodup_keys : (entries.map Prod.fst).Nodup
  values_ne_nil : ∀ entry ∈ entries, entry.2 ≠ []
  deriving DecidableEq

namespace Metadata

/-- The values of a key, none if there is no such key. -/
def lookup (key : String) : List (String × List String) → List String
  | [] => []
  | (k, values) :: rest => if k = key then values else lookup key rest

/-- Changes the values of a key; a missing key is created behind the others. -/
def upsert (key : String) (change : List String → List String) :
    List (String × List String) → List (String × List String)
  | [] => [(key, change [])]
  | (k, values) :: rest =>
    if k = key then (k, change values) :: rest else (k, values) :: upsert key change rest

theorem keys_upsert (key : String) (change : List String → List String)
    (entries : List (String × List String)) :
    (upsert key change entries).map Prod.fst =
      if key ∈ entries.map Prod.fst then entries.map Prod.fst
      else entries.map Prod.fst ++ [key] := by
  induction entries with
  | nil => simp [upsert]
  | cons entry rest ih =>
    obtain ⟨k, values⟩ := entry
    by_cases h : k = key
    · simp [upsert, h]
    · have h' : ¬ key = k := fun e => h e.symm
      simp only [upsert, if_neg h, List.map_cons, ih, List.mem_cons, h', false_or]
      split <;> simp

theorem nodup_upsert (key : String) (change : List String → List String)
    {entries : List (String × List String)} (h : (entries.map Prod.fst).Nodup) :
    ((upsert key change entries).map Prod.fst).Nodup := by
  rw [keys_upsert]
  split
  · exact h
  · rename_i hk
    exact List.nodup_append.2 ⟨h, by simp, by
      intro a ha b hb e
      simp only [List.mem_singleton] at hb
      exact hk (hb ▸ e ▸ ha)⟩

theorem ne_nil_upsert (key : String) {change : List String → List String}
    (hc : ∀ values, change values ≠ []) {entries : List (String × List String)}
    (h : ∀ entry ∈ entries, entry.2 ≠ []) :
    ∀ entry ∈ upsert key change entries, entry.2 ≠ [] := by
  induction entries with
  | nil => simp [upsert, hc]
  | cons entry rest ih =>
    obtain ⟨k, values⟩ := entry
    by_cases hk : k = key
    · simp only [upsert, if_pos hk, List.mem_cons]
      rintro e (rfl | he)
      · exact hc values
      · exact h e (List.mem_cons_of_mem _ he)
    · simp only [upsert, if_neg hk, List.mem_cons]
      rintro e (rfl | he)
      · exact h _ List.mem_cons_self
      · exact ih (fun e he => h e (List.mem_cons_of_mem _ he)) e he

theorem lookup_ne_nil {entries : List (String × List String)}
    (h : ∀ entry ∈ entries, entry.2 ≠ []) {key : String} (hkey : key ∈ entries.map Prod.fst) :
    lookup key entries ≠ [] := by
  induction entries with
  | nil => cases hkey
  | cons entry rest ih =>
    rw [lookup]
    split
    · exact h entry List.mem_cons_self
    · rename_i hne
      refine ih (fun other hother => h other (List.mem_cons_of_mem _ hother)) ?_
      exact (List.mem_cons.mp hkey).resolve_left (Ne.symm hne)

def empty : Metadata := ⟨[], by simp, by simp⟩

instance : Inhabited Metadata := ⟨empty⟩

/-- All values of a key, in order; none if the key is absent. -/
def values (m : Metadata) (key : String) : List String :=
  lookup key m.entries

def first? (m : Metadata) (key : String) : Option String :=
  (m.values key).head?

def contains (m : Metadata) (key : String) : Bool :=
  !(m.values key).isEmpty

def keys (m : Metadata) : List String :=
  m.entries.map Prod.fst

def size (m : Metadata) : Nat :=
  m.entries.length

def isEmpty (m : Metadata) : Bool :=
  m.entries.isEmpty

def erase (m : Metadata) (key : String) : Metadata where
  entries := m.entries.filter fun entry => entry.1 ≠ key
  nodup_keys := by
    exact (List.Sublist.map Prod.fst List.filter_sublist).nodup m.nodup_keys
  values_ne_nil := fun e he => m.values_ne_nil e (List.mem_filter.1 he).1

/-- Takes a key away, and tells the values that it had if it was there. -/
def remove (m : Metadata) (key : String) : Option (List String) × Metadata :=
  match m.entries.find? fun entry => entry.1 = key with
  | some entry => (some entry.2, m.erase key)
  | none => (none, m)

def add (m : Metadata) (key value : String) : Metadata where
  entries := upsert key (fun values => values ++ [value]) m.entries
  nodup_keys := nodup_upsert key _ m.nodup_keys
  values_ne_nil := ne_nil_upsert key (by simp) m.values_ne_nil

def set (m : Metadata) (key value : String) : Metadata where
  entries := upsert key (fun _ => [value]) m.entries
  nodup_keys := nodup_upsert key _ m.nodup_keys
  values_ne_nil := ne_nil_upsert key (by simp) m.values_ne_nil

/-- Replaces all values of a key; no values remove the key. -/
def setAll (m : Metadata) (key : String) (values : List String) : Metadata :=
  if h : values = [] then m.erase key
  else
    { entries := upsert key (fun _ => values) m.entries
      nodup_keys := nodup_upsert key _ m.nodup_keys
      values_ne_nil := ne_nil_upsert key (fun _ => h) m.values_ne_nil }

/-- The truth of a text: `true` in any letter case. -/
def isTrue (value : String) : Bool :=
  value.toList.map Char.toLower == "true".toList

/-- The first value of a key, as a truth value; an absent key is false. -/
def flag (m : Metadata) (key : String) : Bool :=
  (m.first? key).any isTrue

/-- Sets a key to `true` or `false`. -/
def setFlag (m : Metadata) (key : String) (value : Bool) : Metadata :=
  m.set key (if value then "true" else "false")

/-- Adds the pairs in order, so that repeated keys gather values. -/
def addPairs (m : Metadata) (pairs : List (String × String)) : Metadata :=
  pairs.foldl (fun m pair => m.add pair.1 pair.2) m

def ofPairs (pairs : List (String × String)) : Metadata :=
  empty.addPairs pairs

/-- The form of metadata in a message: keys with their values, separated by semicolons. -/
def toText (m : Metadata) : String :=
  "; ".intercalate (m.entries.map fun (key, values) => key ++ ": " ++ ", ".intercalate values)

theorem lookup_upsert (key other : String) (change : List String → List String)
    (entries : List (String × List String)) :
    lookup other (upsert key change entries) =
      if other = key then change (lookup key entries) else lookup other entries := by
  induction entries with
  | nil =>
    by_cases h : other = key
    · simp [upsert, lookup, h]
    · simp [upsert, lookup, h, Ne.symm h]
  | cons entry rest ih =>
    obtain ⟨k, values⟩ := entry
    by_cases hk : k = key
    · subst hk
      by_cases h : other = k
      · simp [upsert, lookup, h]
      · simp [upsert, lookup, h, Ne.symm h]
    · by_cases h : k = other
      · subst h
        simp [upsert, lookup, hk]
      · simp only [upsert, if_neg hk, lookup, if_neg h, ih]

theorem lookup_filter (key other : String) (entries : List (String × List String)) :
    lookup other (entries.filter fun entry => entry.1 ≠ key) =
      if other = key then [] else lookup other entries := by
  induction entries with
  | nil => simp [lookup]
  | cons entry rest ih =>
    obtain ⟨k, values⟩ := entry
    by_cases hk : k = key
    · subst hk
      simp only [ne_eq, not_true_eq_false, decide_false, Bool.false_eq_true, not_false_eq_true,
        List.filter_cons_of_neg, lookup]
      by_cases h : other = k
      · simpa [h] using ih
      · simpa [h, Ne.symm h] using ih
    · have : decide (k ≠ key) = true := by simpa using hk
      simp only [List.filter_cons, this, if_true, lookup, ih]
      by_cases h : k = other
      · subst h; simp [hk]
      · simp [h]

@[simp] theorem values_empty (key : String) : empty.values key = [] := rfl

@[simp] theorem values_erase (m : Metadata) (key other : String) :
    (m.erase key).values other = if other = key then [] else m.values other :=
  lookup_filter key other m.entries

@[simp] theorem values_add (m : Metadata) (key value other : String) :
    (m.add key value).values other =
      if other = key then m.values key ++ [value] else m.values other :=
  lookup_upsert key other _ m.entries

@[simp] theorem values_set (m : Metadata) (key value other : String) :
    (m.set key value).values other = if other = key then [value] else m.values other :=
  lookup_upsert key other _ m.entries

@[simp] theorem values_setAll (m : Metadata) (key : String) (values : List String)
    (other : String) :
    (m.setAll key values).values other = if other = key then values else m.values other := by
  unfold setAll
  split
  · rename_i h
    simp [h]
  · exact lookup_upsert key other _ m.entries

@[simp] theorem values_setFlag (m : Metadata) (key : String) (value : Bool) (other : String) :
    (m.setFlag key value).values other =
      if other = key then [if value then "true" else "false"] else m.values other :=
  m.values_set key _ other

theorem contains_eq_isSome (m : Metadata) (key : String) :
    m.contains key = (m.first? key).isSome := by
  unfold contains first?
  cases m.values key <;> rfl

theorem first?_of_values {m : Metadata} {key value : String} {rest : List String}
    (h : m.values key = value :: rest) : m.first? key = some value := by
  simp [first?, h]

theorem first?_congr {m m' : Metadata} {key : String} (h : m'.values key = m.values key) :
    m'.first? key = m.first? key := by
  unfold first?
  rw [h]

theorem values_ne_nil_of_mem_keys {m : Metadata} {key : String} (h : key ∈ m.keys) :
    m.values key ≠ [] :=
  lookup_ne_nil m.values_ne_nil h

theorem first?_eq_none_iff (m : Metadata) (key : String) :
    m.first? key = none ↔ m.values key = [] := by
  simp [first?]

theorem flag_congr {m m' : Metadata} {key : String} (h : m'.values key = m.values key) :
    m'.flag key = m.flag key := by
  unfold flag
  rw [first?_congr h]

theorem flag_setFlag (m : Metadata) (key : String) (value : Bool) (other : String) :
    (m.setFlag key value).flag other = if other = key then value else m.flag other := by
  split
  · rename_i h
    unfold flag
    rw [first?_of_values ((m.values_setFlag key value other).trans (if_pos h))]
    cases value <;> rfl
  · rename_i h
    exact flag_congr ((m.values_setFlag key value other).trans (if_neg h))

theorem keys_add (m : Metadata) (key value : String) :
    (m.add key value).keys = if key ∈ m.keys then m.keys else m.keys ++ [key] :=
  keys_upsert key _ m.entries

theorem keys_set (m : Metadata) (key value : String) :
    (m.set key value).keys = if key ∈ m.keys then m.keys else m.keys ++ [key] :=
  keys_upsert key _ m.entries

theorem keys_erase (m : Metadata) (key : String) :
    (m.erase key).keys = m.keys.filter (· ≠ key) := by
  simp [keys, erase, List.filter_map, Function.comp_def]

end Metadata

end Recrawl
