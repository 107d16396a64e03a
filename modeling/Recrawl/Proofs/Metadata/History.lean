import Recrawl.Proofs.Item.Gathering

/-!
Metadata after any history of edits. It holds what the edits left under each key, and lists the
keys by when they were last created: a key that is removed and set again goes behind the others.
-/

namespace Recrawl

namespace Metadata

/-- An edit of metadata. The last two forget what was held before. -/
inductive Edit where
  | set (key value : String)
  | setAll (key : String) (values : List String)
  | add (key value : String)
  | setFlag (key : String) (value : Bool)
  | remove (key : String)
  | collect (pairs : List (String × String))
  | read (text : String)

/-- The metadata after an edit. A text that cannot be read gives none, and leaves it as it is. -/
def edit (m : Metadata) : Edit → Metadata
  | .set key value => m.set key value
  | .setAll key values => m.setAll key values
  | .add key value => m.add key value
  | .setFlag key value => m.setFlag key value
  | .remove key => (m.remove key).2
  | .collect pairs => ofPairs pairs
  | .read text =>
    match ofJson text with
    | .ok read => read
    | .error _ => m

def ofEdits (edits : List Edit) : Metadata :=
  edits.foldl edit empty

/-- The key that an edit is about, if it is about one. -/
def Edit.key? : Edit → Option String
  | .set key _ => some key
  | .setAll key _ => some key
  | .add key _ => some key
  | .setFlag key _ => some key
  | .remove key => some key
  | .collect _ => none
  | .read _ => none

/-- What can happen to a map from keys to values. A key to which nothing is put is removed. -/
inductive Step where
  | put (key : String) (values : List String)
  | append (key value : String)
  | clear
  deriving DecidableEq

/-- The values of a key after a step, given those before it. -/
def Step.change (key : String) (values : List String) : Step → List String
  | .put other replaced => if key = other then replaced else values
  | .append other value => if key = other then values ++ [value] else values
  | .clear => []

def valuesAfter (steps : List Step) (key : String) : List String :=
  steps.foldl (Step.change key) []

/-- The strings that a value stands for: one, or those of a list. -/
def textsOf : Value → List String
  | .string text => [text]
  | .list items => items.filterMap fun
    | .string text => some text
    | _ => none
  | _ => []

/-- The strings behind a key, in order. -/
def appendsOf (member : String × Value) : List Step :=
  (textsOf member.2).map (.append member.1)

/-- A JSON text stands for the strings behind its keys, in the order in which they are written. -/
def Edit.steps : Edit → List Step
  | .set key value => [.put key [value]]
  | .setAll key values => [.put key values]
  | .add key value => [.append key value]
  | .setFlag key value => [.put key [if value then "true" else "false"]]
  | .remove key => [.put key []]
  | .collect pairs => .clear :: pairs.map fun (key, value) => .append key value
  | .read text =>
    match ofJson text, Json.parse text with
    | .ok _, .ok (.table members) => .clear :: members.flatMap appendsOf
    | _, _ => []

/-- The key was absent before the step at `time` and is there ever since. -/
def BornAt (steps : List Step) (key : String) (time : Nat) : Prop :=
  time < steps.length ∧ valuesAfter (steps.take time) key = [] ∧
    ∀ later, time < later → later ≤ steps.length → valuesAfter (steps.take later) key ≠ []

/-- The first key was last created before the second one was. -/
def BornBefore (steps : List Step) (first second : String) : Prop :=
  ∃ time later, time < later ∧ BornAt steps first time ∧ BornAt steps second later

variable {m : Metadata} {steps : List Step} {key : String}

theorem lookup_eq_nil {entries : List (String × List String)} (h : key ∉ entries.map Prod.fst) :
    lookup key entries = [] := by
  induction entries with
  | nil => rfl
  | cons entry rest ih =>
    simp only [List.map_cons, List.mem_cons, not_or] at h
    rw [lookup, if_neg (Ne.symm h.1)]
    exact ih h.2

theorem mem_keys_iff (m : Metadata) (key : String) : key ∈ m.keys ↔ m.values key ≠ [] := by
  constructor
  · exact values_ne_nil_of_mem_keys
  · intro h
    apply Decidable.byContradiction
    intro hmem
    exact h (lookup_eq_nil hmem)

theorem lookup_of_mem {entries : List (String × List String)}
    (hnodup : (entries.map Prod.fst).Nodup) {values : List String} (h : (key, values) ∈ entries) :
    lookup key entries = values := by
  induction entries with
  | nil => cases h
  | cons entry rest ih =>
    obtain ⟨hfirst, hrest⟩ := List.nodup_cons.mp hnodup
    rcases List.mem_cons.mp h with rfl | hmem
    · exact if_pos rfl
    · have hne : entry.1 ≠ key := by
        rintro rfl
        exact hfirst (List.mem_map.mpr ⟨_, hmem, rfl⟩)
      rw [lookup, if_neg hne]
      exact ih hrest hmem

theorem entries_eq_map (m : Metadata) : m.entries = m.keys.map fun key => (key, m.values key) := by
  unfold keys
  rw [List.map_map]
  apply Eq.symm
  calc m.entries.map ((fun key => (key, m.values key)) ∘ Prod.fst)
      = m.entries.map id := by
        apply List.map_congr_left
        rintro ⟨key, values⟩ hentry
        exact congrArg (Prod.mk key) (lookup_of_mem m.nodup_keys hentry)
    _ = m.entries := List.map_id _

theorem keys_setAll (m : Metadata) (key : String) (values : List String) :
    (m.setAll key values).keys =
      if values = [] then m.keys.filter (· ≠ key)
      else if key ∈ m.keys then m.keys else m.keys ++ [key] := by
  unfold setAll
  split
  · exact m.keys_erase key
  · exact keys_upsert key _ m.entries

/-- What is told are the values that go, and all other entries stay. -/
theorem remove_cases (m : Metadata) (key : String) :
    (∃ values front back, m.remove key = (some values, m.erase key) ∧
      m.entries = front ++ (key, values) :: back ∧ (m.erase key).entries = front ++ back) ∨
    (m.remove key = (none, m) ∧ key ∉ m.keys) := by
  unfold remove
  cases hfind : m.entries.find? fun entry => entry.1 = key with
  | none =>
    right
    refine ⟨rfl, ?_⟩
    intro hmem
    obtain ⟨entry, hentry, hkey⟩ := List.mem_map.mp hmem
    have hother := List.find?_eq_none.mp hfind entry hentry
    simp [hkey] at hother
  | some entry =>
    left
    obtain ⟨found, values⟩ := entry
    obtain ⟨hkey, front, back, hsplit, hfront⟩ := List.find?_eq_some_iff_append.mp hfind
    obtain rfl : found = key := by simpa using hkey
    refine ⟨values, front, back, rfl, hsplit, ?_⟩
    have hnodup := m.nodup_keys
    rw [hsplit, List.map_append, List.map_cons] at hnodup
    have hback : ∀ entry ∈ back, entry.1 ≠ found := by
      rintro entry hentry rfl
      have hrest := (List.nodup_append.mp hnodup).2.1
      exact (List.nodup_cons.mp hrest).1 (List.mem_map.mpr ⟨entry, hentry, rfl⟩)
    unfold erase
    simp only [hsplit]
    rw [List.filter_append, List.filter_cons_of_neg (by simp), List.filter_eq_self.mpr,
      List.filter_eq_self.mpr]
    · intro entry hentry
      simpa using hback entry hentry
    · intro entry hentry
      simpa using hfront entry hentry

/-- The metadata after a step. -/
def step (m : Metadata) : Step → Metadata
  | .put key values => m.setAll key values
  | .append key value => m.add key value
  | .clear => empty

theorem values_step (m : Metadata) (step : Step) (key : String) :
    (m.step step).values key = step.change key (m.values key) := by
  cases step with
  | put other values => exact m.values_setAll other values key
  | append other value =>
    by_cases h : key = other
    · subst h
      simp [Metadata.step, Step.change]
    · simp [Metadata.step, Step.change, h]
  | clear => rfl

/-- A step takes keys away, or puts a new one behind all others. -/
theorem keys_step_cases (m : Metadata) (step : Step) :
    (m.step step).keys.Sublist m.keys ∨
      ∃ key, key ∉ m.keys ∧ (m.step step).keys = m.keys ++ [key] := by
  have hinsert {keys : List String} {key : String}
      (hkeys : keys = if key ∈ m.keys then m.keys else m.keys ++ [key]) :
      keys.Sublist m.keys ∨ ∃ key, key ∉ m.keys ∧ keys = m.keys ++ [key] := by
    split at hkeys
    · exact .inl (hkeys ▸ List.Sublist.refl _)
    · exact .inr ⟨key, by assumption, hkeys⟩
  cases step with
  | put key values =>
    by_cases hnil : values = []
    · left
      simp only [Metadata.step, keys_setAll, if_pos hnil]
      exact List.filter_sublist
    · have hkeys := m.keys_setAll key values
      rw [if_neg hnil] at hkeys
      exact hinsert hkeys
  | append key value => exact hinsert (m.keys_add key value)
  | clear => exact .inl (List.nil_sublist _)

theorem set_eq_setAll (m : Metadata) (key value : String) :
    m.set key value = m.setAll key [value] := by
  apply ext_entries
  rw [setAll, dif_neg (by simp)]
  rfl

theorem snd_remove (m : Metadata) (key : String) : (m.remove key).2 = m.setAll key [] := by
  have herase : m.setAll key [] = m.erase key := dif_pos rfl
  rcases m.remove_cases key with ⟨values, front, back, hremove, -, -⟩ | ⟨hremove, hkey⟩
  · rw [hremove, herase]
  · rw [hremove, herase]
    apply ext_entries
    apply Eq.symm
    apply List.filter_eq_self.mpr
    intro entry hentry
    have hne : entry.1 ≠ key := by
      rintro rfl
      exact hkey (List.mem_map_of_mem hentry)
    simpa using hne

theorem textsOf_eq {value : Value} {texts : List String}
    (h : Json.oneOrMany? value = some texts) : textsOf value = texts := by
  rcases Json.oneOrMany?_eq_some h with ⟨text, rfl⟩ | rfl
  · exact Option.some.inj h
  · have htexts : texts.filterMap some = texts := List.filterMap_some
    simp only [Value.strings, textsOf, List.filterMap_map]
    exact htexts

theorem foldl_appendsOf (m : Metadata) {key : String} {value : Value} {texts : List String}
    (h : Json.oneOrMany? value = some texts) :
    (appendsOf (key, value)).foldl step m = m.addAll key texts := by
  rw [appendsOf, textsOf_eq h, List.foldl_map]
  rfl

theorem foldl_step_of_gather? {members : List (String × Value)} {read : Metadata}
    (h : m.gather? members = some read) :
    (members.flatMap appendsOf).foldl step m = read := by
  induction members generalizing m with
  | nil => exact Option.some.inj h
  | cons member rest ih =>
    obtain ⟨key, value⟩ := member
    rw [gather?, List.foldlM_cons] at h
    cases htexts : Json.oneOrMany? value with
    | none =>
      rw [htexts] at h
      cases h
    | some texts =>
      rw [htexts] at h
      rw [List.flatMap_cons, List.foldl_append, foldl_appendsOf m htexts]
      exact ih h

theorem edit_eq_foldl (m : Metadata) (edit : Edit) : m.edit edit = edit.steps.foldl step m := by
  cases edit with
  | set key value => exact m.set_eq_setAll key value
  | setAll key values => rfl
  | add key value => rfl
  | setFlag key value => exact m.set_eq_setAll key _
  | remove key => exact m.snd_remove key
  | collect pairs =>
    simp only [Metadata.edit, Edit.steps, List.foldl_cons, List.foldl_map]
    rfl
  | read text =>
    cases hread : ofJson text with
    | error fault => simp [Metadata.edit, Edit.steps, hread]
    | ok read =>
      obtain ⟨members, hparse, hgather⟩ := exists_of_ofJson hread
      have hsteps := foldl_step_of_gather? hgather
      simp only [Metadata.edit, Edit.steps, hread, hparse, List.foldl_cons]
      exact hsteps.symm

theorem ofEdits_eq (edits : List Edit) :
    ofEdits edits = (edits.flatMap Edit.steps).foldl step empty := by
  have hfold : ∀ m : Metadata, edits.foldl edit m = (edits.flatMap Edit.steps).foldl step m := by
    induction edits with
    | nil => exact fun m => rfl
    | cons edit rest ih =>
      intro m
      rw [List.foldl_cons, List.flatMap_cons, List.foldl_append, ih, edit_eq_foldl]
  exact hfold empty

theorem valuesAfter_snoc (steps : List Step) (step : Step) (key : String) :
    valuesAfter (steps ++ [step]) key = step.change key (valuesAfter steps key) := by
  simp [valuesAfter]

theorem BornAt.snoc {time : Nat} {step : Step} (h : BornAt steps key time)
    (hkey : valuesAfter (steps ++ [step]) key ≠ []) : BornAt (steps ++ [step]) key time := by
  obtain ⟨htime, habsent, hpresent⟩ := h
  refine ⟨?_, ?_, ?_⟩
  · rw [List.length_append]
    omega
  · rwa [List.take_append_of_le_length (by omega)]
  · intro later hlater hle
    by_cases hend : later ≤ steps.length
    · rw [List.take_append_of_le_length hend]
      exact hpresent later hlater hend
    · rwa [List.take_of_length_le (by rw [List.length_append, List.length_singleton]; omega)]

theorem bornAt_length {step : Step} (habsent : valuesAfter steps key = [])
    (hkey : valuesAfter (steps ++ [step]) key ≠ []) :
    BornAt (steps ++ [step]) key steps.length := by
  refine ⟨?_, ?_, ?_⟩
  · simp
  · rwa [List.take_left]
  · intro later hlater hle
    rwa [List.take_of_length_le (by rw [List.length_append, List.length_singleton]; omega)]

/-- The keys are in the order in which some steps created them. -/
structure Listed (steps : List Step) (keys : List String) : Prop where
  born : ∀ key ∈ keys, ∃ time, BornAt steps key time
  order : keys.Pairwise (BornBefore steps)

theorem Listed.kept {step : Step} {keys left : List String} (h : Listed steps keys)
    (hleft : left.Sublist keys) (hpresent : ∀ key ∈ left, valuesAfter (steps ++ [step]) key ≠ []) :
    Listed (steps ++ [step]) left := by
  constructor
  · intro key hkey
    obtain ⟨time, htime⟩ := h.born key (hleft.subset hkey)
    exact ⟨time, htime.snoc (hpresent key hkey)⟩
  · apply (h.order.sublist hleft).imp_of_mem
    rintro first second hfirst hsecond ⟨time, later, hlt, htime, hlater⟩
    exact ⟨time, later, hlt, htime.snoc (hpresent first hfirst),
      hlater.snoc (hpresent second hsecond)⟩

/-- A key that a step creates goes behind all that are kept. -/
theorem Listed.created {step : Step} {keys : List String} (h : Listed steps keys)
    (habsent : valuesAfter steps key = [])
    (hpresent : ∀ other ∈ keys ++ [key], valuesAfter (steps ++ [step]) other ≠ []) :
    Listed (steps ++ [step]) (keys ++ [key]) := by
  have hkept : ∀ other ∈ keys, valuesAfter (steps ++ [step]) other ≠ [] := by
    intro other hother
    exact hpresent other (List.mem_append_left _ hother)
  have hold := h.kept (List.Sublist.refl keys) hkept
  have hnew := bornAt_length habsent (hpresent key (by simp))
  constructor
  · intro other hmem
    rcases List.mem_append.mp hmem with hother | hlast
    · exact hold.born other hother
    · rw [List.mem_singleton.mp hlast]
      exact ⟨steps.length, hnew⟩
  · apply List.pairwise_append.mpr
    refine ⟨hold.order, List.pairwise_singleton _ _, ?_⟩
    intro other hother last hlast
    rw [List.mem_singleton.mp hlast]
    obtain ⟨time, htime⟩ := h.born other hother
    exact ⟨time, steps.length, htime.1, htime.snoc (hkept other hother), hnew⟩

/-- The metadata holds what some steps leave, with its keys in the order of their creation. -/
structure Follows (steps : List Step) (m : Metadata) : Prop extends Listed steps m.keys where
  values : ∀ key, m.values key = valuesAfter steps key

theorem follows_step (h : Follows steps m) (step : Step) :
    Follows (steps ++ [step]) (m.step step) := by
  have hvalues (key : String) : (m.step step).values key = valuesAfter (steps ++ [step]) key := by
    rw [values_step, h.values, valuesAfter_snoc]
  have hpresent : ∀ key ∈ (m.step step).keys, valuesAfter (steps ++ [step]) key ≠ [] := by
    intro key hkey
    rw [← hvalues]
    exact values_ne_nil_of_mem_keys hkey
  refine ⟨?_, hvalues⟩
  rcases m.keys_step_cases step with hsublist | ⟨key, hkey, hkeys⟩
  · exact h.toListed.kept hsublist hpresent
  · have habsent : valuesAfter steps key = [] := by
      rw [← h.values]
      exact lookup_eq_nil hkey
    rw [hkeys] at hpresent ⊢
    exact h.toListed.created habsent hpresent

theorem follows_foldl (steps : List Step) : Follows steps (steps.foldl step empty) := by
  have hrun : ∀ done : List Step, ∀ m, Follows done m →
      Follows (done ++ steps) (steps.foldl step m) := by
    induction steps with
    | nil =>
      intro done m h
      rwa [List.append_nil]
    | cons first rest ih =>
      intro done m h
      have hrest := ih (done ++ [first]) (m.step first) (follows_step h first)
      rwa [List.append_assoc, List.singleton_append] at hrest
  have hempty : Follows [] empty :=
    ⟨⟨fun key hkey => absurd hkey List.not_mem_nil, List.Pairwise.nil⟩, fun key => rfl⟩
  exact hrun [] empty hempty

theorem rest_setAll (m : Metadata) {keys : List String} (h : key ∈ keys) (values : List String) :
    (m.setAll key values).rest keys = m.rest keys := by
  unfold setAll
  split
  · exact m.rest_erase h
  · exact filter_upsert (fun key => key ∉ keys) (by simpa using h) _ m.entries

theorem rest_edit (m : Metadata) {edit : Edit} (h : edit.key? = some key) :
    (m.edit edit).rest [key] = m.rest [key] := by
  cases edit with
  | set other value =>
    cases h
    exact m.rest_set List.mem_cons_self value
  | setAll other values =>
    cases h
    exact m.rest_setAll List.mem_cons_self values
  | add other value =>
    cases h
    exact filter_upsert (fun other => other ∉ [key]) (by simp) _ m.entries
  | setFlag other value =>
    cases h
    exact m.rest_setFlag List.mem_cons_self value
  | remove other =>
    cases h
    rw [edit, snd_remove]
    exact m.rest_setAll List.mem_cons_self []
  | collect pairs => cases h
  | read text => cases h

/-- After any history of edits each key has the values that the edits left there, the keys are in
the order in which they were last created, and one more edit of a key is seen at that key only. -/
theorem ofEdits_orderedMultimap (edits : List Edit) :
    let m := ofEdits edits
    let steps := edits.flatMap Edit.steps
    m.keys.Nodup ∧ (∀ entry ∈ m.entries, entry.2 ≠ []) ∧
      m.entries = (m.keys.map fun key => (key, valuesAfter steps key)) ∧
      (∀ key, m.values key = valuesAfter steps key) ∧
      -- The order of the keys.
      (∀ key, key ∈ m.keys ↔ ∃ time, BornAt steps key time) ∧
      m.keys.Pairwise (BornBefore steps) ∧
      -- One more edit, and one more removal.
      (∀ edit key, edit.key? = some key → (m.edit edit).rest [key] = m.rest [key]) ∧
      ∀ key, (∃ values front back, m.remove key = (some values, m.erase key) ∧
          m.entries = front ++ (key, values) :: back ∧ (m.erase key).entries = front ++ back) ∨
        (m.remove key = (none, m) ∧ key ∉ m.keys) := by
  intro m steps
  have hfollows : Follows steps m := by
    have hm : m = steps.foldl step empty := ofEdits_eq edits
    rw [hm]
    exact follows_foldl steps
  refine ⟨m.nodup_keys, m.values_ne_nil, ?_, hfollows.values, ?_, hfollows.order, ?_,
    m.remove_cases⟩
  · have hentries := m.entries_eq_map
    simpa only [hfollows.values] using hentries
  · intro key
    constructor
    · exact hfollows.born key
    · rintro ⟨time, htime, -, hpresent⟩
      have hend := hpresent steps.length htime (Nat.le_refl _)
      rw [List.take_length, ← hfollows.values] at hend
      exact (m.mem_keys_iff key).mpr hend
  · intro edit key hkey
    exact m.rest_edit hkey

/-- A key that was read is removed by a list without values, and comes back behind the others. -/
def renewedKey : List Edit :=
  [.set "a" "old",
    .read "\x7b\x22b\x22:\x221\x22,\x22a\x22:[\x222\x22,\x223\x22],\x22b\x22:\x224\x22\x7d",
    .setAll "b" [], .add "c" "5", .add "b" "6"]

theorem ofEdits_orderedMultimap_renewedKey :
    let m := ofEdits renewedKey
    m.entries = [("a", ["2", "3"]), ("c", ["5"]), ("b", ["6"])] ∧
      BornBefore (renewedKey.flatMap Edit.steps) "c" "b" ∧
      (m.edit (.setFlag "c" true)).rest ["c"] = [("a", ["2", "3"]), ("b", ["6"])] ∧
      (m.remove "a").1 = some ["2", "3"] := by
  intro m
  have hentries : m.entries = [("a", ["2", "3"]), ("c", ["5"]), ("b", ["6"])] := by decide +kernel
  have hkeys : m.keys = ["a", "c", "b"] := congrArg (List.map Prod.fst) hentries
  obtain ⟨-, -, -, -, -, horder, hother, hremove⟩ := ofEdits_orderedMultimap renewedKey
  refine ⟨hentries, ?_, ?_, ?_⟩
  · have hpairs : m.keys.Pairwise (BornBefore (renewedKey.flatMap Edit.steps)) := horder
    rw [hkeys] at hpairs
    exact (List.pairwise_cons.mp (List.pairwise_cons.mp hpairs).2).1 "b" List.mem_cons_self
  · have hrest : (m.edit (.setFlag "c" true)).rest ["c"] = m.rest ["c"] :=
      hother (.setFlag "c" true) "c" rfl
    rw [hrest, rest, hentries]
    rfl
  · rcases hremove "a" with ⟨values, front, back, htold, hsplit, -⟩ | ⟨-, habsent⟩
    · have hmem : ("a", values) ∈ m.entries := by
        rw [show m.entries = front ++ ("a", values) :: back from hsplit]
        simp
      have hheld : m.values "a" = values := lookup_of_mem m.nodup_keys hmem
      have hfirst : m.values "a" = ["2", "3"] := by
        rw [Metadata.values, hentries]
        rfl
      rw [show m.remove "a" = (some values, m.erase "a") from htold, ← hheld, hfirst]
    · have hmem : "a" ∈ m.keys := by
        rw [hkeys]
        exact List.mem_cons_self
      exact absurd hmem habsent

end Metadata

end Recrawl
