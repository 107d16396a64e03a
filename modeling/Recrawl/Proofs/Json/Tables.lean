import Recrawl.Proofs.Json.Strings

/-!
Lists of strings and tables are read back as they were written. What the members of a table make
of a state is told apart from the texts that they are read from.
-/

namespace Recrawl.Json

/-- The compact form of a member of a table. -/
def memberText (member : String × Value) : List Char :=
  writeString member.1 ++ ':' :: compact member.2

theorem compactItems_eq_map (items : List Value) : compactItems items = items.map compact := by
  induction items with
  | nil => rw [compactItems, List.map_nil]
  | cons item rest ih => rw [compactItems, ih, List.map_cons]

theorem compactMembers_eq_map (members : List (String × Value)) :
    compactMembers members = members.map memberText := by
  induction members with
  | nil => rw [compactMembers, List.map_nil]
  | cons member rest ih => rw [compactMembers, ih, List.map_cons, memberText]

theorem compact_string (s : String) : compact (.string s) = writeString s := by
  rw [compact]

theorem compact_strings (items : List String) :
    compact (.strings items) = '[' :: (joinWith [','] (items.map writeString) ++ [']']) := by
  have hstring : compact ∘ Value.string = writeString := funext compact_string
  rw [Value.strings, compact, compactItems_eq_map, List.map_map, hstring]

theorem compact_table (members : List (String × Value)) :
    compact (.table members) = '\x7b' :: (joinWith [','] (members.map memberText) ++ ['\x7d']) := by
  rw [compact, compactMembers_eq_map]

theorem joinWith_cons_cons (separator part next : List Char) (rest : List (List Char)) :
    joinWith separator (part :: next :: rest) =
      part ++ (separator ++ joinWith separator (next :: rest)) := by
  rw [joinWith, List.append_assoc]
  simp

/-- Parts that begin with a quote are joined to a text that begins with one. -/
theorem exists_joinWith_eq_cons (separator part : List Char) (rest : List (List Char)) :
    ∃ tail, joinWith separator (('\x22' :: part) :: rest) = '\x22' :: tail := by
  cases rest with
  | nil => exact ⟨part, rfl⟩
  | cons next rest => exact ⟨_, joinWith_cons_cons separator _ next rest⟩

/-- A text has room for the parts that stand in it. -/
theorem length_le_length_joinWith (parts : List (List Char)) (behind : List Char) :
    parts.length ≤ (joinWith [','] parts ++ behind).length + 1 := by
  rw [List.length_append]
  induction parts with
  | nil => simp
  | cons part rest ih =>
    cases rest with
    | nil => simp
    | cons next rest =>
      simp only [joinWith_cons_cons, List.length_append, List.length_cons, List.length_nil] at ih ⊢
      omega

theorem mem_joinWith {c : Char} {separator : List Char} {parts : List (List Char)}
    (h : c ∈ joinWith separator parts) : c ∈ separator ∨ ∃ part ∈ parts, c ∈ part := by
  induction parts with
  | nil => cases h
  | cons part rest ih =>
    cases rest with
    | nil => exact .inr ⟨part, by simp, h⟩
    | cons next rest =>
      rw [joinWith_cons_cons, List.mem_append, List.mem_append] at h
      rcases h with hpart | hseparator | hrest
      · exact .inr ⟨part, by simp, hpart⟩
      · exact .inl hseparator
      · rcases ih hrest with hseparator | ⟨other, hmem, hother⟩
        · exact .inl hseparator
        · exact .inr ⟨other, List.mem_cons_of_mem _ hmem, hother⟩

theorem newline_not_mem_compact_string (s : String) : '\n' ∉ compact (.string s) := by
  rw [compact_string]
  exact newline_not_mem_writeString s

theorem newline_not_mem_joinWith {parts : List (List Char)} (h : ∀ part ∈ parts, '\n' ∉ part) :
    '\n' ∉ joinWith [','] parts := by
  intro hmem
  rcases mem_joinWith hmem with hcomma | ⟨part, hpart, hnewline⟩
  · exact absurd hcomma (by decide)
  · exact h part hpart hnewline

theorem newline_not_mem_compact_strings (strings : List String) :
    '\n' ∉ compact (.strings strings) := by
  have hitems : '\n' ∉ joinWith [','] (strings.map writeString) := by
    apply newline_not_mem_joinWith
    simp [newline_not_mem_writeString]
  rw [compact_strings]
  simp [hitems]

theorem newline_not_mem_compact_table {members : List (String × Value)}
    (hvalues : ∀ member ∈ members, '\n' ∉ compact member.2) :
    '\n' ∉ compact (.table members) := by
  have hmembers : '\n' ∉ joinWith [','] (members.map memberText) := by
    apply newline_not_mem_joinWith
    intro part hpart
    obtain ⟨member, hmember, rfl⟩ := List.mem_map.mp hpart
    simp [memberText, newline_not_mem_writeString, hvalues member hmember]
  rw [compact_table]
  simp [hmembers]

theorem valueAt_writeString (depth : Nat) (s : String) (rest : List Char) :
    valueAt false depth (writeString s ++ rest) = .ok (.string s, rest) := by
  rw [writeString_append]
  unfold valueAt
  simp [restOfString_flatMap_escape, Except.map]

theorem skipBlanks_writeString (s : String) (rest : List Char) :
    skipBlanks (writeString s ++ rest) = writeString s ++ rest := by
  rw [writeString_append]
  exact skipBlanks_cons (by decide) _

theorem items_joinWith (depth : Nat) {strings : List String} (hne : strings ≠ []) {bound : Nat}
    (hbound : strings.length ≤ bound) (read : List Value) (rest : List Char) :
    items (valueAt false depth) bound read
        (joinWith [','] (strings.map writeString) ++ ']' :: rest) =
      .ok (read.reverse ++ strings.map Value.string, rest) := by
  induction strings generalizing bound read with
  | nil => exact absurd rfl hne
  | cons s strings ih =>
    obtain ⟨bound, rfl⟩ : ∃ n, bound = n + 1 := ⟨bound - 1, by simp at hbound; omega⟩
    cases strings with
    | nil =>
      rw [List.map_singleton, joinWith, items, skipBlanks_writeString, valueAt_writeString]
      simp [ok_bind, skipBlanks_cons (show isBlank ']' = false by decide)]
    | cons next strings =>
      have hrest := ih (by simp) (by simpa using hbound) (.string s :: read)
      rw [List.map_cons, List.map_cons, joinWith_cons_cons, List.append_assoc, items,
        skipBlanks_writeString, valueAt_writeString]
      simp only [ok_bind, List.cons_append, List.nil_append,
        skipBlanks_cons (show isBlank ',' = false by decide)]
      rw [List.map_cons] at hrest
      rw [hrest]
      simp

theorem restOfList_joinWith (depth : Nat) (strings : List String) (rest : List Char) :
    restOfList (valueAt false depth) (joinWith [','] (strings.map writeString) ++ ']' :: rest) =
      .ok (strings.map Value.string, rest) := by
  unfold restOfList
  cases strings with
  | nil => rfl
  | cons s strings =>
    obtain ⟨tail, htail⟩ := exists_joinWith_eq_cons [','] (s.toList.flatMap escape ++ ['\x22'])
      (strings.map writeString)
    have hbound := length_le_length_joinWith ((s :: strings).map writeString) (']' :: rest)
    rw [List.length_map] at hbound
    have hitems := items_joinWith depth (List.cons_ne_nil s strings) hbound [] rest
    change joinWith [','] ((s :: strings).map writeString) = _ at htail
    rw [htail] at hitems ⊢
    rw [List.cons_append, skipBlanks_cons (by decide)]
    exact hitems

theorem valueAt_strings (depth : Nat) (strings : List String) (rest : List Char) :
    valueAt false (depth + 1) (compact (.strings strings) ++ rest) =
      .ok (.strings strings, rest) := by
  rw [compact_strings, List.cons_append, List.append_assoc, List.singleton_append, valueAt]
  simp [restOfList_joinWith, Except.map, Value.strings]

/-- The members, read one after the other as they were written, lead from one state to another. -/
def ReadsTable {σ : Type} (member : σ → String → Reader σ) :
    σ → List (String × Value) → σ → Prop
  | state, [], final => state = final
  | state, (key, value) :: rest, final =>
    ∃ next, (∀ behind, member state key (skipBlanks (compact value ++ behind)) =
      .ok (next, behind)) ∧ ReadsTable member next rest final

variable {σ : Type} {member : σ → String → Reader σ} {state next final : σ}

/-- A member leads to the next state, and what follows it tells whether there are more. -/
theorem members_memberText {key : String} {value : Value}
    (h : ∀ behind, member state key (skipBlanks (compact value ++ behind)) = .ok (next, behind))
    (bound : Nat) (rest : List Char) :
    members false member (bound + 1) state (memberText (key, value) ++ rest) =
      match skipBlanks rest with
      | ',' :: rest => members false member bound next rest
      | '\x7d' :: rest => .ok (next, rest)
      | _ => .error .illFormed := by
  simp only [memberText, List.append_assoc, List.cons_append, writeString_append]
  rw [members, skipBlanks_cons (by decide)]
  have hcolon (text : List Char) : skipBlanks (':' :: text) = ':' :: text :=
    skipBlanks_cons (by decide) text
  simp only [restOfString_flatMap_escape, ok_bind, hcolon, expect, beq_self_eq_true, if_true]
  exact congrArg (fun read => read >>= _) (h rest)

theorem members_of_readsTable {ms : List (String × Value)} (hne : ms ≠ []) {bound : Nat}
    (hbound : ms.length ≤ bound) (h : ReadsTable member state ms final) (rest : List Char) :
    members false member bound state (joinWith [','] (ms.map memberText) ++ '\x7d' :: rest) =
      .ok (final, rest) := by
  induction ms generalizing bound state with
  | nil => exact absurd rfl hne
  | cons first ms ih =>
    obtain ⟨bound, rfl⟩ : ∃ n, bound = n + 1 := ⟨bound - 1, by simp at hbound; omega⟩
    obtain ⟨key, value⟩ := first
    obtain ⟨next, hfirst, hrest⟩ := h
    cases ms with
    | nil =>
      cases hrest
      rw [List.map_singleton, joinWith, members_memberText hfirst, skipBlanks_cons (by decide)]
      rfl
    | cons second ms =>
      rw [List.map_cons, List.map_cons, joinWith_cons_cons, List.append_assoc,
        List.singleton_append, List.cons_append, members_memberText hfirst,
        skipBlanks_cons (by decide)]
      exact ih (by simp) (by simpa using hbound) hrest

theorem restOfTable_of_readsTable {ms : List (String × Value)}
    (h : ReadsTable member state ms final) (rest : List Char) :
    restOfTable false member state (joinWith [','] (ms.map memberText) ++ '\x7d' :: rest) =
      .ok (final, rest) := by
  cases ms with
  | nil =>
    cases h
    rfl
  | cons first ms =>
    obtain ⟨tail, htail⟩ := exists_joinWith_eq_cons [',']
      (first.1.toList.flatMap escape ++ '\x22' :: ':' :: compact first.2) (ms.map memberText)
    rw [← writeString_append] at htail
    change joinWith [','] ((first :: ms).map memberText) = _ at htail
    have hbound := length_le_length_joinWith ((first :: ms).map memberText) ('\x7d' :: rest)
    rw [List.length_map] at hbound
    have hmembers := members_of_readsTable (List.cons_ne_nil first ms) hbound h rest
    unfold restOfTable
    rw [htail] at hmembers ⊢
    rw [List.cons_append, skipBlanks_cons (by decide)]
    exact hmembers

/-- What one reader of members accepts another accepts too, if it follows it member by member. -/
theorem members_simulates {τ : Type} {other : τ → String → Reader τ} {lenient : Bool}
    (R : σ → τ → Prop)
    (hstep : ∀ s t, R s t → ∀ key chars s' rest, member s key (skipBlanks chars) = .ok (s', rest) →
      ∃ t', other t key (skipBlanks chars) = .ok (t', rest) ∧ R s' t')
    {bound : Nat} {s s' : σ} {t : τ} {chars rest : List Char} (hR : R s t)
    (h : members lenient member bound s chars = .ok (s', rest)) :
    ∃ t', members lenient other bound t chars = .ok (t', rest) ∧ R s' t' := by
  induction bound generalizing s t chars with
  | zero => cases h
  | succ bound ih =>
    unfold members at h ⊢
    split at h
    · obtain ⟨⟨key, text⟩, hkey, h⟩ := exists_of_bind_eq_ok h
      obtain ⟨text', hcolon, h⟩ := exists_of_bind_eq_ok h
      obtain ⟨⟨after, behind⟩, hmember, h⟩ := exists_of_bind_eq_ok h
      obtain ⟨after', hother, hR'⟩ := hstep s t hR key text' after behind hmember
      simp only [hkey, hcolon, hother, ok_bind]
      simp only at h
      split at h
      · exact ih hR' h
      · cases h
        exact ⟨after', rfl, hR'⟩
      · cases h
    · cases h

theorem restOfTable_simulates {τ : Type} {other : τ → String → Reader τ} {lenient : Bool}
    (R : σ → τ → Prop)
    (hstep : ∀ s t, R s t → ∀ key chars s' rest, member s key (skipBlanks chars) = .ok (s', rest) →
      ∃ t', other t key (skipBlanks chars) = .ok (t', rest) ∧ R s' t')
    {s s' : σ} {t : τ} {chars rest : List Char} (hR : R s t)
    (h : restOfTable lenient member s chars = .ok (s', rest)) :
    ∃ t', restOfTable lenient other t chars = .ok (t', rest) ∧ R s' t' := by
  unfold restOfTable at h ⊢
  split at h
  · cases h
    exact ⟨t, rfl, hR⟩
  · exact members_simulates R hstep hR h

end Recrawl.Json
