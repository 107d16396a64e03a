import Recrawl.Item.Json
import Recrawl.Proofs.Json.Tables
import Recrawl.Proofs.Metadata.Entries

/-!
Metadata is read back from its JSON as it was written. It is also read from tables that it never
writes, with single strings, empty lists and repeated keys; whatever is accepted has gathered the
values of each key in order.
-/

namespace Recrawl

namespace Metadata

/-- Adds values to those of a key. -/
def addAll (m : Metadata) (key : String) (values : List String) : Metadata :=
  values.foldl (fun m value => m.add key value) m

/-- The metadata of the members of a table, behind what was gathered so far. -/
def gather? (m : Metadata) (members : List (String × Value)) : Option Metadata :=
  members.foldlM (fun m member => (Json.oneOrMany? member.2).map (m.addAll member.1)) m

theorem upsert_of_not_mem {key : String} {change : List String → List String}
    {entries : List (String × List String)} (h : key ∉ entries.map Prod.fst) :
    upsert key change entries = entries ++ [(key, change [])] := by
  induction entries with
  | nil => rfl
  | cons entry rest ih =>
    obtain ⟨first, values⟩ := entry
    simp only [List.map_cons, List.mem_cons, not_or] at h
    rw [upsert, if_neg (Ne.symm h.1), ih h.2, List.cons_append]

theorem upsert_append_of_not_mem {key : String} {change : List String → List String}
    {entries : List (String × List String)} (h : key ∉ entries.map Prod.fst)
    (values : List String) :
    upsert key change (entries ++ [(key, values)]) = entries ++ [(key, change values)] := by
  induction entries with
  | nil => simp [upsert]
  | cons entry rest ih =>
    obtain ⟨first, others⟩ := entry
    simp only [List.map_cons, List.mem_cons, not_or] at h
    rw [List.cons_append, upsert, if_neg (Ne.symm h.1), ih h.2, List.cons_append]

/-- Values that are added to the last key stand behind those that it has. -/
theorem entries_addAll_last {m : Metadata} {front : List (String × List String)} {key : String}
    {values : List String} (hkey : key ∉ front.map Prod.fst)
    (hm : m.entries = front ++ [(key, values)]) (more : List String) :
    (m.addAll key more).entries = front ++ [(key, values ++ more)] := by
  induction more generalizing m values with
  | nil => simpa [addAll] using hm
  | cons value more ih =>
    have hadd : (m.add key value).entries = front ++ [(key, values ++ [value])] := by
      simp only [add]
      rw [hm, upsert_append_of_not_mem hkey]
    have hrest := ih hadd
    rw [List.append_assoc, List.singleton_append] at hrest
    exact hrest

/-- Values that are added to a new key make the last entry. -/
theorem entries_addAll {m : Metadata} {key : String} (hkey : key ∉ m.keys) {values : List String}
    (hvalues : values ≠ []) : (m.addAll key values).entries = m.entries ++ [(key, values)] := by
  cases values with
  | nil => exact absurd rfl hvalues
  | cons value more =>
    have hadd : (m.add key value).entries = m.entries ++ [(key, [value])] :=
      upsert_of_not_mem hkey
    exact entries_addAll_last hkey hadd more

theorem oneOrMany?_strings (values : List String) :
    Json.oneOrMany? (.strings values) = some values := by
  simp only [Value.strings, Json.oneOrMany?]
  induction values with
  | nil => rfl
  | cons value rest ih => simp [List.mapM_cons, ih]

/-- Metadata is gathered from its own entries. -/
theorem gather?_entries {m : Metadata} (front : Metadata) {rest : List (String × List String)}
    (h : front.entries ++ rest = m.entries) :
    front.gather? (rest.map fun (key, values) => (key, Value.strings values)) = some m := by
  induction rest generalizing front with
  | nil =>
    rw [List.append_nil] at h
    rw [ext_entries h]
    rfl
  | cons entry rest ih =>
    obtain ⟨key, values⟩ := entry
    have hkey : key ∉ front.keys := by
      have hnodup := m.nodup_keys
      rw [← h, List.map_append, List.map_cons] at hnodup
      intro hmem
      exact (List.nodup_append.mp hnodup).2.2 key hmem key List.mem_cons_self rfl
    have hvalues : values ≠ [] := m.values_ne_nil (key, values) (h ▸ by simp)
    have hadd := entries_addAll hkey hvalues
    rw [List.map_cons, gather?, List.foldlM_cons]
    simp only [oneOrMany?_strings, Option.map_some, Option.bind_eq_bind, Option.bind_some]
    refine ih (front.addAll key values) ?_
    rw [hadd, List.append_assoc, List.singleton_append, h]

end Metadata

namespace Json

theorem oneOrMany?_eq_some {value : Value} {values : List String}
    (h : oneOrMany? value = some values) :
    (∃ s, value = .string s) ∨ value = .strings values := by
  cases value with
  | string s => exact .inl ⟨s, rfl⟩
  | list items =>
    right
    simp only [oneOrMany?] at h
    simp only [Value.strings, Value.list.injEq]
    induction items generalizing values with
    | nil =>
      cases h
      rfl
    | cons item rest ih =>
      rw [List.mapM_cons] at h
      cases item with
      | string s =>
        simp only [Option.bind_eq_bind, Option.bind_some, Option.pure_def,
          Option.bind_eq_some_iff, Option.some.injEq] at h
        obtain ⟨others, hothers, rfl⟩ := h
        rw [ih hothers, List.map_cons]
      | _ => cases h
  | _ => cases h

theorem value_compact {v : Value} {values : List String} (h : oneOrMany? v = some values)
    (depth : Nat) (behind : List Char) :
    value (depth + 1) (skipBlanks (compact v ++ behind)) = .ok (v, behind) := by
  unfold value
  rw [skipBlanks_skipBlanks]
  rcases oneOrMany?_eq_some h with ⟨s, rfl⟩ | rfl
  · rw [compact_string, skipBlanks_writeString, valueAt_writeString]
  · have hblanks : skipBlanks (compact (.strings values) ++ behind) =
        compact (.strings values) ++ behind := by
      rw [compact_strings]
      exact skipBlanks_cons (by decide) _
    rw [hblanks, valueAt_strings]

theorem readsTable_of_gather? (depth : Nat) {ms : List (String × Value)} {m m' : Metadata}
    (h : m.gather? ms = some m') : ReadsTable (metadataMember (depth + 1)) m ms m' := by
  induction ms generalizing m with
  | nil => exact Option.some.inj h
  | cons first ms ih =>
    obtain ⟨key, v⟩ := first
    rw [Metadata.gather?, List.foldlM_cons] at h
    cases hvalues : oneOrMany? v with
    | none => simp [hvalues] at h
    | some values =>
      simp only [hvalues, Option.map_some, Option.bind_eq_bind, Option.bind_some] at h
      refine ⟨m.addAll key values, ?_, ih h⟩
      intro behind
      unfold metadataMember
      rw [value_compact hvalues, ok_bind]
      simp only [hvalues]
      rfl

/-- A table of strings and lists of strings is read as what it gathers. -/
theorem metadataAt_compact {ms : List (String × Value)} {m : Metadata}
    (h : Metadata.empty.gather? ms = some m) (depth : Nat) (behind : List Char) :
    metadataAt (depth + 2) (compact (.table ms) ++ behind) = .ok (m, behind) := by
  rw [compact_table, List.cons_append, List.append_assoc, List.singleton_append, metadataAt,
    skipBlanks_cons (by decide)]
  exact restOfTable_of_readsTable (readsTable_of_gather? depth h) behind

theorem wrongKind_ne_ok {α : Type} (expected : String) (chars : List Char) (a : α) :
    wrongKind expected chars ≠ .ok a := by
  unfold wrongKind
  repeat' split
  all_goals simp

/-- The member of a table of any values, behind those read so far (latest first). -/
def tableMember (depth : Nat) (read : List (String × Value)) (key : String) :
    Reader (List (String × Value)) := fun chars =>
  (valueAt false depth chars).map fun (v, rest) => ((key, v) :: read, rest)

/-- The metadata has gathered the members that were read, the latest of which comes first. -/
def Gathers (m : Metadata) (read : List (String × Value)) : Prop :=
  Metadata.empty.gather? read.reverse = some m

theorem gathers_nil : Gathers Metadata.empty [] := rfl

theorem Gathers.member {depth : Nat} {m : Metadata} {read : List (String × Value)}
    (h : Gathers m read) {key : String} {chars rest : List Char} {m' : Metadata}
    (hmember : metadataMember depth m key (skipBlanks chars) = .ok (m', rest)) :
    ∃ read', tableMember depth read key (skipBlanks chars) = .ok (read', rest) ∧
      Gathers m' read' := by
  unfold metadataMember at hmember
  obtain ⟨⟨found, behind⟩, hfound, hmember⟩ := exists_of_bind_eq_ok hmember
  rw [value, skipBlanks_skipBlanks] at hfound
  simp only at hmember
  split at hmember
  · rename_i values hvalues
    cases hmember
    refine ⟨(key, found) :: read, ?_, ?_⟩
    · rw [tableMember, hfound]
      rfl
    · have hbefore : read.reverse.foldlM (fun m member =>
          (oneOrMany? member.2).map (m.addAll member.1)) Metadata.empty = some m := h
      rw [Gathers, List.reverse_cons, Metadata.gather?, List.foldlM_append, hbefore]
      simp [hvalues, Metadata.addAll]
  · cases hmember

/-- Metadata that is accepted comes from a table of strings and lists of strings, and has gathered
their values. -/
theorem exists_of_metadataAt {chars rest : List Char} {m : Metadata} {depth : Nat}
    (h : metadataAt (depth + 1) chars = .ok (m, rest)) :
    ∃ ms, value (depth + 1) chars = .ok (.table ms, rest) ∧
      Metadata.empty.gather? ms = some m := by
  unfold metadataAt at h
  split at h
  · rename_i text hbrace
    have hstep : ∀ m read, Gathers m read → ∀ key chars m' rest,
        metadataMember depth m key (skipBlanks chars) = .ok (m', rest) →
        ∃ read', tableMember depth read key (skipBlanks chars) = .ok (read', rest) ∧
          Gathers m' read' :=
      fun m read hread key chars m' rest => hread.member
    obtain ⟨read, htable, hgather⟩ := restOfTable_simulates Gathers hstep gathers_nil h
    refine ⟨read.reverse, ?_, hgather⟩
    unfold value
    rw [hbrace, valueAt]
    change (restOfTable false (tableMember depth) [] text).map _ = _
    rw [htable]
    rfl
  · exact absurd h (wrongKind_ne_ok _ _ _)

end Json

/-- Accepted metadata is that of a JSON table whose values are strings and lists of strings. -/
theorem Metadata.exists_of_ofJson {text : String} {m : Metadata}
    (h : Metadata.ofJson text = .ok m) :
    ∃ ms, Json.parse text = .ok (.table ms) ∧ Metadata.empty.gather? ms = some m := by
  unfold Metadata.ofJson Json.complete at h
  obtain ⟨⟨found, rest⟩, hfound, hend⟩ := exists_of_bind_eq_ok h
  have hread : Json.metadataAt (126 + 1) text.toList = .ok (found, rest) := hfound
  obtain ⟨ms, hvalue, hgather⟩ := Json.exists_of_metadataAt hread
  unfold Json.parse Json.complete
  change (if _ then _ else _) = _ at hend
  split at hend
  · rename_i hblank
    cases hend
    refine ⟨ms, ?_, hgather⟩
    change (Json.value (126 + 1) text.toList >>= _) = _
    rw [hvalue, ok_bind]
    exact if_pos hblank
  · cases hend

/-- Such a table is accepted in its compact form. -/
theorem Metadata.ofJson_render {ms : List (String × Value)} {m : Metadata}
    (h : Metadata.empty.gather? ms = some m) :
    Metadata.ofJson (Json.render (.table ms)) = .ok m := by
  have hread := Json.metadataAt_compact h 125 []
  rw [List.append_nil] at hread
  unfold Metadata.ofJson Json.complete Json.render
  rw [String.toList_ofList]
  change (Json.metadataAt (125 + 2) _ >>= _) = _
  rw [hread]
  rfl

end Recrawl
