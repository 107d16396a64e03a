import Recrawl.Proofs.Item.Gathering
import Recrawl.Proofs.Text.Encoding

/-!
Records are read back from their lines as they were written, and a file of such lines falls into
them at its newlines.
-/

namespace Recrawl

theorem Metadata.gather?_toValue (m : Metadata) :
    Metadata.empty.gather? (m.entries.map fun (key, values) => (key, Value.strings values)) =
      some m :=
  Metadata.gather?_entries _ rfl

theorem Status.ofName?_name (status : Status) : Status.ofName? status.name = some status := by
  cases status <;> rfl

namespace Json

theorem string_writeString (expected s : String) (behind : List Char) :
    string expected (writeString s ++ behind) = .ok (s, behind) := by
  rw [string, skipBlanks_writeString, writeString_append]
  exact restOfString_flatMap_escape s behind

theorem status_writeString (found : Status) (behind : List Char) :
    status (writeString found.name ++ behind) = .ok (found, behind) := by
  rw [status, skipBlanks_writeString, writeString_append]
  simp only [restOfString_flatMap_escape, ok_bind, statusNamed, Status.ofName?_name]

theorem readsTable_record (record : Record) :
    ReadsTable RecordParts.member {}
      [("url", .string record.url), ("status", .string record.status.name),
        ("metadata", record.metadata.toValue)]
      ⟨some record.url, some record.status, some record.metadata⟩ := by
  refine ⟨⟨some record.url, none, none⟩, ?_, ⟨some record.url, some record.status, none⟩, ?_, _, ?_,
    rfl⟩
  · intro behind
    rw [compact_string, skipBlanks_writeString]
    simp [RecordParts.member, readOnce, string_writeString, Except.map]
  · intro behind
    rw [compact_string, skipBlanks_writeString]
    simp [RecordParts.member, readOnce, status_writeString, Except.map]
  · intro behind
    have hread := metadataAt_compact record.metadata.gather?_toValue 124 behind
    have hskip : skipBlanks (compact record.metadata.toValue ++ behind) =
        compact record.metadata.toValue ++ behind := by
      rw [Metadata.toValue, compact_table]
      exact skipBlanks_cons (by decide) _
    rw [hskip]
    change metadataAt (maxDepth - 1) (compact record.metadata.toValue ++ behind) = _ at hread
    simp [RecordParts.member, readOnce, hread, Except.map]

theorem record_compact (r : Record) (behind : List Char) :
    record (compact r.toValue ++ behind) = .ok (r, behind) := by
  rw [Record.toValue, compact_table, List.cons_append, List.append_assoc, List.singleton_append,
    record, skipBlanks_cons (by decide)]
  simp only [restOfTable_of_readsTable (readsTable_record r), ok_bind, required]

end Json

theorem Record.ofJson_toJson (record : Record) : Record.ofJson record.toJson = .ok record := by
  have hread := Json.record_compact record []
  rw [List.append_nil] at hread
  unfold Record.ofJson Json.complete Record.toJson Json.render
  rw [String.toList_ofList, hread]
  rfl

theorem Metadata.newline_not_mem_compact (m : Metadata) : '\n' ∉ Json.compact m.toValue := by
  refine Json.newline_not_mem_compact_table ?_
  intro member hmember
  obtain ⟨entry, -, rfl⟩ := List.mem_map.mp hmember
  exact Json.newline_not_mem_compact_strings entry.2

theorem Record.newline_not_mem_toJson (record : Record) : '\n' ∉ record.toJson.toList := by
  rw [Record.toJson, Json.render, String.toList_ofList]
  refine Json.newline_not_mem_compact_table ?_
  intro member hmember
  simp only [List.mem_cons, List.not_mem_nil, or_false] at hmember
  rcases hmember with rfl | rfl | rfl
  · exact Json.newline_not_mem_compact_string _
  · exact Json.newline_not_mem_compact_string _
  · exact record.metadata.newline_not_mem_compact

/-- The records of a text with one on each line. What follows the last newline is left out. -/
def Record.ofLines (text : String) : Except Json.Fault (List Record) :=
  ((text.toList.splitOnP (· == '\n')).dropLast.map String.ofList).mapM Record.ofJson

theorem Record.splitOnP_join_line (records : List Record) :
    (String.join (records.map Record.line)).toList.splitOnP (· == '\n') =
      records.map (fun record => record.toJson.toList) ++ [[]] := by
  induction records with
  | nil => rfl
  | cons record rest ih =>
    have htext : (String.join ((record :: rest).map Record.line)).toList =
        record.toJson.toList ++ '\n' :: (String.join (rest.map Record.line)).toList := by
      simp [String.toList_join, Record.line, String.toList_append]
    have hline : record.toJson.toList.splitOnP (· == '\n') = [record.toJson.toList] := by
      apply List.splitOnP_eq_singleton
      intro c hc
      rw [beq_eq_false_iff_ne]
      rintro rfl
      exact record.newline_not_mem_toJson hc
    rw [htext, List.splitOnP_append_cons _ _ (by decide), ih, hline]
    rfl

theorem Record.ofLines_join_line (records : List Record) :
    Record.ofLines (String.join (records.map Record.line)) = .ok records := by
  rw [Record.ofLines, Record.splitOnP_join_line, List.dropLast_concat, List.map_map]
  induction records with
  | nil => rfl
  | cons record rest ih =>
    rw [List.map_cons, List.mapM_cons, ih]
    simp only [Function.comp_apply, String.ofList_toList, Record.ofJson_toJson, ok_bind]
    rfl

/-- Records are read back from their lines as they were written. Metadata is accepted from tables
of strings and lists of strings, and what it has gathered from one is read back as well. -/
theorem persisted_roundTrip :
    (∀ record : Record, 0x0A ∉ Bytes.ofString record.toJson ∧
      Record.ofJson record.toJson = .ok record) ∧
    (∀ records : List Record,
      Record.ofLines (String.join (records.map Record.line)) = .ok records) ∧
    (∀ members m, Metadata.empty.gather? members = some m →
      Metadata.ofJson (Json.render (.table members)) = .ok m) ∧
    ∀ text m, Metadata.ofJson text = .ok m →
      (∃ members, Json.parse text = .ok (.table members) ∧
        Metadata.empty.gather? members = some m) ∧
      m.keys.Nodup ∧ (∀ key ∈ m.keys, m.values key ≠ []) ∧
      Metadata.ofJson (Json.render m.toValue) = .ok m := by
  refine ⟨?_, Record.ofLines_join_line, fun members m => Metadata.ofJson_render, ?_⟩
  · intro record
    refine ⟨?_, record.ofJson_toJson⟩
    intro hbyte
    exact record.newline_not_mem_toJson (Bytes.newline_mem_of_mem_ofString hbyte)
  · intro text m h
    exact ⟨Metadata.exists_of_ofJson h, m.nodup_keys, fun key => Metadata.values_ne_nil_of_mem_keys,
      Metadata.ofJson_render m.gather?_toValue⟩

/-- A single string, an empty list and a repeated key are gathered, and written as lists. -/
theorem persisted_roundTrip_mixedForms :
    let text := "\x7b\x22a\x22:\x22x\x22, \x22b\x22:[], \x22c\x22:[\x22w\x22], \x22a\x22:[\x22y\\n\x22]\x7d"
    let m := Metadata.ofPairs [("a", "x"), ("c", "w"), ("a", "y\n")]
    Metadata.ofJson text = .ok m ∧
      Json.render m.toValue = "\x7b\x22a\x22:[\x22x\x22,\x22y\\n\x22],\x22c\x22:[\x22w\x22]\x7d" ∧
      Metadata.ofJson (Json.render m.toValue) = .ok m := by
  intro text m
  have hsome : (Metadata.ofJson text).toOption = some m := by decide +kernel
  have hread : Metadata.ofJson text = .ok m := by
    cases hcase : Metadata.ofJson text with
    | error fault =>
      rw [hcase] at hsome
      cases hsome
    | ok read =>
      rw [hcase] at hsome
      exact congrArg Except.ok (Option.some.inj hsome)
  obtain ⟨-, -, -, hround⟩ := persisted_roundTrip
  exact ⟨hread, by decide +kernel, (hround text m hread).2.2.2⟩

end Recrawl
