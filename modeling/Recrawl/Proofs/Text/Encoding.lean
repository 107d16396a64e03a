import Recrawl.Bytes

/-!
The bytes of a text, one character after the other. A byte below 128 stands for the character of
that code and is no part of any other.
-/

namespace Recrawl.Bytes

theorem toList_loop (bytes : ByteArray) (i : Nat) (before : Bytes) :
    ByteArray.toList.loop bytes i before = before.reverse ++ bytes.data.toList.drop i := by
  rw [ByteArray.toList.loop]
  split
  · rename_i hi
    have hlt : i < bytes.data.toList.length := by simpa using hi
    rw [toList_loop bytes (i + 1), List.drop_eq_getElem_cons hlt]
    have hget : bytes.get! i = bytes.data.toList[i] := getElem!_pos bytes.data i hi
    simp [hget]
  · rename_i hi
    have hle : bytes.data.toList.length ≤ i := by simpa using hi
    simp [List.drop_eq_nil_of_le hle]
termination_by bytes.size - i

theorem ofString_eq (text : String) :
    ofString text = text.toList.flatMap String.utf8EncodeChar := by
  have hloop := toList_loop text.toUTF8 0 []
  have hdata : text.toUTF8.data.toList = text.toList.flatMap String.utf8EncodeChar := by
    have htext : text.toUTF8 = (String.ofList text.toList).toByteArray := by simp
    rw [htext, String.toByteArray_ofList]
    simp [List.utf8Encode]
  rw [ofString, ByteArray.toList, hloop, hdata]
  rfl

/-- A byte below 128 comes from the character of that code. -/
theorem mem_utf8EncodeChar {byte : UInt8} (hbyte : byte.toNat < 128) {c : Char}
    (h : byte ∈ String.utf8EncodeChar c) : c.toNat = byte.toNat := by
  have hlarge (n : Nat) (hlow : 128 ≤ n) (hhigh : n < 256) : byte ≠ UInt8.ofNat n := by
    rintro rfl
    rw [UInt8.toNat_ofNat_of_lt' hhigh] at hbyte
    omega
  unfold String.utf8EncodeChar at h
  simp only at h
  split at h
  · rename_i hsmall
    have hlt : c.val.toNat < 256 := by omega
    rw [List.mem_singleton.mp h, UInt8.toNat_ofNat_of_lt' hlt]
    rfl
  · exfalso
    split at h
    · simp only [List.mem_cons, List.not_mem_nil, or_false] at h
      rcases h with h | h <;> exact hlarge _ (by omega) (by omega) h
    · split at h
      · simp only [List.mem_cons, List.not_mem_nil, or_false] at h
        rcases h with h | h | h <;> exact hlarge _ (by omega) (by omega) h
      · simp only [List.mem_cons, List.not_mem_nil, or_false] at h
        rcases h with h | h | h | h <;> exact hlarge _ (by omega) (by omega) h

/-- The newline byte stands for a newline only. -/
theorem newline_mem_of_mem_ofString {text : String} (h : 0x0A ∈ ofString text) :
    '\n' ∈ text.toList := by
  rw [ofString_eq] at h
  obtain ⟨c, hc, hbyte⟩ := List.mem_flatMap.mp h
  have hcode : c.toNat = 10 := mem_utf8EncodeChar (by decide) hbyte
  have hnewline : c = '\n' := by
    rw [← Char.ofNat_toNat c, hcode]
  rwa [← hnewline]

end Recrawl.Bytes
