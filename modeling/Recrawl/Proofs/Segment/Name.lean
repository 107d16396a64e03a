import Recrawl.Proofs.Time.Digits
import Recrawl.Segment.Sink

/-!
The names of segments. Behind a stem without slashes they are names of files in the
directory itself, and no two segments or drafts share one.
-/

namespace Recrawl

namespace Path

theorem steps_of_plain {name : String} (hplain : '/' ∉ name.toList) (hname : name ≠ "") :
    steps name = [name] := by
  have hsplit : name.toList.splitOnP (· == '/') = [name.toList] := by
    apply List.splitOnP_eq_singleton
    rintro c hc
    simp only [beq_eq_false_iff_ne]
    rintro rfl
    exact hplain hc
  simp [steps, hsplit, hname]

/-- The last step of a path that ends in a plain name is that name. -/
theorem fileName_of_toList {path name : String} (front : List Char)
    (hpath : path.toList = front ++ '/' :: name.toList) (hplain : '/' ∉ name.toList)
    (hname : name ≠ "") : fileName path = name := by
  have hsteps : steps path = ((front.splitOnP (· == '/')).map String.ofList).filter
      (fun step => !step.isEmpty) ++ steps name := by
    unfold steps
    rw [hpath, List.splitOnP_append_cons _ _ (by decide)]
    simp
  rw [fileName, hsteps, steps_of_plain hplain hname]
  simp [List.getLastD_eq_getLast?]

theorem fileName_join {name : String} (hplain : '/' ∉ name.toList) (hname : name ≠ "")
    (directory : String) : fileName (join directory name) = name := by
  unfold join
  split
  · simp [fileName, steps_of_plain hplain hname]
  · split
    · rename_i hslash
      rw [String.endsWith_eq_endsWith_toSlice, String.Slice.endsWith_string_iff] at hslash
      obtain ⟨front, hfront⟩ := hslash
      simp only [String.copy_toSlice] at hfront
      have hpath : (directory ++ name).toList = front ++ '/' :: name.toList := by
        simp [String.toList_append, ← hfront]
      exact fileName_of_toList front hpath hplain hname
    · have hpath : (directory ++ "/" ++ name).toList = directory.toList ++ '/' :: name.toList := by
        simp [String.toList_append]
      exact fileName_of_toList _ hpath hplain hname

/-- A plain name leads to the file of that name. -/
theorem placeAmong_of_plain {name : String} (hplain : '/' ∉ name.toList) (hname : name ≠ "")
    (hhere : name ≠ ".") (hup : name ≠ "..") (holds : String → Bool) :
    placeAmong holds name =
      if '\x00' ∈ name.toList then .error .zeroInName
      else if maxNameBytes < name.utf8ByteSize then .error .nameTooLong
      else .ok name := by
  have hstart : name.startsWith "/" = false := by
    rw [String.startsWith_string_eq_false_iff]
    intro hfirst
    exact hplain (hfirst.subset (by simp))
  have hend : name.endsWith "/" = false := by
    rw [Bool.eq_false_iff, Ne, String.endsWith_eq_endsWith_toSlice, String.Slice.endsWith_string_iff]
    intro hlast
    exact hplain (by simpa using hlast.subset (by simp))
  unfold placeAmong
  simp [steps_of_plain hplain hname, leadAmong, hstart, hend, hhere, hup]

end Path

namespace Segment

variable {stem : String}

theorem fileName_inj {i j : Nat} : fileName stem i = fileName stem j ↔ i = j := by
  simp [fileName, String.append_left_inj, String.append_right_inj, Time.padded_inj]

theorem draftName_inj {i j : Nat} : draftName stem i = draftName stem j ↔ i = j := by
  rw [draftName, draftName, String.append_left_inj, fileName_inj]

/-- No draft has the name of a complete segment. -/
theorem draftName_ne_fileName (i j : Nat) : draftName stem i ≠ fileName stem j := by
  intro h
  have hlast := congrArg (fun name : String => name.toList.getLast?) h
  simp only [draftName, fileName, String.toList_append, List.getLast?_append] at hlast
  simp at hlast

theorem plain_fileName (hstem : '/' ∉ stem.toList) (i : Nat) :
    '/' ∉ (fileName stem i).toList := by
  have hdigits : '/' ∉ (Time.padded 5 i).toList := by
    intro h
    exact absurd (Time.isDigit_of_mem_padded h) (by decide)
  simp [fileName, String.toList_append, hstem, hdigits]

theorem plain_draftName (hstem : '/' ∉ stem.toList) (i : Nat) :
    '/' ∉ (draftName stem i).toList := by
  simp [draftName, String.toList_append, plain_fileName hstem i]

theorem six_le_length_fileName (stem : String) (i : Nat) : 6 ≤ (fileName stem i).length := by
  have hsuffix : ".jsonl".length = 6 := rfl
  simp only [fileName, String.length_append]
  omega

/-- The name of a segment is that of a file, and no step to a directory. -/
theorem ne_of_six_le_length {name : String} (h : 6 ≤ name.length) :
    name ≠ "" ∧ name ≠ "." ∧ name ≠ ".." := by
  refine ⟨?_, ?_, ?_⟩
  · rintro rfl
    exact absurd h (by decide)
  · rintro rfl
    exact absurd h (by decide)
  · rintro rfl
    exact absurd h (by decide)

theorem fileName_join (hstem : '/' ∉ stem.toList) (i : Nat) (directory : String) :
    Path.fileName (Path.join directory (fileName stem i)) = fileName stem i :=
  Path.fileName_join (plain_fileName hstem i)
    (ne_of_six_le_length (six_le_length_fileName stem i)).1 directory

/-- If a draft can be placed, it is placed under its own name, and so is the complete segment,
whatever else there is in the directory. -/
theorem place_of_place_draftName (hstem : '/' ∉ stem.toList) {i : Nat} {d : Directory String}
    {name : String} (h : d.place (draftName stem i) = .ok name) (other : Directory String) :
    name = draftName stem i ∧ other.place (draftName stem i) = .ok (draftName stem i) ∧
      other.place (fileName stem i) = .ok (fileName stem i) := by
  have hlength := six_le_length_fileName stem i
  have hdraft : 6 ≤ (draftName stem i).length := by
    simp only [draftName, String.length_append]
    omega
  obtain ⟨hname, hhere, hup⟩ := ne_of_six_le_length hlength
  obtain ⟨hname', hhere', hup'⟩ := ne_of_six_le_length hdraft
  unfold Directory.place at h ⊢
  rw [Path.placeAmong_of_plain (plain_draftName hstem i) hname' hhere' hup'] at h ⊢
  rw [Path.placeAmong_of_plain (plain_fileName hstem i) hname hhere hup]
  -- The draft name is the longer one, and has all characters of the other.
  have hchars : (draftName stem i).toList = (fileName stem i).toList ++ ".tmp".toList :=
    String.toList_append
  have hsize : (fileName stem i).utf8ByteSize ≤ (draftName stem i).utf8ByteSize := by
    simp only [draftName, String.utf8ByteSize_append]
    omega
  split at h
  · cases h
  · rename_i hzero
    split at h
    · cases h
    · rename_i hlong
      cases h
      have hzero' : '\x00' ∉ (fileName stem i).toList := by
        intro hmem
        exact hzero (hchars ▸ List.mem_append_left _ hmem)
      have hlong' : ¬ Path.maxNameBytes < (fileName stem i).utf8ByteSize := by omega
      rw [if_neg hzero, if_neg hlong, if_neg hzero', if_neg hlong']
      exact ⟨rfl, rfl, rfl⟩

end Segment

end Recrawl
