import Recrawl.Proofs.Unicode.Table
import Recrawl.Proofs.Url.DomainName
import Recrawl.Url.Address

/-!
An address of 32 bits is written as four decimal bytes. That text is a name in ASCII form, and it
spells the address.
-/

namespace Recrawl.Url

namespace Ipv4

/-- The bytes of an address in decimal, first byte first. -/
def renderParts (address : Nat) : List (List Char) :=
  [24, 16, 8, 0].map fun shift => Nat.toDigits 10 (address / Nat.pow 2 shift % 256)

/-- What holds of the decimal spelling of a byte. -/
theorem of_toDigits {byte : Nat} (h : byte < 256) :
    readPart? (Nat.toDigits 10 byte) = some byte ∧ Nat.toDigits 10 byte ≠ [] ∧
      (Nat.toDigits 10 byte).all Char.isDigit = true := by
  have hall : ∀ byte < 256, readPart? (Nat.toDigits 10 byte) = some byte ∧
      Nat.toDigits 10 byte ≠ [] ∧ (Nat.toDigits 10 byte).all Char.isDigit = true := by
    decide +kernel
  exact hall byte h

theorem mem_renderParts {address : Nat} {part : List Char} (h : part ∈ renderParts address) :
    part ≠ [] ∧ ∀ c ∈ part, c.isDigit = true := by
  obtain ⟨shift, -, rfl⟩ := List.mem_map.mp h
  obtain ⟨-, hne, hdigits⟩ := of_toDigits (Nat.mod_lt (address / Nat.pow 2 shift) (by decide))
  exact ⟨hne, List.all_eq_true.mp hdigits⟩

theorem ne_dot_of_isDigit {c : Char} (h : c.isDigit = true) : c ≠ '.' := by
  rintro rfl
  exact absurd h (by decide)

theorem splitOn_render (address : Nat) : (render address).splitOn '.' = renderParts address := by
  refine List.splitOn_intercalate '.' (fun part hpart hdot => ?_) (List.cons_ne_nil _ _)
  exact ne_dot_of_isDigit ((mem_renderParts hpart).2 '.' hdot) rfl

theorem partsOf_render (address : Nat) : partsOf (render address) = renderParts address := by
  have hlast : ((renderParts address).getLast? == some []) = false := by
    rw [beq_eq_false_iff_ne]
    intro h
    exact (mem_renderParts (List.mem_of_getLast? h)).1 rfl
  have hsplit : (render address).splitOnP (· == '.') = renderParts address := splitOn_render address
  simp only [partsOf, hsplit, hlast]
  rfl

theorem isClaimed_render (address : Nat) : isClaimed (render address) = true := by
  have hpart : renderParts address ≠ [] := by simp [renderParts]
  obtain ⟨hne, hdigits⟩ := mem_renderParts (List.getLast_mem hpart)
  rw [isClaimed, partsOf_render, List.getLast?_eq_some_getLast hpart]
  simp only [Bool.or_eq_true, Bool.and_eq_true]
  refine .inl ⟨?_, List.all_eq_true.mpr hdigits⟩
  simpa using hne

theorem combine?_lt {size address : Nat} {numbers : List Nat}
    (h : combine? size numbers = some address) (hlength : numbers.length ≤ size) :
    address < Nat.pow 256 size := by
  fun_induction combine? size numbers generalizing address with
  | case1 => cases h
  | case2 size last hlast =>
    obtain rfl := Option.some.inj h
    exact hlast
  | case3 => cases h
  | case4 size part rest hrest hpart ih =>
    obtain ⟨low, hlow, rfl⟩ := Option.map_eq_some_iff.mp h
    have hlength : rest.length + 1 ≤ size := hlength
    have hbound := ih hlow (by omega)
    have hpow : Nat.pow 256 size = 256 * Nat.pow 256 (size - 1) := by
      obtain ⟨less, rfl⟩ := Nat.exists_eq_add_of_le' (Nat.le_trans (Nat.le_add_left 1 _) hlength)
      exact Nat.pow_succ'
    have hpart : (part + 1) * Nat.pow 256 (size - 1) ≤ 256 * Nat.pow 256 (size - 1) :=
      Nat.mul_le_mul_right _ hpart
    rw [Nat.succ_mul] at hpart
    omega
  | case5 => cases h

/-- Four bytes in decimal spell the address that they are the bytes of. -/
theorem parse?_render {address : Nat} (h : address < Nat.pow 256 4) :
    parse? (render address) = some address := by
  have hread : (renderParts address).mapM readPart? =
      some ([24, 16, 8, 0].map fun shift => address / Nat.pow 2 shift % 256) := by
    have hpart (shift : Nat) : readPart? (Nat.toDigits 10 (address / Nat.pow 2 shift % 256)) =
        some (address / Nat.pow 2 shift % 256) := (of_toDigits (Nat.mod_lt _ (by decide))).1
    simp only [renderParts, List.map_cons, List.map_nil, List.mapM_cons, List.mapM_nil, hpart]
    rfl
  have hfirst : address / Nat.pow 2 24 % 256 < 256 := Nat.mod_lt _ (by decide)
  have hsecond : address / Nat.pow 2 16 % 256 < 256 := Nat.mod_lt _ (by decide)
  have hthird : address / Nat.pow 2 8 % 256 < 256 := Nat.mod_lt _ (by decide)
  have hlast : address / Nat.pow 2 0 % 256 < Nat.pow 256 1 := Nat.mod_lt _ (by decide)
  rw [parse?, partsOf_render, hread, Option.bind_eq_bind, Option.bind_some]
  simp only [List.map_cons, List.map_nil, List.length_cons, List.length_nil, combine?, hfirst,
    hsecond, hthird, hlast, if_true]
  have hbytes : address / 2 ^ 24 % 256 * 256 ^ 3 + (address / 2 ^ 16 % 256 * 256 ^ 2 +
      (address / 2 ^ 8 % 256 * 256 ^ 1 + address / 2 ^ 0 % 256)) = address := by
    have hlarge : address < 256 ^ 4 := h
    omega
  exact congrArg some hbytes

theorem lt_of_parse? {name : List Char} {address : Nat} (h : parse? name = some address) :
    address < Nat.pow 256 4 := by
  unfold parse? at h
  simp only [Option.bind_eq_bind, Option.bind_eq_some_iff] at h
  obtain ⟨numbers, -, h⟩ := h
  split at h
  · rename_i hlength
    exact combine?_lt h hlength
  · cases h

end Ipv4

namespace DomainName

open Unicode

theorem joinersFit_of_ascii {label : Label} (h : (label.all fun c => decide (c.toNat < 0x80)) = true)
    (before : List Char) : joinersFit before label = true := by
  induction label generalizing before with
  | nil => rfl
  | cons c rest ih =>
    rw [List.all_cons, Bool.and_eq_true, decide_eq_true_eq] at h
    have hjoiner : c ≠ joiner := by
      rintro rfl
      exact absurd h.1 (by decide)
    have hnonJoiner : c ≠ nonJoiner := by
      rintro rfl
      exact absurd h.1 (by decide)
    simp [joinersFit, hjoiner, hnonJoiner, ih h.2]

theorem isValidLabel_of_ascii {label : Label}
    (h : (label.all fun c => decide (c.toNat < 0x80)) = true) : isValidLabel label = true := by
  cases label with
  | nil => rfl
  | cons c rest =>
    have hfit := joinersFit_of_ascii h []
    rw [List.all_cons, Bool.and_eq_true, decide_eq_true_eq] at h
    have hmark : c.toNat < 0x300 := Nat.lt_trans h.1 (by decide)
    simp [isValidLabel, isMark, Nat.not_le.mpr hmark, hfit]

/-- A name of digits and dots is its own ASCII form. -/
theorem toAscii?_of_digits {parts : List Label} (hne : parts ≠ [])
    (hdigits : ∀ part ∈ parts, ∀ c ∈ part, c.isDigit = true) :
    toAscii? (['.'].intercalate parts) = some (['.'].intercalate parts) := by
  have hchar : ∀ c : Char, c.isDigit = true →
      c.toNat < 0x80 ∧ isDenied c = false ∧ isMappedToItself c = true ∧ c ≠ '.' ∧ c ≠ 'x' := by
    intro c h
    have hascii := Text.toNat_lt_of_isDigit h
    revert h
    apply Text.of_ascii hascii
    decide
  have hascii : ∀ part ∈ parts, (part.all fun c => decide (c.toNat < 0x80)) = true :=
    fun part hpart => List.all_eq_true.mpr fun c hc =>
      decide_eq_true (hchar c (hdigits part hpart c hc)).1
  have hnormal : normalize? (['.'].intercalate parts) = some (['.'].intercalate parts) := by
    have hplain (c : Char) (hc : c ∈ ['.'].intercalate parts) :
        c.toNat < 0x80 ∧ isDenied c = false ∧ isMappedToItself c = true := by
      rcases mem_intercalate hc with rfl | ⟨part, hpart, hin⟩
      · decide
      · have hdigit := hchar c (hdigits part hpart c hin)
        exact ⟨hdigit.1, hdigit.2.1, hdigit.2.2.1⟩
    refine normalize?_eq_self (fun c hc => (hplain c hc).2.2) (fun hbeyond => ?_) fun c hc _ =>
      (hplain c hc).2.1
    rw [List.all_eq_true.mpr fun c hc => decide_eq_true (hplain c hc).1] at hbeyond
    cases hbeyond
  have hsplit : (['.'].intercalate parts).splitOn '.' = parts := by
    refine List.splitOn_intercalate '.' (fun part hpart hdot => ?_) hne
    exact (hchar '.' (hdigits part hpart '.' hdot)).2.2.2.1 rfl
  have hdecoded : parts.mapM decoded? = some parts := by
    refine mapM_eq_some_self fun part hpart => if_neg fun hmarker => ?_
    have hx : 'x' ∈ part := (List.isPrefixOf_iff_prefix.mp hmarker).subset List.mem_cons_self
    exact (hchar 'x' (hdigits part hpart 'x' hx)).2.2.2.2 rfl
  have hencoded : parts.mapM encoded? = some parts :=
    mapM_eq_some_self fun part hpart => if_pos (hascii part hpart)
  have hvalid : parts.all isValidLabel = true := by
    exact List.all_eq_true.mpr fun part hpart => isValidLabel_of_ascii (hascii part hpart)
  have hleft : (parts.any (·.any runsLeft)) = false := by
    refine List.any_eq_false.mpr fun part hpart => ?_
    rw [Bool.not_eq_true, List.any_eq_false]
    intro c hc
    rw [runsLeft, direction_of_isDigit (hdigits part hpart c hc)]
    decide
  have hdirection : (parts.any (·.any runsLeft) && !parts.all keepsDirection) = false := by
    rw [hleft, Bool.false_and]
  exact toAscii?_eq_some_iff.mpr
    ⟨_, parts, parts, hnormal, hsplit.symm ▸ hdecoded, hvalid, hdirection, hencoded, rfl⟩

end DomainName

end Recrawl.Url
