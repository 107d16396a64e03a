import Mathlib.Data.List.Forall2
import Recrawl.Proofs.Text.Ascii
import Recrawl.Proofs.Unicode.Table
import Recrawl.Proofs.Url.Punycode
import Recrawl.Url.DomainName

/-!
The ASCII form of a name is its own ASCII form, as long as each of its labels can be compared: it is
in lower case, and what stands behind the marker can be decoded.
-/

namespace Recrawl.Url

namespace Punycode

/-- The characters that decoding places are beyond ASCII. -/
theorem Decoding.mem_place {state next : Decoding} {number : Nat}
    (h : state.place number = some next) (hcode : 0x80 ≤ state.code) :
    0x80 ≤ next.code ∧ ∀ d ∈ next.text, d.toNat < 0x80 → d ∈ state.text := by
  have hlarge : 0x80 ≤ state.code + (state.index + number) / (state.text.length + 1) :=
    Nat.le_trans hcode (Nat.le_add_right _ _)
  by_cases hvalid : (state.code + (state.index + number) / (state.text.length + 1)).isValidChar
  · obtain rfl := Option.some.inj ((dif_pos hvalid).symm.trans h)
    refine ⟨hlarge, fun d hd hascii => ?_⟩
    rcases List.mem_append.mp hd with hd | hd
    · exact List.mem_of_mem_take hd
    · rcases List.mem_cons.mp hd with rfl | hd
      · exact absurd hascii (Nat.not_lt.mpr hlarge)
      · exact List.mem_of_mem_drop hd
  · cases (dif_neg hvalid).symm.trans h

theorem Decoding.mem_step {state next : Decoding} {c : Char} (h : state.step c = some next)
    (hcode : 0x80 ≤ state.code) :
    0x80 ≤ next.code ∧ ∀ d ∈ next.text, d.toNat < 0x80 → d ∈ state.text := by
  cases hvalue : digitValue? c with
  | none =>
    unfold step at h
    rw [hvalue] at h
    cases h
  | some value =>
    rw [state.step_of_digitValue? hvalue] at h
    split at h
    · exact mem_place h hcode
    · obtain rfl := Option.some.inj h
      exact ⟨hcode, fun d hd _ => hd⟩

theorem Decoding.mem_foldlM {state last : Decoding} {digits : List Char}
    (h : digits.foldlM step state = some last) (hcode : 0x80 ≤ state.code) :
    ∀ d ∈ last.text, d.toNat < 0x80 → d ∈ state.text := by
  induction digits generalizing state with
  | nil =>
    obtain rfl := Option.some.inj h
    exact fun d hd _ => hd
  | cons c rest ih =>
    rw [List.foldlM_cons] at h
    cases hstep : state.step c with
    | none => rw [hstep] at h; cases h
    | some next =>
      rw [hstep] at h
      obtain ⟨hnext, hmem⟩ := mem_step hstep hcode
      exact fun d hd hascii => hmem d (ih h hnext d hd hascii) hascii

/-- The ASCII characters of a text stand in its encoded form. -/
theorem mem_of_decode? {encoded text : List Char} (h : decode? encoded = some text) {c : Char}
    (hc : c ∈ text) (hascii : c.toNat < 0x80) : c ∈ encoded := by
  have hbasic : ∀ d ∈ (splitEncoded encoded).1, d ∈ encoded := by
    intro d hd
    unfold splitEncoded at hd
    simp only at hd
    split at hd
    · cases hd
    · exact List.mem_of_mem_take hd
  unfold decode? at h
  simp only [Option.bind_eq_bind, Option.bind_eq_some_iff] at h
  obtain ⟨last, hlast, hposition⟩ := h
  split at hposition
  · obtain rfl := Option.some.inj hposition
    exact hbasic c (Decoding.mem_foldlM hlast (Nat.le_refl _) c hc hascii)
  · cases hposition

theorem toNat_lt_of_isDigitChar {c : Char} (h : isDigitChar c = true) : c.toNat < 0x80 := by
  simp only [isDigitChar, Bool.or_eq_true, Bool.and_eq_true, decide_eq_true_eq] at h
  rcases h with ⟨-, h⟩ | ⟨-, h⟩
  · exact Nat.lt_of_le_of_lt h (by decide)
  · exact Nat.lt_of_le_of_lt h (by decide)

/-- The encoded form of a text has its ASCII characters, small letters, digits and hyphens. -/
theorem mem_encode {text : List Char} {c : Char} (h : c ∈ encode text) :
    c.toNat < 0x80 ∧ (c ∈ text ∨ isDigitChar c = true ∨ c = '-') := by
  have hbasic : ∀ {c : Char}, c ∈ below 0x80 text → c.toNat < 0x80 ∧ c ∈ text := by
    intro c hc
    obtain ⟨hmem, hascii⟩ := List.mem_filter.mp hc
    exact ⟨of_decide_eq_true hascii, hmem⟩
  rw [encode_eq] at h
  split at h
  · have hc := isDigitChar_of_mem_digitsOf h
    exact ⟨toNat_lt_of_isDigitChar hc, .inr (.inl hc)⟩
  · rcases List.mem_append.mp h with h | h
    · exact ⟨(hbasic h).1, .inl (hbasic h).2⟩
    · rcases List.mem_cons.mp h with rfl | h
      · exact ⟨by decide, .inr (.inr rfl)⟩
      · have hc := isDigitChar_of_mem_digitsOf h
        exact ⟨toNat_lt_of_isDigitChar hc, .inr (.inl hc)⟩

end Punycode

namespace DomainName

open Unicode

/-- What Punycode writes stands in a name as it is. -/
theorem isPlain_of_isDigitChar {c : Char} (h : Punycode.isDigitChar c = true) :
    isDenied c = false ∧ isMappedToItself c = true ∧ c ≠ '.' := by
  have hascii := Punycode.toNat_lt_of_isDigitChar h
  revert h
  apply Text.of_ascii hascii
  decide

/-- A label that is in lower case and, behind the marker, can be decoded. -/
def isComparable (label : Label) : Bool := label.all isMappedToItself && (decoded? label).isSome

theorem decodeLabel?_eq_some {encoded : List Char} {label : Label}
    (h : decodeLabel? encoded = some label) :
    Punycode.decode? encoded = some label ∧ (label.all fun c => c.toNat < 0x80) = false := by
  unfold decodeLabel? at h
  split at h
  · cases h
  · split at h
    · cases h
    · rename_i decoded hdecoded
      split at h
      · cases h
      · rename_i hascii
        split at h
        · obtain rfl := Option.some.inj h
          exact ⟨hdecoded, by simpa using hascii⟩
        · cases h

/-- What is decoded is beyond ASCII, so that an ASCII label is the label itself. -/
theorem eq_of_decoded?_of_ascii {label decoded : Label} (h : decoded? label = some decoded)
    (hascii : (decoded.all fun c => c.toNat < 0x80) = true) : decoded = label := by
  unfold decoded? at h
  split at h
  · rw [(decodeLabel?_eq_some h).2] at hascii
    cases hascii
  · exact (Option.some.inj h).symm

theorem decoded?_marker (encoded : List Char) :
    decoded? (marker ++ encoded) = decodeLabel? encoded := by
  have hmarker : marker.isPrefixOf (marker ++ encoded) = true := by
    rw [List.isPrefixOf_iff_prefix]
    exact List.prefix_append _ _
  unfold decoded?
  rw [if_pos hmarker]
  rfl

/-- A label comes from its own encoded form, unless that one cannot be decoded. -/
theorem decoded?_of_encoded? {label decoded encoded : Label} (hdecoded : decoded? label = some decoded)
    (hencoded : encoded? decoded = some encoded) (hsome : (decoded? encoded).isSome = true) :
    decoded? encoded = some decoded := by
  unfold encoded? at hencoded
  split at hencoded
  · rename_i hascii
    obtain rfl := Option.some.inj hencoded
    obtain rfl := eq_of_decoded?_of_ascii hdecoded hascii
    exact hdecoded
  · split at hencoded
    · cases hencoded
    · obtain rfl := Option.some.inj hencoded
      rw [decoded?_marker] at hsome ⊢
      obtain ⟨again, hagain⟩ := Option.isSome_iff_exists.mp hsome
      have hdecode := (decodeLabel?_eq_some hagain).1
      rw [Punycode.decode?_encode] at hdecode
      rw [hagain, hdecode]

theorem mem_of_decoded? {label decoded : Label} (h : decoded? label = some decoded) {c : Char}
    (hc : c ∈ decoded) (hascii : c.toNat < 0x80) : c ∈ label := by
  unfold decoded? at h
  split at h
  · have hdecode := (decodeLabel?_eq_some h).1
    exact List.mem_of_mem_drop (Punycode.mem_of_decode? hdecode hc hascii)
  · obtain rfl := Option.some.inj h
    exact hc

theorem mem_of_encoded? {label encoded : Label} (h : encoded? label = some encoded) {c : Char}
    (hc : c ∈ encoded) :
    c.toNat < 0x80 ∧ (c ∈ label ∨ Punycode.isDigitChar c = true ∨ c = '-') := by
  unfold encoded? at h
  split at h
  · rename_i hascii
    obtain rfl := Option.some.inj h
    exact ⟨of_decide_eq_true (List.all_eq_true.mp hascii c hc), .inl hc⟩
  · split at h
    · cases h
    · obtain rfl := Option.some.inj h
      rcases List.mem_append.mp hc with hc | hc
      · have hmarker : (marker.all fun c =>
            decide (c.toNat < 0x80) && (Punycode.isDigitChar c || c == '-')) = true := rfl
        have hc := List.all_eq_true.mp hmarker c hc
        rw [Bool.and_eq_true, decide_eq_true_eq, Bool.or_eq_true, beq_iff_eq] at hc
        exact ⟨hc.1, .inr hc.2⟩
      · exact Punycode.mem_encode hc

/-- A label beyond ASCII can be read back if it is in comparison form and its encoding is not too
long to be decoded. -/
theorem isSome_decodeLabel?_encode_iff {label : Label}
    (hbeyond : (label.all fun c => c.toNat < 0x80) = false) :
    (decodeLabel? (Punycode.encode label)).isSome = true ↔
      (Punycode.encode label).length ≤ decodeLimit ∧ label.all isMappedToItself = true ∧
        composed label = label := by
  have hne : (Punycode.encode label).isEmpty = false := by
    rw [List.isEmpty_eq_false_iff]
    intro hnil
    have hdecode := Punycode.decode?_encode label
    rw [hnil] at hdecode
    obtain rfl : [] = label := Option.some.inj hdecode
    cases hbeyond
  have hascii : ((Punycode.encode label).any fun c => decide (0x80 ≤ c.toNat)) = false := by
    refine List.any_eq_false.mpr fun c hc => ?_
    simpa using (Punycode.mem_encode hc).1
  unfold decodeLabel?
  rw [hne, hascii, Bool.false_or, Bool.or_false, Punycode.decode?_encode]
  simp only [hbeyond, decide_eq_true_eq]
  by_cases hlength : (Punycode.encode label).length ≤ decodeLimit
  · rw [if_neg (Nat.not_lt.mpr hlength)]
    simp only [hlength, true_and, Bool.false_eq_true, if_false]
    rw [← beq_iff_eq (a := composed label), ← Bool.and_eq_true]
    split
    · rename_i hform
      exact iff_of_true rfl hform
    · rename_i hform
      exact iff_of_false Bool.false_ne_true hform
  · simp [hlength, Nat.lt_of_not_le hlength]

/-- What is needed to read a label back from its encoding. -/
structure IsReadBack (label : Label) : Prop where
  mapped : label.all isMappedToItself = true
  composed : (label.all fun c => c.toNat < 0x80) = false → composed label = label
  length_le : (label.all fun c => c.toNat < 0x80) = false →
    (Punycode.encode label).length ≤ decodeLimit

/-- An encoded label can be compared exactly if its label is in comparison form and not too long. -/
theorem isComparable_iff_of_encoded? {label decoded encoded : Label}
    (hdecoded : decoded? label = some decoded) (hencoded : encoded? decoded = some encoded) :
    isComparable encoded = true ↔ IsReadBack decoded := by
  unfold encoded? at hencoded
  split at hencoded
  · rename_i hascii
    obtain rfl := Option.some.inj hencoded
    obtain rfl := eq_of_decoded?_of_ascii hdecoded hascii
    rw [isComparable, hdecoded, Option.isSome_some, Bool.and_true]
    refine ⟨fun hmapped => ⟨hmapped, fun hbeyond => ?_, fun hbeyond => ?_⟩, fun h => h.mapped⟩
    · rw [hascii] at hbeyond
      cases hbeyond
    · rw [hascii] at hbeyond
      cases hbeyond
  · rename_i hbeyond
    rw [Bool.not_eq_true] at hbeyond
    split at hencoded
    · cases hencoded
    · obtain rfl := Option.some.inj hencoded
      rw [isComparable, decoded?_marker, Bool.and_eq_true, isSome_decodeLabel?_encode_iff hbeyond]
      constructor
      · rintro ⟨-, hlength, hmapped, hcomposed⟩
        exact ⟨hmapped, fun _ => hcomposed, fun _ => hlength⟩
      · intro h
        refine ⟨List.all_eq_true.mpr fun c hc => ?_, h.length_le hbeyond, h.mapped,
          h.composed hbeyond⟩
        rcases List.mem_append.mp hc with hc | hc
        · exact List.all_eq_true.mp (show marker.all isMappedToItself = true by decide) c hc
        · obtain ⟨-, hmem | hdigit | rfl⟩ := Punycode.mem_encode hc
          · exact List.all_eq_true.mp h.mapped c hmem
          · exact (isPlain_of_isDigitChar hdigit).2.1
          · decide

theorem mem_of_mem_splitOn {text part : List Char} {c sep : Char} (hpart : part ∈ text.splitOn sep)
    (hc : c ∈ part) : c ∈ text ∧ c ≠ sep := by
  induction text generalizing part with
  | nil =>
    obtain rfl : part = [] := by simpa using hpart
    cases hc
  | cons first rest ih =>
    rw [List.splitOn_cons_eq_if_modifyHead] at hpart
    split at hpart
    · rcases List.mem_cons.mp hpart with rfl | hpart
      · cases hc
      · exact ⟨List.mem_cons_of_mem _ (ih hpart hc).1, (ih hpart hc).2⟩
    · rename_i hfirst
      cases hsplit : rest.splitOn sep with
      | nil => exact absurd hsplit (List.splitOn_ne_nil _ _)
      | cons head tail =>
        rw [hsplit] at hpart
        rcases List.mem_cons.mp hpart with rfl | hpart
        · rcases List.mem_cons.mp hc with rfl | hc
          · exact ⟨List.mem_cons_self, fun heq => hfirst (beq_iff_eq.mpr heq)⟩
          · have hrest := ih (hsplit ▸ List.mem_cons_self) hc
            exact ⟨List.mem_cons_of_mem _ hrest.1, hrest.2⟩
        · have hrest := ih (hsplit ▸ List.mem_cons_of_mem _ hpart) hc
          exact ⟨List.mem_cons_of_mem _ hrest.1, hrest.2⟩

theorem mem_intercalate {parts : List (List Char)} {c sep : Char}
    (h : c ∈ [sep].intercalate parts) : c = sep ∨ ∃ part ∈ parts, c ∈ part := by
  induction parts with
  | nil => cases h
  | cons part rest ih =>
    cases rest with
    | nil =>
      refine .inr ⟨part, List.mem_cons_self, ?_⟩
      simpa using h
    | cons next rest =>
      rw [List.intercalate_cons_cons] at h
      rcases List.mem_append.mp h with h | h
      · rcases List.mem_append.mp h with h | h
        · exact .inr ⟨part, List.mem_cons_self, h⟩
        · exact .inl (List.mem_singleton.mp h)
      · rcases ih h with h | ⟨other, hother, hc⟩
        · exact .inl h
        · exact .inr ⟨other, List.mem_cons_of_mem _ hother, hc⟩

theorem exists_of_mapM_cons {α β : Type} {f : α → Option β} {x : α} {xs : List α} {ys : List β}
    (h : (x :: xs).mapM f = some ys) :
    ∃ y rest, f x = some y ∧ xs.mapM f = some rest ∧ ys = y :: rest := by
  rw [List.mapM_cons] at h
  cases hx : f x with
  | none => rw [hx] at h; cases h
  | some y =>
    cases hxs : xs.mapM f with
    | none => rw [hx, hxs] at h; cases h
    | some rest =>
      rw [hx, hxs] at h
      exact ⟨y, rest, rfl, rfl, (Option.some.inj h).symm⟩

theorem mapM_eq_some_map {α β : Type} {f : α → Option β} {g : α → β} {xs : List α}
    (h : ∀ x ∈ xs, f x = some (g x)) : xs.mapM f = some (xs.map g) := by
  induction xs with
  | nil => rfl
  | cons x rest ih =>
    rw [List.mapM_cons, h x List.mem_cons_self, ih fun y hy => h y (List.mem_cons_of_mem _ hy)]
    rfl

theorem mapM_eq_some_self {α : Type} {f : α → Option α} {xs : List α}
    (h : ∀ x ∈ xs, f x = some x) : xs.mapM f = some xs := by
  have hmap : xs.mapM f = some (xs.map id) := mapM_eq_some_map h
  rwa [List.map_id] at hmap

/-- Each label that is written is the encoding of one that is read off a label of the name. -/
theorem forall₂_encoded {labels decoded encoded : List Label}
    (hdecoded : labels.mapM decoded? = some decoded)
    (hencoded : decoded.mapM encoded? = some encoded) :
    List.Forall₂ (fun label written => ∃ source ∈ labels, decoded? source = some label ∧
      encoded? label = some written) decoded encoded := by
  induction labels generalizing decoded encoded with
  | nil =>
    obtain rfl := Option.some.inj hdecoded
    obtain rfl := Option.some.inj hencoded
    exact .nil
  | cons source labels ih =>
    obtain ⟨label, others, hlabel, hothers, rfl⟩ := exists_of_mapM_cons hdecoded
    obtain ⟨written, rest, hwritten, hrest, rfl⟩ := exists_of_mapM_cons hencoded
    refine .cons ⟨source, List.mem_cons_self, hlabel, hwritten⟩ ((ih hothers hrest).imp ?_)
    rintro other text ⟨origin, horigin, hread⟩
    exact ⟨origin, List.mem_cons_of_mem _ horigin, hread⟩

/-- What is read off the encoded labels is what they were encoded from. -/
theorem mapM_decoded?_of_encoded {labels decoded encoded : List Label}
    (hdecoded : labels.mapM decoded? = some decoded) (hencoded : decoded.mapM encoded? = some encoded)
    (hsome : ∀ label ∈ encoded, (decoded? label).isSome = true) :
    encoded.mapM decoded? = some decoded := by
  have hpairs := forall₂_encoded hdecoded hencoded
  clear hdecoded hencoded
  induction hpairs with
  | nil => rfl
  | cons hfirst _ ih =>
    obtain ⟨source, -, hread, hwritten⟩ := hfirst
    have hagain := decoded?_of_encoded? hread hwritten (hsome _ List.mem_cons_self)
    rw [List.mapM_cons, hagain, ih fun label hlabel => hsome label (List.mem_cons_of_mem _ hlabel)]
    rfl

/-- Every character of an encoded label is one of its label or one that Punycode writes. -/
theorem mem_of_mapM {labels decoded encoded : List Label}
    (hdecoded : labels.mapM decoded? = some decoded) (hencoded : decoded.mapM encoded? = some encoded)
    {written : Label} (hwritten : written ∈ encoded) {c : Char} (hc : c ∈ written) :
    c.toNat < 0x80 ∧
      ((∃ label ∈ labels, c ∈ label) ∨ Punycode.isDigitChar c = true ∨ c = '-') := by
  have hpairs := forall₂_encoded hdecoded hencoded
  clear hdecoded hencoded
  induction hpairs with
  | nil => cases hwritten
  | cons hfirst _ ih =>
    rcases List.mem_cons.mp hwritten with rfl | hwritten
    · obtain ⟨source, hsource, hread, hencoded⟩ := hfirst
      obtain ⟨hascii, hmem | hother⟩ := mem_of_encoded? hencoded hc
      · exact ⟨hascii, .inl ⟨source, hsource, mem_of_decoded? hread hmem hascii⟩⟩
      · exact ⟨hascii, .inr hother⟩
    · exact ih hwritten

/-- What a name goes through on the way to its ASCII form. -/
theorem toAscii?_eq_some_iff {name ascii : List Char} : toAscii? name = some ascii ↔
    ∃ chars decoded encoded, normalize? name = some chars ∧
      (chars.splitOn '.').mapM decoded? = some decoded ∧ decoded.all isValidLabel = true ∧
      (decoded.any (·.any runsLeft) && !decoded.all keepsDirection) = false ∧
      decoded.mapM encoded? = some encoded ∧ ascii = ['.'].intercalate encoded := by
  unfold toAscii?
  constructor
  · intro h
    simp only [Option.bind_eq_bind, Option.bind_eq_some_iff] at h
    obtain ⟨chars, hchars, decoded, hdecoded, h⟩ := h
    split at h
    · cases h
    · rename_i hvalid
      split at h
      · cases h
      · rename_i hdirection
        rw [Option.bind_eq_some_iff] at h
        obtain ⟨encoded, hencoded, h⟩ := h
        exact ⟨chars, decoded, encoded, hchars, hdecoded, by simpa using hvalid,
          by simpa using hdirection, hencoded, (Option.some.inj h).symm⟩
  · rintro ⟨chars, decoded, encoded, hchars, hdecoded, hvalid, hdirection, hencoded, rfl⟩
    rw [hchars, Option.bind_eq_bind, Option.bind_some]
    change (chars.splitOn '.').mapM decoded? >>= _ = _
    rw [hdecoded, Option.bind_eq_bind, Option.bind_some, hvalid, hdirection, hencoded]
    rfl

theorem not_isDenied_of_normalize? {name chars : List Char} (h : normalize? name = some chars)
    {c : Char} (hc : c ∈ chars) (hascii : c.toNat < 0x80) : isDenied c = false := by
  unfold normalize? at h
  simp only [Option.bind_eq_bind, Option.bind_eq_some_iff] at h
  obtain ⟨mapped, -, h⟩ := h
  generalize (if (mapped.flatten.all fun c => decide (c.toNat < 0x80)) = true then mapped.flatten
    else composed mapped.flatten) = normal at h
  split at h
  · cases h
  · rename_i hdenied
    obtain rfl := Option.some.inj h
    rw [← Bool.not_eq_true]
    intro hyes
    exact hdenied (List.any_eq_true.mpr ⟨c, hc, by simp [hascii, hyes]⟩)

/-- A text is its own comparison form if its characters stay and it is composed. -/
theorem normalize?_eq_self {chars : List Char} (hmapped : ∀ c ∈ chars, isMappedToItself c = true)
    (hcomposed : (chars.all fun c => c.toNat < 0x80) = false → composed chars = chars)
    (hallowed : ∀ c ∈ chars, c.toNat < 0x80 → isDenied c = false) :
    normalize? chars = some chars := by
  have hmap : chars.mapM mapChar? = some (chars.map fun c => [c]) :=
    mapM_eq_some_map fun c hc => beq_iff_eq.mp (hmapped c hc)
  have hflat : (chars.map fun c => [c]).flatten = chars := by
    rw [← List.flatMap_def]
    exact List.flatMap_singleton' chars
  have hform : (if (chars.all fun c => decide (c.toNat < 0x80)) = true then chars
      else composed chars) = chars := by
    split
    · rfl
    · rename_i hbeyond
      exact hcomposed (by simpa using hbeyond)
  have hdenied : (chars.any fun c => decide (c.toNat < 0x80) && isDenied c) = false := by
    refine List.any_eq_false.mpr fun c hc => ?_
    rw [Bool.and_eq_true, decide_eq_true_eq]
    rintro ⟨hascii, hyes⟩
    rw [hallowed c hc hascii] at hyes
    cases hyes
  unfold normalize?
  rw [hmap, Option.bind_eq_bind, Option.bind_some]
  simp only [hflat, hform]
  rw [hdenied]
  rfl

/-- An ASCII form has no characters that a name does not hold. -/
theorem isPlain_of_mem_toAscii? {name ascii : List Char} (h : toAscii? name = some ascii) {c : Char}
    (hc : c ∈ ascii) : c.toNat < 0x80 ∧ isDenied c = false := by
  obtain ⟨chars, decoded, encoded, hchars, hdecoded, -, -, hencoded, rfl⟩ := toAscii?_eq_some_iff.mp h
  rcases mem_intercalate hc with rfl | ⟨written, hwritten, hmem⟩
  · exact ⟨by decide, by decide⟩
  · obtain ⟨hascii, ⟨label, hlabel, hin⟩ | hdigit | rfl⟩ :=
      mem_of_mapM hdecoded hencoded hwritten hmem
    · exact ⟨hascii, not_isDenied_of_normalize? hchars (mem_of_mem_splitOn hlabel hin).1 hascii⟩
    · exact ⟨hascii, (isPlain_of_isDigitChar hdigit).1⟩
    · exact ⟨hascii, by decide⟩

/-- The encoded labels of a name are separated by its dots again. -/
theorem splitOn_intercalate_encoded {chars : List Char} {decoded encoded : List Label}
    (hdecoded : (chars.splitOn '.').mapM decoded? = some decoded)
    (hencoded : decoded.mapM encoded? = some encoded) :
    (['.'].intercalate encoded).splitOn '.' = encoded := by
  refine List.splitOn_intercalate '.' (fun written hwritten hdot => ?_) ?_
  · obtain ⟨-, ⟨label, hlabel, hin⟩ | hdigit | hhyphen⟩ :=
      mem_of_mapM hdecoded hencoded hwritten hdot
    · exact (mem_of_mem_splitOn hlabel hin).2 rfl
    · exact (isPlain_of_isDigitChar hdigit).2.2 rfl
    · exact absurd hhyphen (by decide)
  · rintro rfl
    cases hlabels : chars.splitOn '.' with
    | nil => exact List.splitOn_ne_nil _ _ hlabels
    | cons label labels =>
      rw [hlabels] at hdecoded
      obtain ⟨first, others, -, -, rfl⟩ := exists_of_mapM_cons hdecoded
      obtain ⟨_, _, -, -, hnil⟩ := exists_of_mapM_cons hencoded
      cases hnil

/-- An ASCII form is its own ASCII form. -/
theorem toAscii?_toAscii? {name ascii : List Char} (h : toAscii? name = some ascii)
    (hcomparable : ∀ label ∈ ascii.splitOn '.', isComparable label = true) :
    toAscii? ascii = some ascii := by
  have hplain := fun c => isPlain_of_mem_toAscii? (c := c) h
  obtain ⟨chars, decoded, encoded, -, hdecoded, hvalid, hdirection, hencoded, rfl⟩ :=
    toAscii?_eq_some_iff.mp h
  have hsplit := splitOn_intercalate_encoded hdecoded hencoded
  rw [hsplit] at hcomparable
  have hmapped : ∀ c ∈ ['.'].intercalate encoded, isMappedToItself c = true := by
    intro c hc
    rcases mem_intercalate hc with rfl | ⟨label, hlabel, hin⟩
    · decide
    · exact List.all_eq_true.mp ((Bool.and_eq_true _ _).mp (hcomparable label hlabel)).1 c hin
  have hnormal : normalize? (['.'].intercalate encoded) = some (['.'].intercalate encoded) := by
    refine normalize?_eq_self hmapped (fun hbeyond => ?_) fun c hc _ => (hplain c hc).2
    have hascii := List.all_eq_true.mpr fun c hc => decide_eq_true (hplain c hc).1
    rw [hascii] at hbeyond
    cases hbeyond
  have hagain : encoded.mapM decoded? = some decoded :=
    mapM_decoded?_of_encoded hdecoded hencoded fun label hlabel =>
      ((Bool.and_eq_true _ _).mp (hcomparable label hlabel)).2
  exact toAscii?_eq_some_iff.mpr
    ⟨_, decoded, encoded, hnormal, hsplit.symm ▸ hagain, hvalid, hdirection, hencoded, rfl⟩

/-- The labels of a name, each in its decoded form. -/
def labels? (name : List Char) : Option (List Label) :=
  (normalize? name).bind fun chars => (chars.splitOn '.').mapM decoded?

theorem forall_isComparable_iff {labels decoded encoded : List Label}
    (hdecoded : labels.mapM decoded? = some decoded)
    (hencoded : decoded.mapM encoded? = some encoded) :
    (∀ label ∈ encoded, isComparable label = true) ↔ ∀ label ∈ decoded, IsReadBack label := by
  have hpairs := forall₂_encoded hdecoded hencoded
  clear hdecoded hencoded
  induction hpairs with
  | nil => simp
  | cons hfirst _ ih =>
    obtain ⟨source, -, hread, hwritten⟩ := hfirst
    rw [List.forall_mem_cons, List.forall_mem_cons]
    exact and_congr (isComparable_iff_of_encoded? hread hwritten) ih

/-- The labels of an ASCII form can be compared exactly if each label of the name is in comparison
form, and not so long that its encoding is over the limit of what is decoded. -/
theorem isComparable_toAscii?_iff {name ascii : List Char} {labels : List Label}
    (h : toAscii? name = some ascii) (hlabels : labels? name = some labels) :
    (∀ label ∈ ascii.splitOn '.', isComparable label = true) ↔
      ∀ label ∈ labels, IsReadBack label := by
  obtain ⟨chars, decoded, encoded, hchars, hdecoded, -, -, hencoded, rfl⟩ :=
    toAscii?_eq_some_iff.mp h
  rw [labels?, hchars, Option.bind_some, hdecoded] at hlabels
  obtain rfl := Option.some.inj hlabels
  rw [splitOn_intercalate_encoded hdecoded hencoded]
  exact forall_isComparable_iff hdecoded hencoded

/-- A single letter beyond ASCII that the tables leave as it is. -/
theorem toAscii?_singleton {c : Char} (hbeyond : 0x80 ≤ c.toNat) (hmapped : isMappedToItself c = true)
    (hwhole : decompose c = [c]) (hmark : isMark c = false) (hleft : runsLeft c = false)
    (hjoiner : c ≠ joiner) (hnonJoiner : c ≠ nonJoiner) :
    toAscii? [c] = some (marker ++ Punycode.encode [c]) ∧ labels? [c] = some [[c]] := by
  have hascii : ([c].all fun c => decide (c.toNat < 0x80)) = false := by
    simp [Nat.not_lt.mpr hbeyond]
  have hnormal : normalize? [c] = some [c] := by
    refine normalize?_eq_self (fun d hd => ?_) (fun _ => composed_singleton hwhole) fun d hd hlt => ?_
    · rw [List.mem_singleton.mp hd, hmapped]
    · rw [List.mem_singleton.mp hd] at hlt
      omega
  have hdot : c ≠ '.' := by
    rintro rfl
    exact absurd hbeyond (by decide)
  have hsplit : [c].splitOn '.' = [[c]] := by
    rw [List.splitOn_cons_eq_if_modifyHead, if_neg (by simpa using hdot)]
    rfl
  have hdecoded : ([[c]] : List Label).mapM decoded? = some [[c]] := by
    refine mapM_eq_some_self fun label hlabel => ?_
    rw [List.mem_singleton.mp hlabel, decoded?, if_neg]
    rw [List.isPrefixOf_iff_prefix]
    exact fun h => absurd h.length_le (by simp [marker])
  have hencoded : ([[c]] : List Label).mapM encoded? = some [marker ++ Punycode.encode [c]] := by
    rw [List.mapM_cons, encoded?, if_neg (by rw [hascii]; exact Bool.false_ne_true)]
    rfl
  have hvalid : ([[c]] : List Label).all isValidLabel = true := by
    simp [isValidLabel, hmark, joinersFit, hjoiner, hnonJoiner]
  have hdirection : (([[c]] : List Label).any (·.any runsLeft) &&
      !([[c]] : List Label).all keepsDirection) = false := by simp [hleft]
  refine ⟨toAscii?_eq_some_iff.mpr ⟨_, _, _, hnormal, hsplit.symm ▸ hdecoded, hvalid, hdirection,
    hencoded, ?_⟩, ?_⟩
  · rw [List.intercalate_singleton]
  · rw [labels?, hnormal, Option.bind_some, hsplit, hdecoded]

end DomainName

end Recrawl.Url
