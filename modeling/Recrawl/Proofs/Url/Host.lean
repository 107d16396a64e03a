import Recrawl.Proofs.Text.Ascii
import Recrawl.Proofs.Text.Encoding
import Recrawl.Proofs.Url.Address
import Recrawl.Url.Host

/-!
Reading the text of a host gives the host again. What a host outside the web is written with is not
encoded a second time; an address spells itself; and a name is its own ASCII form, as long as its
labels can be compared.
-/

namespace Recrawl.Url

namespace Percent

theorem encode_eq_self {set : CharSet} {text : List Char}
    (h : ∀ c ∈ text, c.toNat < 0x80 ∧ set c = false) : encode set text = text := by
  induction text with
  | nil => rfl
  | cons c rest ih =>
    obtain ⟨hascii, hset⟩ := h c List.mem_cons_self
    have hc : encodeChar set c = [c] := if_pos (by simp [hascii, hset])
    rw [encode, List.flatMap_cons, hc]
    exact congrArg (c :: ·) (ih fun d hd => h d (List.mem_cons_of_mem _ hd))

/-- The characters of an encoded text: those that stay, percent signs and digits. -/
theorem mem_encode {set : CharSet} {text : List Char} {c : Char} (h : c ∈ encode set text) :
    (c ∈ text ∧ c.toNat < 0x80 ∧ set c = false) ∨ c = '%' ∨ ∃ value < 16, c = hexDigit value := by
  obtain ⟨d, hd, hc⟩ := List.mem_flatMap.mp h
  unfold encodeChar at hc
  split at hc
  · rename_i hkept
    obtain rfl := List.mem_singleton.mp hc
    exact .inl ⟨hd, by simpa using hkept⟩
  · obtain ⟨byte, -, hbyte⟩ := List.mem_flatMap.mp hc
    have hlt : byte.toNat < 256 := byte.toNat_lt
    simp only [encodeByte, List.mem_cons, List.not_mem_nil, or_false] at hbyte
    rcases hbyte with rfl | rfl | rfl
    · exact .inr (.inl rfl)
    · exact .inr (.inr ⟨byte.toNat / 16, by omega, rfl⟩)
    · exact .inr (.inr ⟨byte.toNat % 16, by omega, rfl⟩)

theorem encode_ne_nil {set : CharSet} {text : List Char} (h : text ≠ []) : encode set text ≠ [] := by
  cases text with
  | nil => exact absurd rfl h
  | cons c rest =>
    rw [encode, List.flatMap_cons]
    unfold encodeChar
    split
    · exact List.cons_ne_nil _ _
    · have hlength : 0 < (String.utf8EncodeChar c).length :=
        String.length_utf8EncodeChar c ▸ Char.utf8Size_pos c
      cases hbytes : String.utf8EncodeChar c with
      | nil => rw [hbytes] at hlength; cases hlength
      | cons byte bytes => exact List.cons_ne_nil _ _

theorem decode_eq_self {bytes : Bytes} (h : 0x25 ∉ bytes) : decode bytes = bytes := by
  fun_induction decode bytes with
  | case1 => exact absurd List.mem_cons_self h
  | case2 => exact absurd List.mem_cons_self h
  | case3 byte rest _ ih => rw [ih fun hrest => h (List.mem_cons_of_mem _ hrest)]
  | case4 => rfl

end Percent

namespace Host

/-- How the host of a URL of the given kind is read. -/
def read (kind : SchemeKind) (text : List Char) : Except Fault Host :=
  if kind.isSpecial then parseSpecial text else parseOther text

/-- The labels of a name can be compared; an address has none. -/
def isComparable : Host → Bool
  | name chars => (chars.splitOn '.').all DomainName.isComparable
  | _ => true

/-- A character that stands in a host as it is. -/
def isPlain (c : Char) : Bool := !isForbidden c && 0x20 < c.toNat

theorem isPlain_of_mem_encode {text : List Char} (h : text.any isForbidden = false) {c : Char}
    (hc : c ∈ Percent.encode CharSet.controls text) :
    c.toNat < 0x80 ∧ CharSet.controls c = false ∧ isPlain c = true := by
  rcases Percent.mem_encode hc with ⟨hmem, hascii, hcontrols⟩ | rfl | ⟨value, hvalue, rfl⟩
  · have hallowed : isForbidden c = false := by simpa using List.any_eq_false.mp h c hmem
    refine ⟨hascii, hcontrols, ?_⟩
    revert hallowed hcontrols
    apply Text.of_ascii hascii
    decide
  · decide
  · have hall : ∀ value < 16, (Percent.hexDigit value).toNat < 0x80 ∧
        CharSet.controls (Percent.hexDigit value) = false ∧
          isPlain (Percent.hexDigit value) = true := by decide
    exact hall value hvalue

theorem parseOther_of_head_ne {text : List Char} (h : '[' ∉ text) :
    parseOther text = if text.any isForbidden then .error .invalidHostCharacter
      else .ok (name (Percent.encode CharSet.controls text)) := by
  unfold parseOther
  split
  · exact absurd List.mem_cons_self h
  · rfl

theorem not_mem_of_isPlain {text : List Char} (h : ∀ c ∈ text, isPlain c = true) : '[' ∉ text :=
  fun hmem => absurd (h '[' hmem) (by decide)

theorem parseOther_render {text : List Char} {host : Host} (h : parseOther text = .ok host)
    (hbracket : '[' ∉ text) (hne : text ≠ []) :
    parseOther host.render = .ok host ∧ host.render ≠ [] ∧
      ∀ c ∈ host.render, isPlain c = true := by
  rw [parseOther_of_head_ne hbracket] at h
  split at h
  · cases h
  · rename_i hallowed
    injection h with h
    subst h
    rw [Bool.not_eq_true] at hallowed
    have hplain := fun c => isPlain_of_mem_encode hallowed (c := c)
    have hagain : (Percent.encode CharSet.controls text).any isForbidden = false := by
      refine List.any_eq_false.mpr fun c hc => ?_
      have hc := (hplain c hc).2.2
      rw [isPlain, Bool.and_eq_true] at hc
      simpa using hc.1
    have hencode : Percent.encode CharSet.controls (Percent.encode CharSet.controls text) =
        Percent.encode CharSet.controls text :=
      Percent.encode_eq_self fun c hc => ⟨(hplain c hc).1, (hplain c hc).2.1⟩
    refine ⟨?_, Percent.encode_ne_nil hne, fun c hc => (hplain c hc).2.2⟩
    rw [render, parseOther_of_head_ne (not_mem_of_isPlain fun c hc => (hplain c hc).2.2), hagain,
      hencode]
    rfl

theorem ofBytes?_decode_of_ascii {text : List Char} (h : ∀ c ∈ text, c.toNat < 0x80 ∧ c ≠ '%') :
    DomainName.ofBytes? (Percent.decode (Bytes.ofString (String.ofList text))) =
      DomainName.toAscii? text := by
  have hpercent : 0x25 ∉ text.flatMap String.utf8EncodeChar := by
    intro hmem
    obtain ⟨c, hc, hbyte⟩ := List.mem_flatMap.mp hmem
    have hcode := Bytes.mem_utf8EncodeChar (by decide) hbyte
    refine (h c hc).2 ?_
    rw [← Char.ofNat_toNat c, hcode]
    rfl
  rw [Bytes.ofString_eq, String.toList_ofList, Percent.decode_eq_self hpercent, DomainName.ofBytes?,
    Text.Utf8.strict_flatMap_of_ascii fun c hc => (h c hc).1]

theorem isPlain_of_not_isDenied {c : Char} (hascii : c.toNat < 0x80)
    (h : DomainName.isDenied c = false) : isPlain c = true ∧ c ≠ '%' := by
  revert h
  apply Text.of_ascii hascii
  decide

theorem parseSpecial_of_not_mem {text : List Char} (h : '[' ∉ text) :
    parseSpecial text =
      match DomainName.ofBytes? (Percent.decode (Bytes.ofString (String.ofList text))) with
      | none => .error .invalidDomainName
      | some [] => .error .emptyHost
      | some domain =>
        if Ipv4.isClaimed domain then
          match Ipv4.parse? domain with
          | some address => .ok (ipv4 address)
          | none => .error .invalidIpv4
        else .ok (name domain) := by
  unfold parseSpecial
  split
  · exact absurd List.mem_cons_self h
  · rfl

/-- A host of the web is a name in ASCII form that spells no address, or an address. -/
theorem exists_of_parseSpecial {text : List Char} {host : Host} (h : parseSpecial text = .ok host)
    (hbracket : '[' ∉ text) :
    ∃ unicode domain,
      Text.Utf8.strict (Percent.decode (Bytes.ofString (String.ofList text))) = .ok unicode ∧
      DomainName.toAscii? unicode = some domain ∧ domain ≠ [] ∧
      ((Ipv4.isClaimed domain = false ∧ host = name domain) ∨
        ∃ address, Ipv4.parse? domain = some address ∧ host = ipv4 address) := by
  rw [parseSpecial_of_not_mem hbracket] at h
  split at h
  · cases h
  · cases h
  · rename_i domain hne hdomain
    unfold DomainName.ofBytes? at hdomain
    split at hdomain
    · rename_i unicode hunicode
      refine ⟨unicode, domain, hunicode, hdomain, hne, ?_⟩
      split at h
      · split at h
        · rename_i address haddress
          injection h with h
          exact .inr ⟨address, haddress, h.symm⟩
        · cases h
      · rename_i hclaimed
        injection h with h
        exact .inl ⟨by simpa using hclaimed, h.symm⟩
    · cases hdomain

/-- The labels of a name that is read can be compared exactly if each of them, decoded, is in
comparison form and not too long to be decoded again. -/
theorem isComparable_iff_of_parseSpecial {text domain : List Char}
    (h : parseSpecial text = .ok (name domain)) (hbracket : '[' ∉ text) :
    ∃ unicode labels,
      Text.Utf8.strict (Percent.decode (Bytes.ofString (String.ofList text))) = .ok unicode ∧
      DomainName.labels? unicode = some labels ∧
      ((name domain).isComparable = true ↔ ∀ label ∈ labels, DomainName.IsReadBack label) := by
  obtain ⟨unicode, ascii, hunicode, hascii, -, ⟨-, hname⟩ | ⟨address, -, haddress⟩⟩ :=
    exists_of_parseSpecial h hbracket
  · obtain rfl := Host.name.inj hname
    obtain ⟨chars, labels, -, hchars, hlabels, -⟩ := DomainName.toAscii?_eq_some_iff.mp hascii
    have hread : DomainName.labels? unicode = some labels := by
      rw [DomainName.labels?, hchars, Option.bind_some, hlabels]
    refine ⟨unicode, labels, hunicode, hread, ?_⟩
    rw [isComparable, List.all_eq_true]
    exact DomainName.isComparable_toAscii?_iff hascii hread
  · cases haddress

theorem parseSpecial_eq_name {text domain : List Char} (hbracket : '[' ∉ text)
    (hdomain : DomainName.ofBytes? (Percent.decode (Bytes.ofString (String.ofList text))) =
      some domain) (hne : domain ≠ []) (hclaimed : Ipv4.isClaimed domain = false) :
    parseSpecial text = .ok (name domain) := by
  rw [parseSpecial_of_not_mem hbracket, hdomain]
  cases domain with
  | nil => exact absurd rfl hne
  | cons c rest =>
    change (if Ipv4.isClaimed (c :: rest) = true then _ else _) = _
    rw [hclaimed]
    rfl

theorem isPlain_of_mem_toAscii? {unicode ascii : List Char}
    (h : DomainName.toAscii? unicode = some ascii) {c : Char} (hc : c ∈ ascii) :
    isPlain c = true ∧ c ≠ '%' :=
  have hplain := DomainName.isPlain_of_mem_toAscii? h hc
  isPlain_of_not_isDenied hplain.1 hplain.2

/-- What a text in ASCII form is read as. -/
theorem parseSpecial_of_toAscii? {ascii : List Char} (hself : DomainName.toAscii? ascii = some ascii)
    (hne : ascii ≠ []) :
    parseSpecial ascii =
      if Ipv4.isClaimed ascii then
        match Ipv4.parse? ascii with
        | some address => .ok (ipv4 address)
        | none => .error .invalidIpv4
      else .ok (name ascii) := by
  have hbytes := ofBytes?_decode_of_ascii fun c hc =>
    ⟨(DomainName.isPlain_of_mem_toAscii? hself hc).1, (isPlain_of_mem_toAscii? hself hc).2⟩
  rw [parseSpecial_of_not_mem (not_mem_of_isPlain fun c hc => (isPlain_of_mem_toAscii? hself hc).1),
    hbytes, hself]
  cases ascii with
  | nil => exact absurd rfl hne
  | cons c rest => rfl

theorem parseSpecial_render {text : List Char} {host : Host} (h : parseSpecial text = .ok host)
    (hbracket : '[' ∉ text) (hcomparable : host.isComparable = true) :
    parseSpecial host.render = .ok host ∧ host.render ≠ [] ∧
      ∀ c ∈ host.render, isPlain c = true := by
  obtain ⟨unicode, domain, -, hdomain, hne, ⟨hclaimed, rfl⟩ | ⟨address, haddress, rfl⟩⟩ :=
    exists_of_parseSpecial h hbracket
  · have hself := DomainName.toAscii?_toAscii? hdomain (List.all_eq_true.mp hcomparable)
    refine ⟨?_, hne, fun c hc => (isPlain_of_mem_toAscii? hself hc).1⟩
    rw [render, parseSpecial_of_toAscii? hself hne, hclaimed]
    rfl
  · have hself : DomainName.toAscii? (Ipv4.render address) = some (Ipv4.render address) :=
      DomainName.toAscii?_of_digits (List.cons_ne_nil _ _) fun part hpart =>
        (Ipv4.mem_renderParts hpart).2
    have hne : Ipv4.render address ≠ [] := by
      intro hnil
      have hclaimed := Ipv4.isClaimed_render address
      rw [hnil] at hclaimed
      exact absurd hclaimed (by decide)
    refine ⟨?_, hne, fun c hc => (isPlain_of_mem_toAscii? hself hc).1⟩
    rw [render, parseSpecial_of_toAscii? hself hne, Ipv4.isClaimed_render,
      Ipv4.parse?_render (Ipv4.lt_of_parse? haddress)]
    rfl

/-- Reading the text of a host gives the host again. -/
theorem read_render {kind : SchemeKind} {text : List Char} {host : Host}
    (h : read kind text = .ok host) (hbracket : '[' ∉ text) (hne : text ≠ [])
    (hcomparable : kind.isSpecial = true → host.isComparable = true) :
    read kind host.render = .ok host ∧ host.render ≠ [] ∧
      ∀ c ∈ host.render, isPlain c = true := by
  unfold read at h ⊢
  cases hkind : kind.isSpecial with
  | false =>
    rw [hkind] at h
    exact parseOther_render h hbracket hne
  | true =>
    rw [hkind] at h
    exact parseSpecial_render h hbracket (hcomparable hkind)

end Host

end Recrawl.Url
