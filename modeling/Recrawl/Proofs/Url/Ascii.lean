import Recrawl.Proofs.Except
import Recrawl.Proofs.Url.Host
import Recrawl.Url.Parser

/-!
The text of a URL that was read is ASCII. Schemes, addresses and ports hold nothing else, names are in
their ASCII form, and every other component is encoded.
-/

namespace Recrawl.Text

/-- All characters are ASCII. -/
def IsAscii (text : List Char) : Prop := ∀ c ∈ text, c.toNat < 0x80

instance (text : List Char) : Decidable (IsAscii text) :=
  List.decidableBAll (fun c : Char => c.toNat < 0x80) text

namespace IsAscii

theorem nil : IsAscii [] := fun _ h => absurd h List.not_mem_nil

theorem cons {c : Char} {rest : List Char} (hc : c.toNat < 0x80) (h : IsAscii rest) :
    IsAscii (c :: rest) := List.forall_mem_cons.mpr ⟨hc, h⟩

theorem append {front back : List Char} (hfront : IsAscii front) (hback : IsAscii back) :
    IsAscii (front ++ back) := List.forall_mem_append.mpr ⟨hfront, hback⟩

theorem of_subset {text part : List Char} (h : IsAscii text) (hpart : part ⊆ text) : IsAscii part :=
  fun c hc => h c (hpart hc)

/-- A part that may be missing. -/
theorem getD {text : Option (List Char)} (h : ∀ part, text = some part → IsAscii part) :
    IsAscii (text.getD []) := by
  cases text with
  | none => exact nil
  | some part => exact h part rfl

theorem intercalate {parts : List (List Char)} {sep : Char} (hsep : sep.toNat < 0x80)
    (h : ∀ part ∈ parts, IsAscii part) : IsAscii ([sep].intercalate parts) := by
  intro c hc
  rcases Url.DomainName.mem_intercalate hc with rfl | ⟨part, hpart, hmem⟩
  · exact hsep
  · exact h part hpart c hmem

end IsAscii

theorem toNat_lt_of_isAlpha {c : Char} (h : c.isAlpha = true) : c.toNat < 0x80 := by
  rcases (Bool.or_eq_true _ _).mp h with hupper | hlower
  · exact Nat.lt_of_le_of_lt (of_decide_eq_true hupper).2 (by decide)
  · exact Nat.lt_of_le_of_lt (of_decide_eq_true ((Bool.and_eq_true _ _).mp hlower).2) (by decide)

theorem toNat_toLower_lt {c : Char} (h : c.toNat < 0x80) : c.toLower.toNat < 0x80 := by
  apply of_ascii h
  decide

/-- The digits of a number are ASCII, also those of bases beyond ten. -/
theorem isAscii_toDigits {base : Nat} (hlow : 1 < base) (hhigh : base ≤ 36) (n : Nat) :
    IsAscii (Nat.toDigits base n) := by
  have hdigit : ∀ value < 36, (Nat.digitChar value).toNat < 0x80 := by decide
  induction n using Nat.strongRecOn with
  | ind n ih =>
    rcases Nat.lt_or_ge n base with hlt | hle
    · rw [Nat.toDigits_of_lt_base hlt]
      exact IsAscii.cons (hdigit n (by omega)) IsAscii.nil
    · have hmod : n % base < base := Nat.mod_lt n (by omega)
      rw [Nat.toDigits_of_base_le hlow hle]
      exact (ih (n / base) (Nat.div_lt_self (by omega) hlow)).append
        (IsAscii.cons (hdigit (n % base) (by omega)) IsAscii.nil)

end Recrawl.Text

namespace Recrawl.Url

open Text (IsAscii)

namespace Percent

/-- Nothing in the text is left to be encoded. -/
def IsEncoded (set : CharSet) (text : List Char) : Prop :=
  ∀ c ∈ text, c.toNat < 0x80 ∧ set c = false

theorem IsEncoded.isAscii {set : CharSet} {text : List Char} (h : IsEncoded set text) :
    IsAscii text := fun c hc => (h c hc).1

theorem IsEncoded.of_subset {set : CharSet} {text part : List Char} (h : IsEncoded set text)
    (hpart : part ⊆ text) : IsEncoded set part := fun c hc => h c (hpart hc)

/-- What encoding writes stays as it is. -/
theorem isEncoded_encode {set : CharSet} (hpercent : set '%' = false)
    (hdigit : ∀ value < 16, set (hexDigit value) = false) (text : List Char) :
    IsEncoded set (encode set text) := by
  have hascii : ∀ value < 16, (hexDigit value).toNat < 0x80 := by decide
  intro c hc
  rcases mem_encode hc with ⟨-, hkept⟩ | rfl | ⟨value, hvalue, rfl⟩
  · exact hkept
  · exact ⟨by decide, hpercent⟩
  · exact ⟨hascii value hvalue, hdigit value hvalue⟩

theorem isAscii_encode (set : CharSet) (text : List Char) : IsAscii (encode set text) := by
  have hascii : ∀ value < 16, (hexDigit value).toNat < 0x80 := by decide
  intro c hc
  rcases mem_encode hc with ⟨-, hkept, -⟩ | rfl | ⟨value, hvalue, rfl⟩
  · exact hkept
  · decide
  · exact hascii value hvalue

end Percent

namespace Path

/-- All segments so far are encoded. -/
def Reading.IsEncoded (reading : Reading) : Prop :=
  ∀ segment ∈ reading.segments, Percent.IsEncoded CharSet.path segment

theorem isEncoded_encode (text : List Char) :
    Percent.IsEncoded CharSet.path (Percent.encode CharSet.path text) :=
  Percent.isEncoded_encode (by decide) (by decide) text

theorem isEncoded_drive {letter : Char} (h : letter.isAlpha = true) :
    Percent.IsEncoded CharSet.path [letter, ':'] := by
  have hascii := Text.toNat_lt_of_isAlpha h
  have hletter : CharSet.path letter = false := by
    revert h
    apply Text.of_ascii hascii
    decide
  refine List.forall_mem_cons.mpr ⟨⟨hascii, hletter⟩, fun c hc => ?_⟩
  obtain rfl := List.mem_singleton.mp hc
  decide

theorem leave_subset (segments : List Segment) : leave segments ⊆ segments := by
  cases segments with
  | nil => exact fun _ h => h
  | cons last earlier =>
    rw [leave]
    split
    · exact fun _ h => h
    · exact List.subset_cons_self _ _

namespace Reading.IsEncoded

variable {reading : Reading}

theorem addFile (h : reading.IsEncoded) {segment : Segment}
    (hsegment : Percent.IsEncoded CharSet.path segment) : (reading.addFile segment).IsEncoded := by
  unfold Reading.addFile
  split
  · rename_i letter mark _
    split
    · rename_i hdrive
      rw [isDrive, Bool.and_eq_true] at hdrive
      exact List.forall_mem_singleton.mpr (isEncoded_drive hdrive.1)
    · exact List.forall_mem_singleton.mpr hsegment
  · exact List.forall_mem_cons.mpr ⟨hsegment, h⟩

theorem add (h : reading.IsEncoded) (kind : SchemeKind) {segment : Segment}
    (hsegment : Percent.IsEncoded CharSet.path segment) (last : Bool) :
    (reading.add kind segment last).IsEncoded := by
  have hempty : Percent.IsEncoded CharSet.path [] := fun _ hmem => absurd hmem List.not_mem_nil
  unfold Reading.add
  split
  · have hleave : ∀ segment ∈ leave reading.segments, Percent.IsEncoded CharSet.path segment :=
      fun segment hmem => h segment (leave_subset _ hmem)
    cases last with
    | true => exact List.forall_mem_cons.mpr ⟨hempty, hleave⟩
    | false => exact hleave
  · split
    · cases last with
      | true => exact List.forall_mem_cons.mpr ⟨hempty, h⟩
      | false => exact h
    · split
      · exact h.addFile hsegment
      · exact List.forall_mem_cons.mpr ⟨hsegment, h⟩

theorem addSpaced (h : reading.IsEncoded) (kind : SchemeKind) (segment : List Char) (last : Bool) :
    (reading.addSpaced kind segment last).IsEncoded := by
  unfold Reading.addSpaced
  split
  · rename_i drive text _ hdrive
    unfold splitDrive? at hdrive
    split at hdrive
    · split at hdrive
      · simp only at hdrive
        split at hdrive
        · rename_i hletter
          cases hdrive
          rw [Bool.and_eq_true, Bool.and_eq_true] at hletter
          exact List.forall_mem_cons.mpr ⟨isEncoded_encode _,
            List.forall_mem_singleton.mpr (isEncoded_drive hletter.1.1)⟩
        · cases hdrive
      · cases hdrive
    · cases hdrive
  · exact h.add _ (isEncoded_encode _) last

theorem addAll (h : reading.IsEncoded) (kind : SchemeKind) (segments : List (List Char)) :
    (reading.addAll kind segments).IsEncoded := by
  fun_induction Reading.addAll kind reading segments with
  | case1 => exact h
  | case2 reading segment => exact h.addSpaced kind segment true
  | case3 reading segment next rest ih => exact ih (h.addSpaced kind segment false)

end Reading.IsEncoded

theorem isEncoded_parse (kind : SchemeKind) (text : List Char) :
    Percent.IsEncoded CharSet.path (parse kind text).1 := by
  have hreading : (Reading.addAll kind {} (text.splitOnP (isSeparator kind))).IsEncoded :=
    Reading.IsEncoded.addAll (fun _ hmem => absurd hmem List.not_mem_nil) kind _
  have hpath : Percent.IsEncoded CharSet.path (List.intercalate ['/']
      (Reading.addAll kind {} (text.splitOnP (isSeparator kind))).segments.reverse) := by
    intro c hc
    rcases DomainName.mem_intercalate hc with rfl | ⟨segment, hsegment, hmem⟩
    · decide
    · exact hreading segment (List.mem_reverse.mp hsegment) c hmem
  have hslash : '/'.toNat < 0x80 ∧ CharSet.path '/' = false := by decide
  unfold parse
  simp only
  split
  · exact List.forall_mem_cons.mpr
      ⟨hslash, hpath.of_subset (List.dropWhile_sublist _).subset⟩
  · exact List.forall_mem_cons.mpr ⟨hslash, hpath⟩

end Path

theorem isEncoded_readRootedPath (kind : SchemeKind) (text : List Char) :
    Percent.IsEncoded CharSet.path (readRootedPath kind text).1 := by
  unfold readRootedPath
  split
  · split
    · exact List.forall_mem_singleton.mpr (by decide)
    · exact fun _ hmem => absurd hmem List.not_mem_nil
  · exact Path.isEncoded_parse kind _

theorem Ipv4.isAscii_render (address : Nat) : IsAscii (Ipv4.render address) := by
  refine IsAscii.intercalate (by decide) fun part hpart => ?_
  obtain ⟨shift, -, rfl⟩ := List.mem_map.mp hpart
  exact Text.isAscii_toDigits (by decide) (by decide) _

theorem Ipv6.isAscii_renderGroups (groups : List Nat) : IsAscii (Ipv6.renderGroups groups) := by
  refine IsAscii.intercalate (by decide) fun part hpart => ?_
  obtain ⟨group, -, rfl⟩ := List.mem_map.mp hpart
  exact Text.isAscii_toDigits (by decide) (by decide) group

theorem Ipv6.isAscii_render (groups : List Nat) : IsAscii (Ipv6.render groups) := by
  have hcolons : IsAscii [':', ':'] := by decide
  unfold Ipv6.render
  split
  · exact isAscii_renderGroups groups
  · exact ((isAscii_renderGroups _).append hcolons).append (isAscii_renderGroups _)

namespace Host

/-- The text of the host is ASCII. -/
def IsAscii (host : Host) : Prop := Text.IsAscii host.render

theorem isAscii_parseBracketed {rest : List Char} {host : Host}
    (h : parseBracketed rest = .ok host) : host.IsAscii := by
  unfold parseBracketed at h
  split at h
  · split at h
    · rename_i groups _
      cases h
      exact Text.IsAscii.cons (by decide) ((Ipv6.isAscii_render groups).append (by decide))
    · cases h
  · cases h

theorem isAscii_parseSpecial {text : List Char} {host : Host} (h : parseSpecial text = .ok host) :
    host.IsAscii := by
  unfold parseSpecial at h
  split at h
  · exact isAscii_parseBracketed h
  · split at h
    · cases h
    · cases h
    · rename_i domain _ hdomain
      split at h
      · split at h
        · cases h
          exact Ipv4.isAscii_render _
        · cases h
      · cases h
        unfold DomainName.ofBytes? at hdomain
        split at hdomain
        · exact fun c hc => (DomainName.isPlain_of_mem_toAscii? hdomain hc).1
        · cases hdomain

theorem isAscii_parseOther {text : List Char} {host : Host} (h : parseOther text = .ok host) :
    host.IsAscii := by
  unfold parseOther at h
  split at h
  · exact isAscii_parseBracketed h
  · split at h
    · cases h
    · cases h
      exact Percent.isAscii_encode _ _

end Host

/-- The host, if there is one, is ASCII. -/
def HasAsciiHost (host : Option Host) : Prop := ∀ found, host = some found → found.IsAscii

theorem hasAsciiHost_none : HasAsciiHost none := fun _ h => by cases h

theorem hasAsciiHost_some {host : Host} (h : host.IsAscii) : HasAsciiHost (some host) := by
  rintro _ ⟨⟩
  exact h

theorem isAscii_render_authority {authority : Authority} (husername : IsAscii authority.username)
    (hpassword : IsAscii authority.password) (hhost : HasAsciiHost authority.host) :
    IsAscii authority.render := by
  have hat : IsAscii ['@'] := by decide
  have hinfo : IsAscii authority.userInfo := by
    unfold Authority.userInfo
    split
    · exact IsAscii.nil
    · split
      · exact husername.append hat
      · exact (husername.append (IsAscii.cons (by decide) hpassword)).append hat
  refine (hinfo.append (IsAscii.getD fun part hpart => ?_)).append (IsAscii.getD fun part hpart => ?_)
  · obtain ⟨host, hsome, rfl⟩ := Option.map_eq_some_iff.mp hpart
    exact hhost host hsome
  · obtain ⟨port, -, rfl⟩ := Option.map_eq_some_iff.mp hpart
    exact IsAscii.cons (by decide) (Text.isAscii_toDigits (by decide) (by decide) port)

/-- Except in files, a host that is read is a host of the web or any other host. -/
theorem hasAsciiHost_readHostPort {scheme text : List Char} {host : Option Host} {port : Option Nat}
    {rest : List Char} (h : readHostPort scheme text = .ok (host, port, rest)) :
    HasAsciiHost host := by
  unfold readHostPort at h
  extract_lets kind extent behind finish checked at h
  -- The port and what is behind it leave the host as it is.
  have hfinish : ∀ {read : Option Host}, finish read = .ok (host, port, rest) → host = read := by
    intro read hread
    simp only [finish] at hread
    clear_value behind
    split at hread
    · cases hread
      rfl
    · obtain ⟨number, -, hresult⟩ := exists_of_bind_eq_ok hread
      cases hresult
      rfl
  split at h
  · cases h
  · simp only [checked] at h
    split at h
    · obtain ⟨_, hsome, hrest⟩ := exists_of_bind_eq_ok h
      obtain ⟨read, hread, rfl⟩ := map_eq_ok_iff.mp hsome
      obtain rfl := hfinish hrest
      exact hasAsciiHost_some (Host.isAscii_parseSpecial hread)
    · split at h
      · obtain rfl := hfinish h
        exact hasAsciiHost_none
      · obtain ⟨_, hsome, hrest⟩ := exists_of_bind_eq_ok h
        obtain ⟨read, hread, rfl⟩ := map_eq_ok_iff.mp hsome
        obtain rfl := hfinish hrest
        exact hasAsciiHost_some (Host.isAscii_parseOther hread)

theorem isAscii_readAuthority {scheme text path : List Char} {followed : Bool} {authority : Authority}
    (h : readAuthority scheme text followed = .ok (authority, path)) : IsAscii authority.render := by
  unfold readAuthority at h
  simp only at h
  split at h
  · cases h
  · generalize (splitUserInfo (text.takeWhile fun c =>
      !Path.isSeparator (SchemeKind.ofScheme scheme) c)) = split at h
    obtain ⟨found, hread, hrest⟩ := exists_of_bind_eq_ok h
    split at hrest
    · cases hrest
    · cases hrest
      exact isAscii_render_authority (Percent.isAscii_encode _ _) (Percent.isAscii_encode _ _)
        (hasAsciiHost_readHostPort hread)

theorem isAscii_readFile {text path : List Char} {authority : Authority}
    (h : readFile text = .ok (authority, path)) : IsAscii authority.render ∧ IsAscii path := by
  have hnone : IsAscii ({} : Authority).render := by decide
  have hnamed : ∀ {host : Option Host}, HasAsciiHost host →
      IsAscii ({ host := host } : Authority).render :=
    fun hhost => isAscii_render_authority IsAscii.nil IsAscii.nil hhost
  unfold readFile at h
  split at h
  · cases h
    exact ⟨hnone, (isEncoded_readRootedPath _ _).isAscii⟩
  · extract_lets isEnd extent pathText finish at h
    have hfinish : ∀ {host : Option Host}, HasAsciiHost host → finish host = .ok (authority, path) →
        IsAscii authority.render ∧ IsAscii path := by
      intro host hhost hread
      simp only [finish] at hread
      split at hread
      · cases hread
        exact ⟨hnone, (Path.isEncoded_parse _ _).isAscii⟩
      · have hpath := (isEncoded_readRootedPath .file pathText).isAscii
        generalize readRootedPath .file pathText = rooted at hread hpath
        cases hread
        refine ⟨hnamed ?_, hpath⟩
        split
        · exact hasAsciiHost_none
        · exact hhost
    split at h
    · cases h
      exact ⟨hnone, (Path.isEncoded_parse _ _).isAscii⟩
    · split at h
      · exact hfinish hasAsciiHost_none h
      · obtain ⟨_, hsome, hrest⟩ := exists_of_bind_eq_ok h
        obtain ⟨host, hread, rfl⟩ := map_eq_ok_iff.mp hsome
        exact hfinish (hasAsciiHost_some (Host.isAscii_parseSpecial hread)) hrest

theorem isAscii_readBody {scheme text path : List Char} {followed : Bool}
    {authority : Option Authority} (h : readBody scheme text followed = .ok (authority, path)) :
    (∀ found, authority = some found → IsAscii found.render) ∧ IsAscii path := by
  unfold readBody at h
  split at h
  · obtain ⟨found, hread, hpair⟩ := map_eq_ok_iff.mp h
    cases hpair
    refine ⟨?_, (isAscii_readFile hread).2⟩
    rintro _ ⟨⟩
    exact (isAscii_readFile hread).1
  · obtain ⟨found, hread, hpair⟩ := exists_of_bind_eq_ok h
    cases hpair
    refine ⟨?_, (isEncoded_readRootedPath _ _).isAscii⟩
    rintro _ ⟨⟩
    exact isAscii_readAuthority hread
  · split at h
    · obtain ⟨found, hread, hpair⟩ := exists_of_bind_eq_ok h
      cases hpair
      refine ⟨?_, (isEncoded_readRootedPath _ _).isAscii⟩
      rintro _ ⟨⟩
      exact isAscii_readAuthority hread
    · cases h
      exact ⟨nofun, (Path.isEncoded_parse _ _).isAscii⟩
    · cases h
      exact ⟨nofun, Percent.isAscii_encode _ _⟩

theorem isAscii_splitScheme? {text scheme rest : List Char}
    (h : splitScheme? text = some (scheme, rest)) : IsAscii scheme := by
  have hmember : ∀ c : Char, isSchemeChar c = true → c.toNat < 0x80 := by
    intro c hc
    simp only [isSchemeChar, Char.isAlphanum, Bool.or_eq_true, beq_iff_eq] at hc
    rcases hc with (((halpha | hdigit) | rfl) | rfl) | rfl
    · exact Text.toNat_lt_of_isAlpha halpha
    · exact Text.toNat_lt_of_isDigit hdigit
    · decide
    · decide
    · decide
  unfold splitScheme? at h
  simp only at h
  split at h
  · rename_i first others _ _ _
    split at h
    · rename_i hchars
      cases h
      rw [Bool.and_eq_true, List.all_eq_true] at hchars
      intro c hc
      obtain ⟨original, horiginal, rfl⟩ := List.mem_map.mp hc
      apply Text.toNat_toLower_lt
      rcases List.mem_cons.mp horiginal with rfl | hmem
      · exact Text.toNat_lt_of_isAlpha hchars.1
      · exact hmember original (hchars.2 original hmem)
    · cases h
  · cases h

/-- Some text is read as this URL. -/
def IsRead (url : Url) : Prop := ∃ text, ofChars text = .ok url

/-- The text of a URL that was read is ASCII. -/
theorem isAscii_render {url : Url} (hread : url.IsRead) : IsAscii url.render := by
  obtain ⟨text, h⟩ := hread
  unfold ofChars at h
  split at h
  · cases h
  · rename_i scheme rest hscheme
    generalize splitFirst (· == '#') rest = front at h
    obtain ⟨beforeFragment, fragment⟩ := front
    simp only at h
    obtain ⟨body, hread, hurl⟩ := exists_of_bind_eq_ok h
    cases hurl
    obtain ⟨hauthority, hpath⟩ := isAscii_readBody hread
    -- Query and fragment are encoded, each with its sign in front.
    have hpart : ∀ {sign : Char} {set : CharSet} {part : Option (List Char)}, sign.toNat < 0x80 →
        IsAscii (((part.map fun text => Percent.encode set (Path.significant text)).map
          (sign :: ·)).getD []) := by
      intro sign set part hsign
      cases part with
      | none => exact IsAscii.nil
      | some text => exact IsAscii.cons hsign (Percent.isAscii_encode _ _)
    have hslashes : IsAscii (renderAuthority ⟨scheme, body.1, body.2, none, none⟩) := by
      unfold renderAuthority
      split
      · rename_i authority hsome
        exact IsAscii.cons (by decide) (IsAscii.cons (by decide) (hauthority authority hsome))
      · split <;> decide
    exact (((isAscii_splitScheme? hscheme).append (IsAscii.cons (by decide) hslashes)).append
      hpath).append (hpart (by decide)) |>.append (hpart (by decide))

end Recrawl.Url
