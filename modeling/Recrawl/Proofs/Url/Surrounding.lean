import Recrawl.Proofs.Url.Host
import Recrawl.Url.Parser

/-!
A host among its neighbours. Between user info and port, a text without delimiters stands alone: the
characters that do not count, the ends of the URL, and its query and fragment are found without regard
to it.
-/

namespace Recrawl.Url

theorem splitFirst_append {p : Char → Bool} {front : List Char} (h : ∀ c ∈ front, p c = false)
    (back : List Char) :
    splitFirst p (front ++ back) = (front ++ (splitFirst p back).1, (splitFirst p back).2) := by
  have hfront : ∀ c ∈ front, (!p c) = true := fun c hc => by rw [h c hc]; rfl
  unfold splitFirst
  rw [List.dropWhile_append_of_pos hfront, List.takeWhile_append_of_pos hfront]
  split
  · rfl
  · rfl

theorem splitFirst_cons {p : Char → Bool} {c : Char} (h : p c = true) (rest : List Char) :
    splitFirst p (c :: rest) = ([], some rest) := by
  simp [splitFirst, h]

theorem splitFirst_cons_of_ne {p : Char → Bool} {c : Char} (h : p c = false) (rest : List Char) :
    (splitFirst p (c :: rest)).1 = c :: (splitFirst p rest).1 := by
  have hfront : ∀ d ∈ [c], p d = false := by
    intro d hd
    rwa [List.mem_singleton.mp hd]
  rw [← List.singleton_append, splitFirst_append hfront]
  rfl

/-- The text without what does not count at its end. -/
def trimEnd (text : List Char) : List Char := (text.reverse.dropWhile isEdge).reverse

theorem trimEdges_eq (text : List Char) : trimEdges text = trimEnd (text.dropWhile isEdge) := rfl

theorem trimEnd_append {back : List Char} {c : Char} (hc : c ∈ back) (hedge : isEdge c = false)
    (front : List Char) : trimEnd (front ++ back) = front ++ trimEnd back := by
  have hback : back.reverse.dropWhile isEdge ≠ [] := by
    intro hnil
    have hall : back.reverse.all isEdge = true := by
      simpa [hnil] using List.any_dropWhile (p := isEdge) (l := back.reverse)
    rw [List.all_eq_true.mp hall c (List.mem_reverse.mpr hc)] at hedge
    cases hedge
  rw [trimEnd, List.reverse_append, List.dropWhile_append, if_neg (by simpa using hback),
    List.reverse_append, List.reverse_reverse]
  rfl

theorem trimEnd_cons {c : Char} (hedge : isEdge c = false) (rest : List Char) :
    trimEnd (c :: rest) = c :: trimEnd rest := by
  rw [trimEnd, List.reverse_cons, List.dropWhile_append]
  split
  · rename_i hempty
    rw [List.dropWhile_cons_of_neg (by simp [hedge]), trimEnd, List.isEmpty_iff.mp hempty]
    rfl
  · rw [List.reverse_append]
    rfl

theorem trimEnd_eq_self {text : List Char} (h : ∀ c ∈ text, isEdge c = false) :
    trimEnd text = text := by
  induction text with
  | nil => rfl
  | cons c rest ih =>
    rw [trimEnd_cons (h c List.mem_cons_self), ih fun d hd => h d (List.mem_cons_of_mem _ hd)]

theorem not_isSkipped_of_not_isEdge {c : Char} (h : isEdge c = false) : Path.isSkipped c = false := by
  rw [Path.isSkipped, Bool.or_eq_false_iff, Bool.or_eq_false_iff, beq_eq_false_iff_ne,
    beq_eq_false_iff_ne, beq_eq_false_iff_ne]
  refine ⟨⟨?_, ?_⟩, ?_⟩
  all_goals
    rintro rfl
    exact absurd h (by decide)

/-- The character ends a host, or changes how it is read. -/
def delimits (kind : SchemeKind) (c : Char) : Bool :=
  c == ':' || c == '@' || c == '[' || c == '?' || c == '#' || Path.isSeparator kind c

/-- A text that is read as one host where it stands behind user info and in front of a port. -/
structure StandsAlone (kind : SchemeKind) (text : List Char) : Prop where
  plain : ∀ c ∈ text, delimits kind c = false
  visible : ∃ c ∈ text, isEdge c = false
  /-- A letter and a bar would be the drive of a file. -/
  noDrive : (∃ c ∈ text, 0x80 ≤ c.toNat) ∨ '|' ∉ text

namespace StandsAlone

variable {kind : SchemeKind} {host : List Char}

theorem mem {kind : SchemeKind} {host : List Char} (h : StandsAlone kind host) {c : Char}
    (hc : c ∈ host) :
    c ≠ '@' ∧ c ≠ '?' ∧ c ≠ '#' ∧ Path.isSeparator kind c = false := by
  have hplain := h.plain c hc
  simp only [delimits, Bool.or_eq_false_iff, beq_eq_false_iff_ne] at hplain
  obtain ⟨⟨⟨⟨⟨-, hat⟩, -⟩, hquestion⟩, hnumber⟩, hseparator⟩ := hplain
  exact ⟨hat, hquestion, hnumber, hseparator⟩

/-- What counts of a host stands alone if the host does. -/
theorem filter {kind : SchemeKind} {host kept : List Char} (h : StandsAlone kind host)
    (hsub : ∀ c ∈ kept, c ∈ host) (hkept : ∀ c ∈ host, isEdge c = false → c ∈ kept) :
    StandsAlone kind kept := by
  refine ⟨fun c hc => h.plain c (hsub c hc), ?_, ?_⟩
  · obtain ⟨c, hc, hedge⟩ := h.visible
    exact ⟨c, hkept c hc hedge, hedge⟩
  · rcases h.noDrive with ⟨c, hc, hascii⟩ | hbar
    · refine .inl ⟨c, hkept c hc ?_, hascii⟩
      rw [isEdge, decide_eq_false_iff_not]
      omega
    · exact .inr fun hmem => hbar (hsub '|' hmem)

theorem significant {kind : SchemeKind} {host : List Char} (h : StandsAlone kind host) :
    StandsAlone kind (Path.significant host) := by
  refine h.filter (fun c hc => (List.mem_filter.mp hc).1) fun c hc hedge => ?_
  exact List.mem_filter.mpr ⟨hc, by rw [not_isSkipped_of_not_isEdge hedge]; rfl⟩

theorem trimEnd {kind : SchemeKind} {host : List Char} (h : StandsAlone kind host) :
    StandsAlone kind (trimEnd host) := by
  refine h.filter (fun c hc => ?_) fun c hc hedge => ?_
  · exact List.mem_reverse.mp ((List.dropWhile_sublist _).subset (List.mem_reverse.mp hc))
  · rw [Url.trimEnd, List.mem_reverse]
    have hsplit := List.takeWhile_append_dropWhile (p := isEdge) (l := host.reverse)
    rw [← List.mem_reverse, ← hsplit, List.mem_append] at hc
    refine hc.resolve_left fun hfront => ?_
    rw [List.all_eq_true.mp List.all_takeWhile c hfront] at hedge
    cases hedge

theorem not_isDrive {kind : SchemeKind} {host : List Char} (h : StandsAlone kind host) :
    Path.isDrive host = false := by
  unfold Path.isDrive
  split
  · rename_i letter mark
    have hcolon := h.plain mark (by simp)
    simp only [delimits, Bool.or_eq_false_iff, beq_eq_false_iff_ne] at hcolon
    rw [Bool.and_eq_false_iff, Bool.or_eq_false_iff, beq_eq_false_iff_ne, beq_eq_false_iff_ne]
    rcases h.noDrive with ⟨c, hc, hascii⟩ | hbar
    · rcases List.mem_cons.mp hc with rfl | hc
      · left
        rw [← Bool.not_eq_true]
        intro halpha
        refine absurd hascii (Nat.not_le.mpr ?_)
        rcases (Bool.or_eq_true _ _).mp halpha with hupper | hlower
        · exact Nat.lt_of_le_of_lt (of_decide_eq_true hupper).2 (by decide)
        · have hlast := ((Bool.and_eq_true _ _).mp hlower).2
          exact Nat.lt_of_le_of_lt (of_decide_eq_true hlast) (by decide)
      · obtain rfl := List.mem_singleton.mp hc
        refine .inr ⟨hcolon.1.1.1.1.1, ?_⟩
        rintro rfl
        exact absurd hascii (by decide)
    · refine .inr ⟨hcolon.1.1.1.1.1, ?_⟩
      rintro rfl
      exact hbar (by simp)
  · rfl

end StandsAlone

/-- A path from its first slash on, or none. -/
def IsRooted (text : List Char) : Prop := text = [] ∨ ∃ rest, text = '/' :: rest

/-- What follows a port: nothing, or a path, a query or a fragment. -/
def IsTail (text : List Char) : Prop :=
  text = [] ∨ ∃ c rest, text = c :: rest ∧ (c = '/' ∨ c = '?' ∨ c = '#')

theorem IsTail.trimEnd {tail : List Char} (h : IsTail tail) : IsTail (trimEnd tail) := by
  obtain rfl | ⟨c, rest, rfl, hc⟩ := h
  · exact .inl rfl
  · refine .inr ⟨c, Url.trimEnd rest, trimEnd_cons ?_ rest, hc⟩
    rcases hc with rfl | rfl | rfl <;> decide

/-- What stands around a host behind the two slashes of a URL. -/
structure Surrounding (kind : SchemeKind) where
  info : List Char
  port : List Char
  tail : List Char
  info_form : info = [] ∨ ∃ credentials, info = credentials ++ ['@']
  info_plain : ∀ c ∈ info, c ≠ '?' ∧ c ≠ '#' ∧ Path.isSeparator kind c = false
  port_form : port = [] ∨ ∃ digits, port = ':' :: digits ∧ ∀ c ∈ digits, c.isDigit = true
  tail_form : IsTail tail
  file_form : kind = .file → info = [] ∧ port = []

namespace Surrounding

variable {kind : SchemeKind}

/-- The text with the host in its place. -/
def around (outer : Surrounding kind) (host : List Char) : List Char :=
  outer.info ++ host ++ outer.port ++ outer.tail

theorem mem_port (outer : Surrounding kind) {c : Char} (h : c ∈ outer.port) :
    c ≠ '@' ∧ c ≠ '?' ∧ c ≠ '#' ∧ isEdge c = false ∧ Path.isSeparator kind c = false := by
  obtain hnil | ⟨digits, hcolon, hdigits⟩ := outer.port_form
  · rw [hnil] at h
    cases h
  · rw [hcolon] at h
    rcases List.mem_cons.mp h with rfl | hdigit
    · cases kind <;> decide
    · have hdigit := hdigits c hdigit
      have hascii := Text.toNat_lt_of_isDigit hdigit
      revert hdigit
      apply Text.of_ascii hascii
      cases kind <;> decide

/-- No separator stands in front of the host. -/
theorem dropWhile_around (outer : Surrounding kind) {host : List Char} (h : StandsAlone kind host) :
    (outer.around host).dropWhile (Path.isSeparator kind) = outer.around host := by
  have hplain : ∀ c ∈ outer.info ++ host, Path.isSeparator kind c = false := by
    intro c hc
    rcases List.mem_append.mp hc with hc | hc
    · exact (outer.info_plain c hc).2.2
    · exact (h.mem hc).2.2.2
  cases hfront : outer.info ++ host with
  | nil =>
    obtain ⟨c, hc, -⟩ := h.visible
    rw [(List.append_eq_nil_iff.mp hfront).2] at hc
    cases hc
  | cons first rest =>
    have hfirst := hplain first (hfront ▸ List.mem_cons_self)
    rw [around, hfront, List.cons_append, List.cons_append,
      List.dropWhile_cons_of_neg (by simp [hfirst])]

theorem significant_port (outer : Surrounding kind) : Path.significant outer.port = outer.port := by
  refine List.filter_eq_self.mpr fun c hc => ?_
  rw [not_isSkipped_of_not_isEdge (outer.mem_port hc).2.2.2.1]
  rfl

/-- What counts of the surrounding. -/
def significant (outer : Surrounding kind) : Surrounding kind where
  info := Path.significant outer.info
  port := outer.port
  tail := Path.significant outer.tail
  info_form := by
    obtain hnil | ⟨credentials, hinfo⟩ := outer.info_form
    · exact .inl (by rw [hnil]; rfl)
    · exact .inr ⟨Path.significant credentials, by rw [hinfo]; exact List.filter_append ..⟩
  info_plain c hc := outer.info_plain c (List.mem_filter.mp hc).1
  port_form := outer.port_form
  tail_form := by
    obtain hnil | ⟨c, rest, htail, rfl | rfl | rfl⟩ := outer.tail_form
    · exact .inl (by rw [hnil]; rfl)
    · exact .inr ⟨_, Path.significant rest, by rw [htail]; rfl, by simp⟩
    · exact .inr ⟨_, Path.significant rest, by rw [htail]; rfl, by simp⟩
    · exact .inr ⟨_, Path.significant rest, by rw [htail]; rfl, by simp⟩
  file_form hfile := by
    obtain ⟨hinfo, hport⟩ := outer.file_form hfile
    exact ⟨by rw [hinfo]; rfl, hport⟩

theorem significant_tail (outer : Surrounding kind) :
    outer.significant.tail = Path.significant outer.tail := rfl

theorem significant_around (outer : Surrounding kind) (host : List Char) :
    Path.significant (outer.around host) =
      outer.significant.around (Path.significant host) := by
  have happend (front back : List Char) : Path.significant (front ++ back) =
      Path.significant front ++ Path.significant back := List.filter_append ..
  simp only [around, happend, significant_port]
  rfl

/-- The surrounding with another text behind the port. -/
def withTail (outer : Surrounding kind) (tail : List Char) (h : IsTail tail) : Surrounding kind :=
  { outer with tail, tail_form := h }

theorem splitFirst_around (outer : Surrounding kind) {host : List Char} (hhost : StandsAlone kind host)
    {sign : Char} (hsign : sign = '?' ∨ sign = '#') :
    splitFirst (· == sign) ('/' :: '/' :: outer.around host) =
      ('/' :: '/' :: (outer.info ++ host ++ outer.port ++ (splitFirst (· == sign) outer.tail).1),
        (splitFirst (· == sign) outer.tail).2) := by
  have hfront : ∀ c ∈ '/' :: '/' :: (outer.info ++ host ++ outer.port), (c == sign) = false := by
    have hne : ∀ c : Char, c ≠ '?' → c ≠ '#' → (c == sign) = false := by
      intro c hquestion hnumber
      rw [beq_eq_false_iff_ne]
      rcases hsign with rfl | rfl
      · exact hquestion
      · exact hnumber
    intro c hc
    simp only [List.mem_cons, List.mem_append] at hc
    rcases hc with rfl | rfl | (hc | hc) | hc
    · exact hne _ (by decide) (by decide)
    · exact hne _ (by decide) (by decide)
    · exact hne c (outer.info_plain c hc).1 (outer.info_plain c hc).2.1
    · exact hne c (hhost.mem hc).2.1 (hhost.mem hc).2.2.1
    · exact hne c (outer.mem_port hc).2.1 (outer.mem_port hc).2.2.1
  exact splitFirst_append hfront outer.tail

/-- The surrounding without the fragment. -/
def beforeFragment (outer : Surrounding kind) : Surrounding kind :=
  outer.withTail (splitFirst (· == '#') outer.tail).1 <| by
    obtain hnil | ⟨c, rest, htail, hc⟩ := outer.tail_form
    · exact .inl (by rw [hnil]; rfl)
    · rw [htail]
      rcases hc with rfl | rfl | rfl
      · exact .inr ⟨_, _, splitFirst_cons_of_ne (by decide) rest, by simp⟩
      · exact .inr ⟨_, _, splitFirst_cons_of_ne (by decide) rest, by simp⟩
      · exact .inl (by rw [splitFirst_cons rfl])

/-- The surrounding without query and fragment. -/
def body (outer : Surrounding kind) : Surrounding kind :=
  outer.withTail (splitFirst (· == '?') outer.beforeFragment.tail).1 <| by
    obtain hnil | ⟨c, rest, htail, hc⟩ := outer.beforeFragment.tail_form
    · exact .inl (by rw [hnil]; rfl)
    · rw [htail]
      rcases hc with rfl | rfl | rfl
      · exact .inr ⟨_, _, splitFirst_cons_of_ne (by decide) rest, by simp⟩
      · exact .inl (by rw [splitFirst_cons rfl])
      · exact .inr ⟨_, _, splitFirst_cons_of_ne (by decide) rest, by simp⟩

theorem isRooted_body (outer : Surrounding kind) : IsRooted outer.body.tail := by
  change IsRooted (splitFirst (· == '?') (splitFirst (· == '#') outer.tail).1).1
  obtain hnil | ⟨c, rest, htail, rfl | rfl | rfl⟩ := outer.tail_form
  · exact .inl (by rw [hnil]; rfl)
  · rw [htail, splitFirst_cons_of_ne (by decide), splitFirst_cons_of_ne (by decide)]
    exact .inr ⟨_, rfl⟩
  · rw [htail, splitFirst_cons_of_ne (by decide), splitFirst_cons rfl]
    exact .inl rfl
  · rw [htail, splitFirst_cons rfl]
    exact .inl rfl

/-- The surrounding without what does not count at its end. -/
def trimmed (outer : Surrounding kind) : Surrounding kind :=
  outer.withTail (trimEnd outer.tail) outer.tail_form.trimEnd

/-- The host without what does not count at the end of a URL, if nothing follows it. -/
def shown (outer : Surrounding kind) (host : List Char) : List Char :=
  if outer.port = [] ∧ outer.tail = [] then trimEnd host else host

/-- The host as it counts. -/
def seen (outer : Surrounding kind) (host : List Char) : List Char :=
  Path.significant (outer.shown host)

end Surrounding

theorem StandsAlone.shown {kind : SchemeKind} {host : List Char} (h : StandsAlone kind host)
    (outer : Surrounding kind) : StandsAlone kind (outer.shown host) := by
  unfold Surrounding.shown
  split
  · exact h.trimEnd
  · exact h

theorem StandsAlone.seen {kind : SchemeKind} {host : List Char} (h : StandsAlone kind host)
    (outer : Surrounding kind) : StandsAlone kind (outer.seen host) :=
  (h.shown outer).significant

/-- The text of a host that is read as it is written. -/
theorem StandsAlone.of_isPlain {kind : SchemeKind} {host : List Char} (hne : host ≠ [])
    (h : ∀ c ∈ host, Host.isPlain c = true) : StandsAlone kind host := by
  have hsigns : ∀ c : Char, Host.isPlain c = true →
      delimits kind c = false ∧ c ≠ '|' ∧ isEdge c = false := by
    intro c hc
    simp only [Host.isPlain, Host.isForbidden, Bool.and_eq_true, Bool.not_eq_true',
      Bool.or_eq_false_iff, beq_eq_false_iff_ne, decide_eq_true_eq] at hc
    simp [delimits, Path.isSeparator, isEdge, hc]
  refine ⟨fun c hc => (hsigns c (h c hc)).1, ?_, .inr fun hbar => (hsigns '|' (h '|' hbar)).2.1 rfl⟩
  obtain ⟨c, hc⟩ := List.exists_mem_of_ne_nil host hne
  exact ⟨c, hc, (hsigns c (h c hc)).2.2⟩

theorem Surrounding.seen_eq_self {kind : SchemeKind} (outer : Surrounding kind) {host : List Char}
    (h : ∀ c ∈ host, Host.isPlain c = true) : outer.seen host = host := by
  have hedge : ∀ c ∈ host, isEdge c = false := by
    intro c hc
    have hplain := h c hc
    rw [Host.isPlain, Bool.and_eq_true, decide_eq_true_eq] at hplain
    rw [isEdge, decide_eq_false_iff_not]
    exact Nat.not_le.mpr hplain.2
  have hshown : outer.shown host = host := by
    unfold Surrounding.shown
    split
    · exact trimEnd_eq_self hedge
    · rfl
  rw [Surrounding.seen, hshown]
  refine List.filter_eq_self.mpr fun c hc => ?_
  rw [not_isSkipped_of_not_isEdge (hedge c hc)]
  rfl

theorem trimEdges_around {kind : SchemeKind} (outer : Surrounding kind) {host : List Char}
    (hhost : StandsAlone kind host) (start : List Char) :
    trimEdges (start ++ ':' :: '/' :: '/' :: outer.around host) =
      start.dropWhile isEdge ++ ':' :: '/' :: '/' :: outer.trimmed.around (outer.shown host) := by
  have hstart : (start ++ ':' :: '/' :: '/' :: outer.around host).dropWhile isEdge =
      start.dropWhile isEdge ++ ':' :: '/' :: '/' :: outer.around host := by
    rw [List.dropWhile_append]
    split
    · rename_i hempty
      rw [List.isEmpty_iff.mp hempty]
      rfl
    · rfl
  have htrimmed (text : List Char) : outer.trimmed.around text =
      outer.info ++ text ++ outer.port ++ trimEnd outer.tail := rfl
  rw [trimEdges_eq, hstart, htrimmed, Surrounding.around, Surrounding.shown]
  generalize start.dropWhile isEdge = start
  have hmove (text : List Char) : start ++ ':' :: '/' :: '/' :: (outer.info ++ text) =
      (start ++ ':' :: '/' :: '/' :: outer.info) ++ text := by simp
  obtain hnil | ⟨c, rest, htail, hc⟩ := outer.tail_form
  · rw [hnil, List.append_nil]
    obtain hport | ⟨digits, hport, -⟩ := outer.port_form
    · -- Nothing follows the host.
      obtain ⟨c, hc, hedge⟩ := hhost.visible
      rw [hport, List.append_nil, if_pos ⟨rfl, rfl⟩, hmove, trimEnd_append hc hedge, ← hmove]
      simp [trimEnd]
    · have hcolon : ':' ∈ outer.port := hport ▸ List.mem_cons_self
      have hself : trimEnd outer.port = outer.port :=
        trimEnd_eq_self fun c hc => (outer.mem_port hc).2.2.2.1
      rw [if_neg (by simp [hport]), List.append_assoc, hmove, ← List.append_assoc,
        trimEnd_append hcolon (by decide), hself]
      simp [trimEnd]
  · have hedge : isEdge c = false := by
      rcases hc with rfl | rfl | rfl <;> decide
    have hmem : c ∈ outer.tail := htail ▸ List.mem_cons_self
    rw [if_neg (by simp [htail]), List.append_assoc, List.append_assoc, hmove,
      ← List.append_assoc, ← List.append_assoc, trimEnd_append hmem hedge]
    simp

end Recrawl.Url
