import Recrawl.Proofs.Except
import Recrawl.Proofs.Url.Surrounding

/-!
Where the host of a URL stands. A text that stands alone is read as the host, and the rest of the URL
is read without regard to it: two texts for the same host are interchangeable there.
-/

namespace Recrawl.Url

theorem splitScheme?_append {start : List Char} (h : ':' ∉ start) (rest : List Char) :
    splitScheme? (start ++ ':' :: rest) =
      (splitScheme? (start ++ [':'])).map fun read => (read.1, rest) := by
  have hstart : ∀ c ∈ start, (c == ':') = false := by
    intro c hc
    rw [beq_eq_false_iff_ne]
    rintro rfl
    exact h hc
  have hsplit (rest : List Char) : splitFirst (· == ':') (start ++ ':' :: rest) =
      (start, some rest) := by
    rw [splitFirst_append hstart, splitFirst_cons rfl, List.append_nil]
  unfold splitScheme?
  simp only [hsplit]
  cases Path.significant start with
  | nil => rfl
  | cons first others =>
    simp only
    split <;> rfl

theorem splitUserInfo_of_not_mem {text : List Char} (h : '@' ∉ text) :
    splitUserInfo text = (none, text) := by
  have hreverse : ∀ c ∈ text.reverse, (c != '@') = true := by
    intro c hc
    rw [bne_iff_ne]
    rintro rfl
    exact h (List.mem_reverse.mp hc)
  have hrest : text.reverse.dropWhile (· != '@') = [] := by
    rw [← List.append_nil text.reverse, List.dropWhile_append_of_pos hreverse, List.dropWhile_nil]
  rw [splitUserInfo, hrest]

theorem splitUserInfo_append {text : List Char} (h : '@' ∉ text) (info : List Char) :
    splitUserInfo (info ++ '@' :: text) = (some info, text) := by
  have hreverse : ∀ c ∈ text.reverse, (c != '@') = true := by
    intro c hc
    rw [bne_iff_ne]
    rintro rfl
    exact h (List.mem_reverse.mp hc)
  have htext : (info ++ '@' :: text).reverse = text.reverse ++ '@' :: info.reverse := by simp
  rw [splitUserInfo, htext, List.dropWhile_append_of_pos hreverse,
    List.takeWhile_append_of_pos hreverse]
  simp

theorem hostExtent_append {host port : List Char} (h : ∀ c ∈ host, c ≠ ':' ∧ c ≠ '[')
    (hport : port = [] ∨ ∃ digits, port = ':' :: digits) :
    hostExtent false (host ++ port) = host := by
  induction host with
  | nil =>
    obtain rfl | ⟨digits, rfl⟩ := hport
    · rfl
    · rfl
  | cons c rest ih =>
    obtain ⟨hcolon, hbracket⟩ := h c List.mem_cons_self
    rw [List.cons_append, hostExtent]
    simp [hcolon, hbracket, ih fun d hd => h d (List.mem_cons_of_mem _ hd)]

theorem takeWhile_append_separator {kind : SchemeKind} {front back : List Char}
    (hfront : ∀ c ∈ front, Path.isSeparator kind c = false)
    (hback : IsRooted back) :
    (front ++ back).takeWhile (fun c => !Path.isSeparator kind c) = front ∧
      (front ++ back).dropWhile (fun c => !Path.isSeparator kind c) = back := by
  have hfront' : ∀ c ∈ front, (!Path.isSeparator kind c) = true := by
    intro c hc
    rw [hfront c hc]
    rfl
  rw [List.takeWhile_append_of_pos hfront', List.dropWhile_append_of_pos hfront']
  obtain rfl | ⟨rest, rfl⟩ := hback
  · simp
  · simp [Path.isSeparator]

/-- Reads a port, with the colon in front of it. -/
def readPortPart (scheme : List Char) : List Char → Except Fault (Option Nat × List Char)
  | [] => .ok (none, [])
  | _ :: behind => do
    let digits := behind.takeWhile (· != '\\')
    let port ← readPort digits
    pure (if port == defaultPort? scheme then none else port, behind.drop digits.length)

theorem readHostPort_append {scheme host port : List Char}
    (hkind : SchemeKind.ofScheme scheme ≠ .file)
    (hhost : StandsAlone (SchemeKind.ofScheme scheme) host)
    (hport : port = [] ∨ ∃ digits, port = ':' :: digits) :
    readHostPort scheme (host ++ port) = (do
      let read ← Host.read (SchemeKind.ofScheme scheme) host
      let (number, rest) ← readPortPart scheme port
      pure (some read, number, rest)) := by
  have hextent : hostExtent false (host ++ port) = host := by
    refine hostExtent_append (fun c hc => ?_) hport
    have hplain := hhost.plain c hc
    simp only [delimits, Bool.or_eq_false_iff, beq_eq_false_iff_ne] at hplain
    exact ⟨hplain.1.1.1.1.1, hplain.1.1.1.2⟩
  have hne : host.isEmpty = false := by
    obtain ⟨c, hc, -⟩ := hhost.visible
    rw [List.isEmpty_eq_false_iff]
    exact List.ne_nil_of_mem hc
  unfold readHostPort
  simp only [hextent, List.drop_left, hne]
  cases hread : SchemeKind.ofScheme scheme with
  | file => exact absurd hread hkind
  | web =>
    change _ = Host.parseSpecial host >>= _
    cases Host.parseSpecial host with
    | error fault => rfl
    | ok read =>
      obtain rfl | ⟨digits, rfl⟩ := hport
      · rfl
      · simp only [readPortPart]
        cases readPort (digits.takeWhile (· != '\\')) <;> rfl
  | other =>
    change _ = Host.parseOther host >>= _
    cases Host.parseOther host with
    | error fault => rfl
    | ok read =>
      obtain rfl | ⟨digits, rfl⟩ := hport
      · rfl
      · simp only [readPortPart]
        cases readPort (digits.takeWhile (· != '\\')) <;> rfl

/-- Behind the slashes, user info, host and port are read each by itself. -/
theorem readAuthority_around {kind : SchemeKind} {scheme host : List Char}
    (hscheme : SchemeKind.ofScheme scheme = kind) (hkind : kind ≠ .file) (outer : Surrounding kind)
    (hhost : StandsAlone kind host)
    (htail : IsRooted outer.tail) (followed : Bool) :
    readAuthority scheme (outer.around host) followed = (do
      let read ← Host.read kind host
      let (number, rest) ← readPortPart scheme outer.port
      let (username, password) := readUserInfo ((splitUserInfo outer.info).1.getD [])
      pure (⟨username, password, some read, number⟩, rest ++ outer.tail)) := by
  subst hscheme
  have hfront : ∀ c ∈ outer.info ++ host ++ outer.port,
      Path.isSeparator (SchemeKind.ofScheme scheme) c = false := by
    intro c hc
    rcases List.mem_append.mp hc with hc | hc
    · rcases List.mem_append.mp hc with hc | hc
      · exact (outer.info_plain c hc).2.2
      · exact (hhost.mem hc).2.2.2
    · exact (outer.mem_port hc).2.2.2.2
  have hextent := (takeWhile_append_separator hfront htail).1
  rw [← Surrounding.around] at hextent
  have hat : '@' ∉ host ++ outer.port := by
    intro hmem
    rcases List.mem_append.mp hmem with hmem | hmem
    · exact (hhost.mem hmem).1 rfl
    · exact (outer.mem_port hmem).1 rfl
  have hsplit : splitUserInfo (outer.info ++ host ++ outer.port) =
      ((splitUserInfo outer.info).1, host ++ outer.port) := by
    rw [List.append_assoc]
    obtain hnil | ⟨credentials, hinfo⟩ := outer.info_form
    · rw [hnil, List.nil_append, splitUserInfo_of_not_mem hat]
      rfl
    · have hnone : '@' ∉ ([] : List Char) := List.not_mem_nil
      have hempty := splitUserInfo_append hnone credentials
      rw [hinfo, hempty, List.append_assoc, List.singleton_append, splitUserInfo_append hat]
  have hdrop : (outer.around host).drop (outer.info ++ host ++ outer.port).length = outer.tail :=
    List.drop_left
  have hne : (host ++ outer.port).isEmpty = false := by
    obtain ⟨c, hc, -⟩ := hhost.visible
    rw [List.isEmpty_eq_false_iff]
    exact List.ne_nil_of_mem (List.mem_append_left _ hc)
  have hport : outer.port = [] ∨ ∃ digits, outer.port = ':' :: digits := by
    obtain hnil | ⟨digits, hcolon, -⟩ := outer.port_form
    · exact .inl hnil
    · exact .inr ⟨digits, hcolon⟩
  have hfilled : ((splitUserInfo outer.info).1 == some [] && false &&
      (followed || !outer.tail.isEmpty)) = false := by rw [Bool.and_false, Bool.false_and]
  unfold readAuthority
  simp only [hextent, hdrop, hsplit, hne, hfilled, readHostPort_append hkind hhost hport]
  cases Host.read (SchemeKind.ofScheme scheme) host with
  | error fault => rfl
  | ok read =>
    cases readPortPart scheme outer.port with
    | error fault => rfl
    | ok numbered => rfl

/-- Reads the path behind the host of a file. The local host is left out, and so is any host if the
path names a drive. -/
def finishFile (outer : Surrounding .file) (read : Host) : Authority × List Char :=
  if read == .name "localhost".toList then ({}, (Path.parse .file outer.tail).1)
  else
    let rooted := readRootedPath .file outer.tail
    ({ host := if rooted.2 then none else some read }, rooted.1)

theorem finishFile_host (outer : Surrounding .file) (read : Host) :
    (finishFile outer read).1.host = none ∨ (finishFile outer read).1.host = some read := by
  unfold finishFile
  split
  · exact .inl rfl
  · simp only
    split
    · exact .inl rfl
    · exact .inr rfl

/-- Behind the slashes of a file, the host is read by itself, and then the path. -/
theorem readFile_around {host : List Char} (outer : Surrounding .file)
    (hhost : StandsAlone .file host)
    (htail : IsRooted outer.tail) :
    readFile ('/' :: '/' :: outer.around host) =
      (Host.parseSpecial (Path.significant host)).map (finishFile outer) := by
  obtain ⟨hinfo, hport⟩ := outer.file_form rfl
  have haround : outer.around host = host ++ outer.tail := by
    rw [Surrounding.around, hinfo, hport, List.nil_append, List.append_nil]
  obtain ⟨htake, hrest⟩ :=
    takeWhile_append_separator (fun c hc => (hhost.mem hc).2.2.2) htail
  have hslashes : (dropSeparator? ('/' :: '/' :: (host ++ outer.tail))).bind dropSeparator? =
      some (host ++ outer.tail) := rfl
  have hne : (Path.significant host).isEmpty = false := by
    obtain ⟨c, hc, -⟩ := hhost.significant.visible
    rw [List.isEmpty_eq_false_iff]
    exact List.ne_nil_of_mem hc
  unfold readFile finishFile
  simp only [haround, hslashes, htake, hrest, hhost.significant.not_isDrive, hne]
  generalize readRootedPath .file outer.tail = rooted
  generalize Path.parse .file outer.tail = rootless
  cases Host.parseSpecial (Path.significant host) with
  | error fault => rfl
  | ok read =>
    change (if false || some read == some (.name "localhost".toList) then _ else _) =
      Except.ok (if read == .name "localhost".toList then _ else _)
    rw [Bool.false_or, Option.some_beq_some]
    split <;> rfl

/-- Reads what stands around a host that is read: the port, the user info and the path. -/
def finishAuthority {kind : SchemeKind} (scheme : List Char) (outer : Surrounding kind) (read : Host) :
    Except Fault (Option Authority × List Char) := do
  let (number, rest) ← readPortPart scheme outer.port
  let (username, password) := readUserInfo ((splitUserInfo outer.info).1.getD [])
  pure (some ⟨username, password, some read, number⟩, (readRootedPath kind (rest ++ outer.tail)).1)

theorem finishAuthority_host {kind : SchemeKind} {scheme : List Char} {outer : Surrounding kind}
    (read : Host) (result : Option Authority × List Char)
    (h : finishAuthority scheme outer read = .ok result) :
    result.1.bind (·.host) = none ∨ result.1.bind (·.host) = some read := by
  unfold finishAuthority at h
  obtain ⟨numbered, -, hresult⟩ := exists_of_bind_eq_ok h
  obtain rfl := Except.ok.inj hresult
  exact .inr rfl

/-- Between scheme and query, only the host itself says how it is read, and the rest is read without
regard to it. -/
theorem exists_readBody {kind : SchemeKind} {scheme : List Char}
    (hscheme : SchemeKind.ofScheme scheme = kind) (outer : Surrounding kind)
    (htail : IsRooted outer.tail) (followed : Bool) :
    ∃ finish : Host → Except Fault (Option Authority × List Char),
      (∀ host, StandsAlone kind host →
        readBody scheme ('/' :: '/' :: outer.around host) followed =
          Host.read kind (Path.significant host) >>= finish) ∧
      ∀ read result, finish read = .ok result →
        result.1.bind (·.host) = none ∨ result.1.bind (·.host) = some read := by
  have htail' : IsRooted outer.significant.tail := by
    obtain hnil | ⟨rest, hslash⟩ := htail
    · exact .inl (by rw [Surrounding.significant_tail, hnil]; rfl)
    · exact .inr ⟨Path.significant rest, by rw [Surrounding.significant_tail, hslash]; rfl⟩
  have hslashes (host : List Char) : Path.significant ('/' :: '/' :: outer.around host) =
      '/' :: '/' :: outer.significant.around (Path.significant host) := by
    rw [← outer.significant_around]
    rfl
  cases kind with
  | file =>
    refine ⟨fun read => .ok (some (finishFile outer read).1, (finishFile outer read).2),
      fun host hhost => ?_, fun read result hresult => ?_⟩
    · simp only [readBody, hscheme, readFile_around outer hhost htail]
      change _ = Host.parseSpecial (Path.significant host) >>= _
      cases Host.parseSpecial (Path.significant host) <;> rfl
    · obtain rfl := Except.ok.inj hresult
      exact finishFile_host outer read
  | web =>
    refine ⟨finishAuthority scheme outer.significant, fun host hhost => ?_, finishAuthority_host⟩
    have hdrop : (Path.significant ('/' :: '/' :: outer.around host)).dropWhile
        (Path.isSeparator .web) = outer.significant.around (Path.significant host) := by
      rw [hslashes, List.dropWhile_cons_of_pos rfl, List.dropWhile_cons_of_pos rfl,
        outer.significant.dropWhile_around hhost.significant]
    simp only [readBody, hscheme, hdrop,
      readAuthority_around hscheme (by decide) outer.significant hhost.significant htail']
    cases Host.read .web (Path.significant host) with
    | error fault => rfl
    | ok read =>
      change _ = finishAuthority scheme outer.significant read
      rw [finishAuthority]
      cases readPortPart scheme outer.significant.port <;> rfl
  | other =>
    refine ⟨finishAuthority scheme outer.significant, fun host hhost => ?_, finishAuthority_host⟩
    simp only [readBody, hscheme, hslashes,
      readAuthority_around hscheme (by decide) outer.significant hhost.significant htail']
    cases Host.read .other (Path.significant host) with
    | error fault => rfl
    | ok read =>
      change _ = finishAuthority scheme outer.significant read
      rw [finishAuthority]
      cases readPortPart scheme outer.significant.port <;> rfl

/-- A URL from what is read in front of its query, and from query and fragment as written. -/
def assemble (scheme : List Char) (query fragment : Option (List Char))
    (body : Option Authority × List Char) : Url :=
  let querySet := if (SchemeKind.ofScheme scheme).isSpecial then CharSet.webQuery else CharSet.query
  { scheme
    authority := body.1
    path := body.2
    query := query.map fun text => Percent.encode querySet (Path.significant text)
    fragment := fragment.map fun text => Percent.encode CharSet.fragment (Path.significant text) }

/-- The scheme of a URL is what stands in front of its first colon. -/
theorem exists_splitScheme?_of_ofChars {text : List Char} {url : Url} (h : ofChars text = .ok url) :
    ∃ rest, splitScheme? (trimEdges text) = some (url.scheme, rest) := by
  unfold ofChars at h
  split at h
  · cases h
  · rename_i scheme rest hscheme
    generalize splitFirst (· == '#') rest = front at h
    obtain ⟨beforeFragment, fragment⟩ := front
    simp only at h
    obtain ⟨body, -, hurl⟩ := exists_of_bind_eq_ok h
    obtain rfl := Except.ok.inj hurl
    exact ⟨rest, hscheme⟩

theorem splitScheme?_of_ofChars {kind : SchemeKind} {start host : List Char} {url : Url}
    (hcolon : ':' ∉ start) (outer : Surrounding kind) (hhost : StandsAlone kind host)
    (h : ofChars (start ++ ':' :: '/' :: '/' :: outer.around host) = .ok url) :
    splitScheme? (start.dropWhile isEdge ++ [':']) = some (url.scheme, []) := by
  obtain ⟨rest, hsplit⟩ := exists_splitScheme?_of_ofChars h
  have hcolon' : ':' ∉ start.dropWhile isEdge := fun hmem =>
    hcolon ((List.dropWhile_sublist _).subset hmem)
  rw [trimEdges_around outer hhost, splitScheme?_append hcolon'] at hsplit
  obtain ⟨⟨scheme, behind⟩, hstart, hpair⟩ := Option.map_eq_some_iff.mp hsplit
  have hself := splitScheme?_append hcolon' []
  rw [hstart] at hself
  cases hpair
  rw [hstart, hself]
  rfl

/-- A URL with a host is read alike for each spelling of the host. -/
theorem exists_ofChars {kind : SchemeKind} {scheme start : List Char}
    (hscheme : SchemeKind.ofScheme scheme = kind) (hcolon : ':' ∉ start)
    (hstart : splitScheme? (start.dropWhile isEdge ++ [':']) = some (scheme, []))
    (outer : Surrounding kind) :
    ∃ finish : Host → Except Fault Url,
      (∀ host, StandsAlone kind host →
        ofChars (start ++ ':' :: '/' :: '/' :: outer.around host) =
          Host.read kind (outer.seen host) >>= finish) ∧
      ∀ read url, finish read = .ok url → url.host? = none ∨ url.host? = some read := by
  let inner := outer.trimmed
  let fragment := (splitFirst (· == '#') inner.tail).2
  let query := (splitFirst (· == '?') inner.beforeFragment.tail).2
  obtain ⟨finishBody, hbody, hread⟩ :=
    exists_readBody hscheme inner.body inner.isRooted_body (query.isSome || fragment.isSome)
  refine ⟨fun read => (finishBody read).map (assemble scheme query fragment), fun host hhost => ?_,
    ?_⟩
  · -- What counts of the host stands in what counts of the surrounding.
    have hshown := hhost.shown outer
    have hcolon' : ':' ∉ start.dropWhile isEdge := fun hmem =>
      hcolon ((List.dropWhile_sublist _).subset hmem)
    have hsplit : splitScheme? (trimEdges (start ++ ':' :: '/' :: '/' :: outer.around host)) =
        some (scheme, '/' :: '/' :: inner.around (outer.shown host)) := by
      rw [trimEdges_around outer hhost, splitScheme?_append hcolon', hstart]
      rfl
    have hfragment : splitFirst (· == '#') ('/' :: '/' :: inner.around (outer.shown host)) =
        ('/' :: '/' :: inner.beforeFragment.around (outer.shown host), fragment) :=
      inner.splitFirst_around hshown (.inr rfl)
    have hquery : splitFirst (· == '?') ('/' :: '/' :: inner.beforeFragment.around (outer.shown host)) =
        ('/' :: '/' :: inner.body.around (outer.shown host), query) :=
      inner.beforeFragment.splitFirst_around hshown (.inl rfl)
    unfold ofChars
    simp only [hsplit, hfragment, hquery, hbody _ hshown]
    change _ = Host.read kind (outer.seen host) >>= _
    rw [← Surrounding.seen]
    cases Host.read kind (outer.seen host) with
    | error fault => rfl
    | ok read =>
      change (finishBody read >>= _) = (finishBody read).map _
      cases finishBody read <;> rfl
  · intro read url hurl
    cases hresult : finishBody read with
    | error fault =>
      simp only [hresult] at hurl
      cases hurl
    | ok result =>
      simp only [hresult] at hurl
      obtain rfl := Except.ok.inj hurl
      exact hread read result hresult

end Recrawl.Url
