import Recrawl.Link.UrlFilter
import Recrawl.Proofs.Text.Trimming
import Recrawl.Proofs.Url.Parser

/-!
The host that the filter for hosts beyond ASCII finds in the text of a target, and when it is the one
that the reader of URLs finds.
-/

namespace Recrawl.UrlFilter

open Url

/-- The part of a target up to its first colon, if two slashes follow it. -/
theorem splitAuthority?_of_first {start : List Char} (h : ':' ∉ start) (rest : List Char) :
    splitAuthority? (start ++ ':' :: '/' :: '/' :: rest) = some (start ++ [':', '/', '/'], rest) := by
  induction start with
  | nil => rfl
  | cons c start ih =>
    have hc : c ≠ ':' := fun heq => h (heq ▸ List.mem_cons_self)
    rw [List.cons_append, splitAuthority?, ih fun hmem => h (List.mem_cons_of_mem _ hmem)]
    · rfl
    · intro rest heq
      exact absurd heq hc

theorem eq_append_of_splitAuthority? {target before behind : List Char}
    (h : splitAuthority? target = some (before, behind)) : target = before ++ behind := by
  fun_induction splitAuthority? target generalizing before with
  | case1 => cases h
  | case2 rest =>
    cases h
    rfl
  | case3 c rest _ ih =>
    obtain ⟨⟨front, other⟩, hrest, hpair⟩ := Option.map_eq_some_iff.mp h
    cases hpair
    rw [ih hrest, List.cons_append]

/-- A text is divided at the last character that stops a search from its end. -/
theorem exists_append_takeWhile_reverse (p : Char → Bool) (text : List Char) :
    ∃ front, text = front ++ (text.reverse.takeWhile p).reverse ∧
      (front = [] ∨ ∃ before c, front = before ++ [c] ∧ p c = false) := by
  refine ⟨(text.reverse.dropWhile p).reverse, ?_, ?_⟩
  · rw [← List.reverse_append, List.takeWhile_append_dropWhile, List.reverse_reverse]
  · cases hdrop : text.reverse.dropWhile p with
    | nil => exact .inl rfl
    | cons c rest =>
      have hc : p c = false := Text.head?_dropWhile (by rw [hdrop]; rfl)
      exact .inr ⟨rest.reverse, c, List.reverse_cons, hc⟩

/-- A host ends before a port, which is a colon and digits. -/
theorem drop_hostLength (hostPort : List Char) :
    hostPort.drop (hostLength hostPort) = [] ∨ ∃ digits,
      hostPort.drop (hostLength hostPort) = ':' :: digits ∧ ∀ c ∈ digits, c.isDigit = true := by
  obtain ⟨front, hsplit, hfront⟩ := exists_append_takeWhile_reverse (· != ':') hostPort
  unfold hostLength
  simp only
  split
  · rename_i hport
    simp only [Bool.and_eq_true, decide_eq_true_eq] at hport
    obtain ⟨⟨hlength, -⟩, hdigits⟩ := hport
    generalize hostPort.reverse.takeWhile (· != ':') = port at *
    obtain rfl | ⟨before, c, rfl, hc⟩ := hfront
    · rw [hsplit, List.nil_append, List.length_reverse] at hlength
      exact absurd hlength (Nat.lt_irrefl _)
    · obtain rfl : c = ':' := by simpa using hc
      have hhost : hostPort.length - port.length - 1 = before.length := by
        rw [hsplit]
        simp only [List.length_append, List.length_reverse, List.length_cons, List.length_nil]
        omega
      rw [hhost, hsplit, List.append_assoc, List.drop_left]
      exact .inr ⟨port.reverse, rfl, fun c hc =>
        List.all_eq_true.mp hdigits c (List.mem_reverse.mp hc)⟩
  · exact .inl List.drop_length

/-- What stands behind the slashes of a target, as the filter divides it. -/
structure Division where
  info : List Char
  hostPort : List Char
  tail : List Char
  info_form : info = [] ∨ ∃ credentials, info = credentials ++ ['@']
  not_mem_hostPort : '@' ∉ hostPort
  plain : ∀ c ∈ info ++ hostPort, c ≠ '/' ∧ c ≠ '?' ∧ c ≠ '#'
  tail_form : IsTail tail

namespace Division

variable (division : Division)

/-- The host in front of a port. -/
def host : List Char := division.hostPort.take (hostLength division.hostPort)

/-- A port with its colon, or nothing. -/
def port : List Char := division.hostPort.drop (hostLength division.hostPort)

/-- The target with the slashes and what is in front of them. -/
def written (start : List Char) : WrittenHost :=
  ⟨start ++ division.info, division.host, division.port ++ division.tail⟩

theorem host_append_port : division.host ++ division.port = division.hostPort :=
  List.take_append_drop _ _

theorem mem_hostPort {c : Char} (h : c ∈ division.host) : c ∈ division.hostPort :=
  List.mem_of_mem_take h

end Division

theorem exists_of_writtenHost? {target : List Char} {written : WrittenHost}
    (h : writtenHost? target = some written) :
    ∃ start, ∃ division : Division, written = division.written start ∧
      splitAuthority? target = some (start, division.info ++ division.hostPort ++ division.tail) := by
  unfold writtenHost? at h
  split at h
  · cases h
  · rename_i start behind hstart
    obtain rfl := Option.some.inj h
    have hplain : ∀ c ∈ behind.takeWhile (fun c => !endsAuthority c), c ≠ '/' ∧ c ≠ '?' ∧ c ≠ '#' := by
      intro c hc
      have hc := List.all_eq_true.mp List.all_takeWhile c hc
      simp only [endsAuthority, Bool.not_eq_true', Bool.or_eq_false_iff, beq_eq_false_iff_ne] at hc
      exact ⟨hc.1.1, hc.1.2, hc.2⟩
    have hbehind := List.takeWhile_append_dropWhile (p := fun c => !endsAuthority c) (l := behind)
    have htail : IsTail (behind.dropWhile fun c => !endsAuthority c) := by
      cases hdrop : behind.dropWhile fun c => !endsAuthority c with
      | nil => exact .inl rfl
      | cons c rest =>
        have hc := Text.head?_dropWhile (x := c) (by rw [hdrop]; rfl)
        rw [Bool.not_eq_false'] at hc
        simp only [endsAuthority, Bool.or_eq_true, beq_iff_eq, or_assoc] at hc
        exact .inr ⟨c, rest, rfl, hc⟩
    generalize behind.takeWhile (fun c => !endsAuthority c) = authority at hplain hbehind ⊢
    generalize behind.dropWhile (fun c => !endsAuthority c) = tail at htail hbehind ⊢
    subst hbehind
    obtain ⟨info, hauthority, hinfo⟩ := exists_append_takeWhile_reverse (· != '@') authority
    have hat : '@' ∉ (authority.reverse.takeWhile (· != '@')).reverse := by
      intro hmem
      have hall := List.all_eq_true.mp List.all_takeWhile '@' (List.mem_reverse.mp hmem)
      exact absurd hall (by decide)
    generalize (authority.reverse.takeWhile (· != '@')).reverse = hostPort at hat hauthority ⊢
    subst hauthority
    refine ⟨start, ⟨info, hostPort, tail, ?_, hat, hplain, htail⟩, ?_, hstart⟩
    · obtain rfl | ⟨credentials, c, rfl, hc⟩ := hinfo
      · exact .inl rfl
      · obtain rfl : c = '@' := by simpa using hc
        exact .inr ⟨credentials, rfl⟩
    · simp [Division.written, Division.host, Division.port]

theorem eq_append_of_writtenHost? {target : List Char} {written : WrittenHost}
    (h : writtenHost? target = some written) :
    target = written.before ++ written.host ++ written.after := by
  obtain ⟨start, division, rfl, hstart⟩ := exists_of_writtenHost? h
  calc
    target = start ++ (division.info ++ division.hostPort ++ division.tail) :=
      eq_append_of_splitAuthority? hstart
    _ = start ++ (division.info ++ (division.host ++ division.port) ++ division.tail) := by
      rw [division.host_append_port]
    _ = start ++ division.info ++ division.host ++ (division.port ++ division.tail) := by
      simp only [List.append_assoc]

/-- The host in the text is where a URL of the given kind has it. -/
structure WrittenHost.InPlace (kind : SchemeKind) (written : WrittenHost) : Prop where
  /-- The slashes in front of it follow the first colon, which ends the scheme. -/
  slashes : (written.before.dropWhile (· != ':')).take 3 = [':', '/', '/']
  /-- No backslash counts as a slash before its end. -/
  backslash : kind.isSpecial = true → '\\' ∉ written.before ++ written.host
  colon : ':' ∉ written.host
  bracket : '[' ∉ written.host
  /-- A file has neither user info nor port. -/
  file : kind = .file → written.before.getLast? = some '/' ∧ written.after.head? ≠ some ':'

theorem WrittenHost.InPlace.exists_start {kind : SchemeKind} {written : WrittenHost}
    (h : written.InPlace kind) :
    ∃ start rest, ':' ∉ start ∧ written.before = start ++ ':' :: '/' :: '/' :: rest := by
  obtain ⟨start, hbefore, hstart⟩ := Text.exists_append_dropWhile (· != ':') written.before
  refine ⟨start, (written.before.dropWhile (· != ':')).drop 3, fun hmem => ?_, ?_⟩
  · exact absurd (hstart ':' hmem) (by decide)
  · have hslashes := List.take_append_drop 3 (written.before.dropWhile (· != ':'))
    rw [h.slashes] at hslashes
    rw [← hslashes] at hbefore
    exact hbefore

namespace Division

variable {kind : SchemeKind} {division : Division} {start : List Char}

theorem not_isSeparator (h : (division.written start).InPlace kind) {c : Char}
    (hc : c ∈ division.info ++ division.host) : Path.isSeparator kind c = false := by
  have hslash : c ≠ '/' := by
    rcases List.mem_append.mp hc with hc | hc
    · exact (division.plain c (List.mem_append_left _ hc)).1
    · exact (division.plain c (List.mem_append_right _ (division.mem_hostPort hc))).1
  have hback : kind.isSpecial = true → c ≠ '\\' := by
    rintro hspecial rfl
    refine h.backslash hspecial ?_
    rw [written, List.append_assoc]
    exact List.mem_append_right _ hc
  rw [Path.isSeparator, Bool.or_eq_false_iff, beq_eq_false_iff_ne]
  refine ⟨hslash, ?_⟩
  cases hspecial : kind.isSpecial with
  | false => rfl
  | true => simpa using hback hspecial

/-- A host beyond ASCII stands alone in its place. -/
theorem standsAlone (h : (division.written start).InPlace kind)
    (hunicode : (division.host.all fun c => decide (c.toNat < 0x80)) = false) :
    StandsAlone kind division.host := by
  obtain ⟨c, hc, hbeyond⟩ : ∃ c ∈ division.host, 0x80 ≤ c.toNat := by
    obtain ⟨c, hc, hno⟩ := List.all_eq_false.mp hunicode
    exact ⟨c, hc, by simpa using hno⟩
  refine ⟨fun d hd => ?_, ⟨c, hc, ?_⟩, .inl ⟨c, hc, hbeyond⟩⟩
  · have hplain := division.plain d (List.mem_append_right _ (division.mem_hostPort hd))
    have hcolon : d ≠ ':' := fun heq => h.colon (heq ▸ hd)
    have hbracket : d ≠ '[' := fun heq => h.bracket (heq ▸ hd)
    have hat : d ≠ '@' := fun heq => division.not_mem_hostPort (heq ▸ division.mem_hostPort hd)
    simp [delimits, hcolon, hat, hbracket, hplain.2.1, hplain.2.2,
      not_isSeparator h (List.mem_append_right _ hd)]
  · rw [isEdge, decide_eq_false_iff_not]
    omega

/-- What stands around a host in its place. -/
def surrounding (h : (division.written start).InPlace kind) : Surrounding kind where
  info := division.info
  port := division.port
  tail := division.tail
  info_form := division.info_form
  info_plain c hc := by
    have hplain := division.plain c (List.mem_append_left _ hc)
    exact ⟨hplain.2.1, hplain.2.2, not_isSeparator h (List.mem_append_left _ hc)⟩
  port_form := drop_hostLength division.hostPort
  tail_form := division.tail_form
  file_form hfile := by
    obtain ⟨hbefore, hafter⟩ := h.file hfile
    constructor
    · obtain hnil | ⟨credentials, hinfo⟩ := division.info_form
      · exact hnil
      · rw [written, hinfo, ← List.append_assoc, List.getLast?_concat] at hbefore
        exact absurd (Option.some.inj hbefore) (by decide)
    · obtain hnil | ⟨digits, hcolon, -⟩ := drop_hostLength division.hostPort
      · exact hnil
      · rw [written, port, hcolon] at hafter
        exact absurd rfl hafter

end Division

/-- A host in its place is one among its neighbours for the reader of URLs. -/
theorem exists_surrounding {kind : SchemeKind} {target : List Char} {written : WrittenHost}
    (h : writtenHost? target = some written) (hplace : written.InPlace kind)
    (hunicode : (written.host.all fun c => decide (c.toNat < 0x80)) = false) :
    ∃ (start : List Char) (outer : Surrounding kind), ':' ∉ start ∧
      StandsAlone kind written.host ∧ ∀ host, written.before ++ host ++ written.after =
        start ++ ':' :: '/' :: '/' :: outer.around host := by
  have htarget := eq_append_of_writtenHost? h
  obtain ⟨start, rest, hstart, hbefore⟩ := hplace.exists_start
  obtain ⟨front, division, rfl, hfront⟩ := exists_of_writtenHost? h
  -- The first colon is the one in front of the first two slashes that follow a colon.
  have hsame : front = start ++ [':', '/', '/'] := by
    rw [htarget, hbefore, List.append_assoc, List.append_assoc, List.cons_append, List.cons_append,
      List.cons_append, splitAuthority?_of_first hstart] at hfront
    exact (Prod.mk.inj (Option.some.inj hfront)).1.symm
  refine ⟨start, Division.surrounding hplace, hstart, Division.standsAlone hplace hunicode,
    fun host => ?_⟩
  simp [hsame, Division.written, Division.surrounding, Surrounding.around]

end Recrawl.UrlFilter
