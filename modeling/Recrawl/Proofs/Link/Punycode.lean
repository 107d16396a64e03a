import Recrawl.Proofs.Except
import Recrawl.Proofs.Link.WrittenHost

/-!
The filter that writes hosts in ASCII. It finds the host in the text of a target by itself, and takes
what to write there from the URL that the target is read as. Where the two mean the same place, the
new target is the same URL.
-/

namespace Recrawl.UrlFilter

open Url

/-- A target whose host is in its place is the same URL with the host as it is read. -/
theorem ofChars_of_inPlace {target : List Char} {url : Url} {written : WrittenHost} {host : Host}
    (hurl : ofChars target = .ok url) (hwritten : writtenHost? target = some written)
    (hunicode : (written.host.all fun c => decide (c.toNat < 0x80)) = false)
    (hhost : url.host? = some host)
    (hplace : written.InPlace (SchemeKind.ofScheme url.scheme))
    (hcomparable : (SchemeKind.ofScheme url.scheme).isSpecial = true → host.isComparable = true) :
    ofChars (written.before ++ host.render ++ written.after) = .ok url := by
  obtain ⟨start, outer, hcolon, halone, haround⟩ := exists_surrounding hwritten hplace hunicode
  have htarget := eq_append_of_writtenHost? hwritten
  rw [haround] at htarget
  have hscheme := splitScheme?_of_ofChars hcolon outer halone (htarget ▸ hurl)
  obtain ⟨finish, hread, hfinish⟩ := exists_ofChars rfl hcolon hscheme outer
  have hold := hread written.host halone
  rw [← htarget, hurl] at hold
  obtain ⟨read, hreadHost, hresult⟩ := exists_of_bind_eq_ok hold.symm
  obtain rfl : read = host := by
    rcases hfinish read url hresult with hnone | hsome
    · rw [hnone] at hhost
      cases hhost
    · rw [hsome] at hhost
      exact Option.some.inj hhost
  have hseen := halone.seen outer
  have hbracket : '[' ∉ outer.seen written.host := fun hmem =>
    absurd (hseen.plain '[' hmem) (by cases SchemeKind.ofScheme url.scheme <;> decide)
  have hnonempty : outer.seen written.host ≠ [] := by
    obtain ⟨c, hc, -⟩ := hseen.visible
    exact List.ne_nil_of_mem hc
  obtain ⟨hagain, hne, hplain⟩ := Host.read_render hreadHost hbracket hnonempty hcomparable
  rw [haround, hread read.render (StandsAlone.of_isPlain hne hplain), outer.seen_eq_self hplain,
    hagain]
  exact hresult

/-- The filter puts another host for the one that it finds. -/
def Rewrites (target : List Char) (written : WrittenHost) : Prop :=
  writtenHost? target = some written ∧
    (written.host.all fun c => decide (c.toNat < 0x80)) = false

theorem applyPunycode_of_rewrites {target : List Char} {url : Url} {written : WrittenHost}
    (hurl : ofChars target = .ok url) (h : Rewrites target written) :
    applyPunycode target =
      url.host?.map fun host => written.before ++ host.render ++ written.after := by
  rw [applyPunycode, hurl]
  simp only [h.1, h.2]
  rfl

theorem applyPunycode_of_not_rewrites {target : List Char} {url : Url}
    (hurl : ofChars target = .ok url) (h : ∀ written, ¬ Rewrites target written) :
    applyPunycode target = some target := by
  rw [applyPunycode, hurl]
  cases hwritten : writtenHost? target with
  | none => rfl
  | some written =>
    refine if_pos ?_
    rw [← Bool.not_eq_false]
    exact fun hno => h written ⟨hwritten, hno⟩

theorem applyPunycode_eq_none_iff (target : List Char) :
    applyPunycode target = none ↔ (∃ fault, ofChars target = .error fault) ∨
      ∃ url written, ofChars target = .ok url ∧ Rewrites target written ∧ url.host? = none := by
  cases hurl : ofChars target with
  | error fault =>
    have hnone : applyPunycode target = none := by rw [applyPunycode, hurl]
    exact ⟨fun _ => .inl ⟨fault, rfl⟩, fun _ => hnone⟩
  | ok url =>
    by_cases hrewrites : ∃ written, Rewrites target written
    · obtain ⟨written, hwritten⟩ := hrewrites
      rw [applyPunycode_of_rewrites hurl hwritten, Option.map_eq_none_iff]
      constructor
      · exact fun hnone => .inr ⟨url, written, rfl, hwritten, hnone⟩
      · rintro (⟨fault, hfault⟩ | ⟨other, found, hother, -, hnone⟩)
        · cases hfault
        · cases hother
          exact hnone
    · rw [applyPunycode_of_not_rewrites hurl fun written hwritten => hrewrites ⟨written, hwritten⟩]
      constructor
      · intro hnone
        cases hnone
      · rintro (⟨fault, hfault⟩ | ⟨other, written, -, hwritten, -⟩)
        · cases hfault
        · exact absurd ⟨written, hwritten⟩ hrewrites

/-- A mail address is a URL without a host; a host beyond ASCII in its query drops it. -/
example : (ofChars "mailto:a?u=http://ä/".toList).toOption.isSome = true ∧
    applyPunycode "mailto:a?u=http://ä/".toList = none := ⟨rfl, rfl⟩

/-- What is kept of a target that is not dropped. -/
theorem applyPunycode_cases {target result : List Char} {url : Url} (hurl : ofChars target = .ok url)
    (h : applyPunycode target = some result) :
    result = target ∨ ∃ written host, Rewrites target written ∧ url.host? = some host ∧
      target = written.before ++ written.host ++ written.after ∧
      result = written.before ++ host.render ++ written.after := by
  by_cases hrewrites : ∃ written, Rewrites target written
  · obtain ⟨written, hwritten⟩ := hrewrites
    rw [applyPunycode_of_rewrites hurl hwritten] at h
    obtain ⟨host, hhost, rfl⟩ := Option.map_eq_some_iff.mp h
    exact .inr ⟨written, host, hwritten, hhost, eq_append_of_writtenHost? hwritten.1, rfl⟩
  · rw [applyPunycode_of_not_rewrites hurl fun written hwritten => hrewrites ⟨written, hwritten⟩] at h
    exact .inl (Option.some.inj h).symm

/-- A target is dropped if it is no URL, or if the URL has no host to put for the one that is found.
Any other target is kept, but for the host that is found; and where that one stands in its place, and
the labels of the new one can be compared, it is the same URL as before. On the web they can unless
one of them is out of comparison form or too long to be decoded again. -/
theorem applyPunycode_same_url (target : List Char) :
    (applyPunycode target = none ↔ (∃ fault, ofChars target = .error fault) ∨
      ∃ url written, ofChars target = .ok url ∧ Rewrites target written ∧ url.host? = none) ∧
    ∀ url result, ofChars target = .ok url → applyPunycode target = some result →
      (result = target ∨ ∃ written host, Rewrites target written ∧ url.host? = some host ∧
        target = written.before ++ written.host ++ written.after ∧
        result = written.before ++ host.render ++ written.after) ∧
      ((∀ written, Rewrites target written → written.InPlace (SchemeKind.ofScheme url.scheme)) →
        ((SchemeKind.ofScheme url.scheme).isSpecial = true →
          ∀ host, url.host? = some host → host.isComparable = true) →
        ofChars result = .ok url) := by
  refine ⟨applyPunycode_eq_none_iff target, fun url result hurl hresult => ?_⟩
  have hcases := applyPunycode_cases hurl hresult
  refine ⟨hcases, fun hplace hcomparable => ?_⟩
  obtain rfl | ⟨written, host, hwritten, hhost, -, rfl⟩ := hcases
  · exact hurl
  · exact ofChars_of_inPlace hurl hwritten.1 hwritten.2 hhost (hplace written hwritten)
      fun hspecial => hcomparable hspecial host hhost

/-- The sharp S is a name of its own, and its label can be read back. -/
theorem parseSpecial_sharpS : Host.parseSpecial ['ß'] = .ok (.name "xn--zca".toList) ∧
    (Host.name "xn--zca".toList).isComparable = true := by
  have hencode : Punycode.encode ['ß'] = "zca".toList := by decide +kernel
  have hmapped : Unicode.isMappedToItself 'ß' = true := by
    rw [Unicode.isMappedToItself, Unicode.mapChar?_of_latin (by decide) (by decide)]
    rfl
  have hwhole : Unicode.decompose 'ß' = ['ß'] := Unicode.decompose_of_latin (by decide) (by decide)
  have hleft : DomainName.runsLeft 'ß' = false := by
    rw [DomainName.runsLeft, Unicode.direction_of_latin (by decide) (by decide)]
    rfl
  obtain ⟨hascii, hlabels⟩ := DomainName.toAscii?_singleton (by decide) hmapped hwhole (by decide)
    hleft (by decide) (by decide)
  have hmarked : DomainName.marker ++ "zca".toList = "xn--zca".toList := rfl
  rw [hencode, hmarked] at hascii
  have hbytes : Text.Utf8.strict (Percent.decode (Bytes.ofString (String.ofList ['ß']))) =
      .ok ['ß'] := by
    rw [Bytes.ofString_eq, String.toList_ofList]
    rfl
  have hdomain : DomainName.ofBytes? (Percent.decode (Bytes.ofString (String.ofList ['ß']))) =
      some "xn--zca".toList := by
    unfold DomainName.ofBytes?
    rw [hbytes]
    exact hascii
  have hparse := Host.parseSpecial_eq_name (by decide) hdomain (by decide) (by decide)
  refine ⟨hparse, ?_⟩
  obtain ⟨unicode, labels, hunicode, hread, hcomparable⟩ :=
    Host.isComparable_iff_of_parseSpecial hparse (by decide)
  obtain rfl := Except.ok.inj (hbytes.symm.trans hunicode)
  obtain rfl := Option.some.inj (hlabels.symm.trans hread)
  refine hcomparable.mpr fun label hlabel => ?_
  obtain rfl := List.mem_singleton.mp hlabel
  refine ⟨by simp [hmapped], fun _ => Unicode.composed_singleton hwhole, fun _ => ?_⟩
  rw [hencode]
  decide

/-- The URL with that host, and with user info, port, path and query. -/
theorem ofChars_sharpS : ofChars "http://u@ß:81/b?ä".toList = .ok ⟨"http".toList,
    some ⟨['u'], [], some (.name "xn--zca".toList), some 81⟩, "/b".toList,
    some "%C3%A4".toList, none⟩ := by
  have hkind : SchemeKind.ofScheme "http".toList = .web := rfl
  have hport : readHostPort "http".toList "ß:81".toList =
      .ok (some (.name "xn--zca".toList), some 81, []) := by
    have hextent : hostExtent false "ß:81".toList = ['ß'] := rfl
    unfold readHostPort
    simp only [hkind, hextent, parseSpecial_sharpS.1]
    rfl
  have hbody : readBody "http".toList "//u@ß:81/b".toList true =
      .ok (some ⟨['u'], [], some (.name "xn--zca".toList), some 81⟩, "/b".toList) := by
    have hslashes : (Path.significant "//u@ß:81/b".toList).dropWhile (Path.isSeparator .web) =
        "u@ß:81/b".toList := rfl
    have hextent : "u@ß:81/b".toList.takeWhile (fun c => !Path.isSeparator .web c) =
        "u@ß:81".toList := rfl
    have hinfo : splitUserInfo "u@ß:81".toList = (some ['u'], "ß:81".toList) := rfl
    unfold readBody
    simp only [hkind, hslashes]
    unfold readAuthority
    simp only [hkind, hextent, hinfo, hport]
    rfl
  have hscheme : splitScheme? (trimEdges "http://u@ß:81/b?ä".toList) =
      some ("http".toList, "//u@ß:81/b?ä".toList) := rfl
  have hfragment : splitFirst (· == '#') "//u@ß:81/b?ä".toList =
      ("//u@ß:81/b?ä".toList, none) := rfl
  have hquery : splitFirst (· == '?') "//u@ß:81/b?ä".toList =
      ("//u@ß:81/b".toList, some ['ä']) := rfl
  unfold ofChars
  simp only [hscheme, hfragment, hquery]
  change (readBody "http".toList "//u@ß:81/b".toList true >>= _) = _
  rw [hbody]
  rfl

/-- On the web a host is written by its labels, outside the web it is encoded; user info, port and
query stay as they are written. -/
theorem applyPunycode_same_url_web_and_other :
    ((Host.name "xn--zca".toList).isComparable = true ∧
      applyPunycode "http://u@ß:81/b?ä".toList = some "http://u@xn--zca:81/b?ä".toList ∧
      ofChars "http://u@xn--zca:81/b?ä".toList = ofChars "http://u@ß:81/b?ä".toList) ∧
    applyPunycode "foo://u@ä:7/b?ä".toList = some "foo://u@%C3%A4:7/b?ä".toList ∧
      ofChars "foo://u@%C3%A4:7/b?ä".toList = ofChars "foo://u@ä:7/b?ä".toList := by
  refine ⟨⟨parseSpecial_sharpS.2, ?_⟩, ?_⟩
  · have hfound : writtenHost? "http://u@ß:81/b?ä".toList =
        some ⟨"http://u@".toList, ['ß'], ":81/b?ä".toList⟩ := rfl
    have hresult : applyPunycode "http://u@ß:81/b?ä".toList =
        some "http://u@xn--zca:81/b?ä".toList :=
      applyPunycode_of_rewrites ofChars_sharpS ⟨hfound, rfl⟩
    have hplace : ∀ written, Rewrites "http://u@ß:81/b?ä".toList written →
        written.InPlace .web := by
      intro written hwritten
      obtain rfl := Option.some.inj (hfound.symm.trans hwritten.1)
      exact ⟨by decide, by decide, by decide, by decide, by decide⟩
    have hsame := ((applyPunycode_same_url "http://u@ß:81/b?ä".toList).2 _ _ ofChars_sharpS
      hresult).2 hplace fun _ host hhost => by
        obtain rfl := Option.some.inj hhost
        exact parseSpecial_sharpS.2
    exact ⟨hresult, hsame.trans ofChars_sharpS.symm⟩
  · have hurl : ofChars "foo://u@ä:7/b?ä".toList = .ok ⟨"foo".toList,
        some ⟨['u'], [], some (.name "%C3%A4".toList), some 7⟩, "/b".toList,
        some "%C3%A4".toList, none⟩ := rfl
    have hresult : applyPunycode "foo://u@ä:7/b?ä".toList = some "foo://u@%C3%A4:7/b?ä".toList := rfl
    have hfound : writtenHost? "foo://u@ä:7/b?ä".toList =
        some ⟨"foo://u@".toList, ['ä'], ":7/b?ä".toList⟩ := rfl
    have hplace : ∀ written, Rewrites "foo://u@ä:7/b?ä".toList written → written.InPlace .other := by
      intro written hwritten
      obtain rfl := Option.some.inj (hfound.symm.trans hwritten.1)
      exact ⟨by decide, by decide, by decide, by decide, by decide⟩
    have hsame := ((applyPunycode_same_url "foo://u@ä:7/b?ä".toList).2 _ _ hurl hresult).2 hplace
      fun hspecial => absurd hspecial (by decide)
    exact ⟨hresult, hsame.trans hurl.symm⟩

end Recrawl.UrlFilter
