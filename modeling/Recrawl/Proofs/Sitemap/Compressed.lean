import Recrawl.Proofs.Filter.Signing
import Recrawl.Proofs.Gzip.Streaming
import Recrawl.Proofs.Pipeline.Course
import Recrawl.Proofs.Sitemap.Recognition
import Recrawl.Proofs.Sitemap.Resolution

/-!
Compressed sitemaps. An item is recognised by the beginning of its content and read in full,
and both are those of the decompressed content, so that the two forms of a document take
the same course; only the filters sign the bytes as they came.
-/

namespace Recrawl

open Digest.Blake3 (digest)
open ParseFilter (signedInput)

/-- Both items pass through or both are handled with the same links and the same status; the
metadata agrees up to two texts at the marked keys. -/
def Outcome.AgreesUpTo (marked : List String) (first second : String) : Outcome → Outcome → Prop
  | passThrough item, passThrough item' => item.url = item'.url ∧ item.metadata = item'.metadata
  | handled record links, handled record' links' =>
    record.url = record'.url ∧ record.status = record'.status ∧ links = links' ∧
      record.metadata.AgreesUpTo marked first second record'.metadata
  | _, _ => False

/-- Of two contents only the filters make anything different, and nothing but signatures. -/
theorem Course.outcome_agreesUpTo {sitemaps : SitemapSettings} {feeds : FeedSettings}
    {links : LinkSettings} {filters : FilterSettings} {p : Pipeline}
    (hp : Pipeline.ofSettings sitemaps feeds links filters = .ok p) (course : Course)
    (url : String) (one other : Bytes) (m : Metadata) :
    (course.outcome p ⟨url, one, m⟩).AgreesUpTo filters.signedKeys (digest (signedInput url one))
      (digest (signedInput url other)) (course.outcome p ⟨url, other, m⟩) := by
  obtain ⟨chain, rules, hchain, -, rfl⟩ := Pipeline.parts_of_ofSettings hp
  have hruns (before : Metadata) (found : List Link) :=
    ParseFilter.runAll_agreesUpTo url one other hchain
      (Metadata.AgreesUpTo.refl [] _ _ before) found
  cases course with
  | page metadata => exact ⟨rfl, rfl⟩
  | acknowledged metadata => exact ⟨rfl, rfl, rfl, .refl _ _ _ _⟩
  | unreadable metadata reason => exact ⟨rfl, rfl, rfl, .refl _ _ _ _⟩
  | feed metadata =>
    obtain ⟨n, n', hone, hother, hagree⟩ := hruns metadata []
    simp only [outcome, hone, hother]
    exact ⟨rfl, rfl, rfl, hagree⟩
  | sitemap flags kind found =>
    obtain ⟨n, n', hone, hother, hagree⟩ := hruns found.metadata found.links
    simp only [outcome, hone, hother]
    cases kind with
    | index => exact ⟨rfl, rfl, rfl, (hagree.set Key.isSitemapIndex _).set Key.numLinks _⟩
    | urlSet => exact ⟨rfl, rfl, rfl, (hagree.erase Key.isSitemapIndex).set Key.numLinks _⟩

namespace Sitemap

/-- Reading sees only the decompressed content. -/
theorem read_congr {one other : Bytes} (h : Gzip.decode one = Gzip.decode other)
    (allowPartial : Bool) (url : String) (contentType : Option String) :
    read allowPartial url one contentType = read allowPartial url other contentType := by
  unfold read
  rw [h]

namespace Resolver

/-- The course of an item depends on the beginning of its content and on the decompressed
content. -/
theorem course_congr (r : Resolver) (url : String) (m : Metadata) (now : Time.Instant)
    {one other : Bytes}
    (hpeek : (Gzip.peek r.settings.peekLimit one).output =
      (Gzip.peek r.settings.peekLimit other).output)
    (hdecode : Gzip.decode one = Gzip.decode other) :
    r.course ⟨url, one, m⟩ now = r.course ⟨url, other, m⟩ now := by
  have hseen : (r.recognise ⟨url, one, m⟩).value = (r.recognise ⟨url, other, m⟩).value := by
    rw [value_recognise, value_recognise]
    unfold sniff?
    rw [hpeek]
  have hread (flags : Flags) (metadata : Metadata) :
      r.courseOfRead flags ⟨url, one, metadata⟩ now =
        r.courseOfRead flags ⟨url, other, metadata⟩ now := by
    unfold courseOfRead
    simp only [read_congr hdecode]
  unfold course
  simp only [hseen, hread]

/-- A compressed item is looked at and resolved as its content is: at every limit its beginning is
that of the content, and it passes through or is handled with the same record and the same links,
but for the signature of the content. -/
theorem process_of_decode {sitemaps : SitemapSettings} {feeds : FeedSettings}
    {links : LinkSettings} {filters : FilterSettings} {p : Pipeline}
    (hp : Pipeline.ofSettings sitemaps feeds links filters = .ok p)
    (hlimit : sitemaps.peekLimit ≤ Gzip.decompressedLimit) {packed content : Bytes}
    (hpacked : Gzip.isGzip packed = true) (hdecode : Gzip.decode packed = .ok content)
    (hcontent : Gzip.isGzip content = false) (url : String) (m : Metadata) (now : Time.Instant) :
    (∀ limit ≤ Gzip.decompressedLimit, (Gzip.peek limit packed).output = content.take limit) ∧
      (p.sitemaps.process ⟨url, packed, m⟩ now).value.AgreesUpTo filters.signedKeys
        (digest (signedInput url packed)) (digest (signedInput url content))
        (p.sitemaps.process ⟨url, content, m⟩ now).value := by
  have hpeek (limit : Nat) (hle : limit ≤ Gzip.decompressedLimit) :=
    Gzip.output_peek_of_decode hpacked hdecode hle
  refine ⟨hpeek, ?_⟩
  have hsettings : p.sitemaps.settings = sitemaps := by
    obtain ⟨chain, rules, -, -, rfl⟩ := Pipeline.parts_of_ofSettings hp
    rfl
  have hcourse : p.sitemaps.course ⟨url, packed, m⟩ now =
      p.sitemaps.course ⟨url, content, m⟩ now := by
    apply course_congr
    · rw [hsettings, hpeek _ hlimit, Gzip.output_peek_of_not_isGzip hcontent]
    · rw [hdecode, Gzip.decode_of_not_isGzip hcontent]
  rw [value_process, value_process, hcourse]
  exact Course.outcome_agreesUpTo hp _ url packed content m

/-- A list without pages, stored in one block with its checksum and its size behind. -/
def packedList : Bytes :=
  [0x1F, 0x8B, 0x08, 0x00, 0x00, 0x00, 0x00, 0x00, 0x00, 0xFF, 0x01, 0x09, 0x00, 0xF6, 0xFF] ++
    Bytes.ofString "<urlset/>" ++ [0xDB, 0xCE, 0x72, 0xFC, 0x09, 0x00, 0x00, 0x00]

/-- Both forms of the list are read as news without links, and signed. -/
theorem process_of_decode_packedList :
    let p := standardPipeline {}
    let m := Metadata.ofPairs [(Key.isSitemapNews, "true")]
    let now : Time.Instant := ⟨0, 0, 0, by decide, by decide, by decide⟩
    let content := Bytes.ofString "<urlset/>"
    Gzip.decode packedList = .ok content ∧ (Gzip.peek 4 packedList).output = content.take 4 ∧
      (p.sitemaps.process ⟨"http://[::1]/", packedList, m⟩ now).value.AgreesUpTo [Key.signature]
        (digest (signedInput "http://[::1]/" packedList))
        (digest (signedInput "http://[::1]/" content))
        (p.sitemaps.process ⟨"http://[::1]/", content, m⟩ now).value ∧
      (p.sitemaps.course ⟨"http://[::1]/", packedList, m⟩ now).isFiltered = true := by
  intro p m now content
  have hp : Pipeline.ofSettings {} {} {} {} = .ok p := rfl
  have hoption : (Gzip.decode packedList).toOption = some content := by decide +kernel
  have hdecode : Gzip.decode packedList = .ok content := by
    cases h : Gzip.decode packedList with
    | error fault =>
      rw [h] at hoption
      cases hoption
    | ok found =>
      rw [h] at hoption
      rw [Option.some.inj hoption]
  obtain ⟨hpeek, hprocess⟩ := process_of_decode hp (by decide +kernel) (by decide +kernel) hdecode
    (by decide +kernel) "http://[::1]/" m now
  rw [show ({} : FilterSettings).signedKeys = [Key.signature] by decide] at hprocess
  exact ⟨hdecode, hpeek 4 (by decide +kernel), hprocess, by decide +kernel⟩

end Resolver

end Sitemap

end Recrawl
