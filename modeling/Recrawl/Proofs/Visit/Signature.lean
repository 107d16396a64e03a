import Recrawl.Proofs.Filter.Chain
import Recrawl.Proofs.Pipeline.Course

/-!
The signatures that a visit leaves. With the standard filters, an item that reaches the
filters is fetched, carries the signature of its own content, and carries as the old one
the signature with which it came; an item that cannot be read keeps both as they were.
-/

namespace Recrawl

namespace Metadata

/-- The metadata once the standard filters have run: the signature with which it came is copied,
and then replaced by the one of the content. -/
def signed (url : String) (content : Bytes) (m : Metadata) : Metadata :=
  let copied := match m.first? Key.signature with
    | some signature => m.set Key.signatureOld signature
    | none => m
  copied.set Key.signature (Digest.Blake3.digest (ParseFilter.signedInput url content))

theorem values_signature_signed (url : String) (content : Bytes) (m : Metadata) :
    (m.signed url content).values Key.signature =
      [Digest.Blake3.digest (ParseFilter.signedInput url content)] := by
  simp [signed]

theorem values_signatureOld_signed (url : String) (content : Bytes) (m : Metadata) :
    (m.signed url content).values Key.signatureOld =
      match m.first? Key.signature with
      | some signature => [signature]
      | none => m.values Key.signatureOld := by
  have hne : Key.signatureOld ≠ Key.signature := by decide
  cases hfirst : m.first? Key.signature <;> simp [signed, hfirst, hne]

theorem values_signed_of_ne (url : String) (content : Bytes) (m : Metadata) {key : String}
    (hsignature : key ≠ Key.signature) (hold : key ≠ Key.signatureOld) :
    (m.signed url content).values key = m.values key := by
  cases hfirst : m.first? Key.signature <;> simp [signed, hfirst, hsignature, hold]

end Metadata

namespace ParseFilter

theorem runAll_standard (url : String) (content : Bytes) (parsed : Parsed) :
    runAll url content standard parsed =
      ({ parsed with metadata := parsed.metadata.signed url content }, none) := by
  cases hfirst : parsed.metadata.first? Key.signature <;>
    simp [standard, runAll, signatureCopy, contentSignature, Metadata.signed, hfirst]

end ParseFilter

namespace Pipeline

/-- Both stages run the standard filters. -/
def IsStandard (p : Pipeline) : Prop :=
  p.sitemaps.filters = ParseFilter.standard ∧ p.feeds.filters = ParseFilter.standard

/-- The default settings of the filters make a standard pipeline, whatever the other settings. -/
theorem isStandard_of_ofSettings {sitemap : SitemapSettings} {feed : FeedSettings}
    {links : LinkSettings} {p : Pipeline} (h : ofSettings sitemap feed links {} = .ok p) :
    p.IsStandard := by
  obtain ⟨chain, rules, hchain, -, rfl⟩ := parts_of_ofSettings h
  cases hchain
  exact ⟨rfl, rfl⟩

end Pipeline

namespace Course

/-- An item that reaches the standard filters is fetched and signed. -/
theorem record_of_isFiltered {p : Pipeline} (hp : p.IsStandard) (item : WorkItem)
    {course : Course} (h : course.isFiltered = true) :
    (course.outcome p item).record.status = .fetched ∧
      ∀ key, key ≠ Key.isSitemapIndex → key ≠ Key.numLinks →
        (course.outcome p item).record.metadata.values key =
          (course.metadata.signed item.url item.content).values key := by
  cases course with
  | page m => cases h
  | acknowledged m => cases h
  | unreadable m reason => cases h
  | feed m =>
    simp only [outcome, hp.2, ParseFilter.runAll_standard]
    exact ⟨rfl, fun key _ _ => rfl⟩
  | sitemap flags kind found =>
    simp only [outcome, hp.1, ParseFilter.runAll_standard]
    refine ⟨rfl, ?_⟩
    intro key hindex hlinks
    cases kind with
    | index => simp [Sitemap.Resolver.finish, Outcome.record, metadata, hindex, hlinks]
    | urlSet => simp [Sitemap.Resolver.finish, Outcome.record, metadata, hindex, hlinks]

/-- An item that cannot be read is in error and keeps its signatures. -/
theorem record_of_isUnreadable (p : Pipeline) (item : WorkItem) {course : Course}
    (h : course.isUnreadable = true) :
    (course.outcome p item).record.status = .error ∧
      ∀ key, key ≠ Key.errorSource → key ≠ Key.errorMessage → key ≠ Key.numLinks →
        (course.outcome p item).record.metadata.values key = course.metadata.values key := by
  cases course with
  | page m => cases h
  | acknowledged m => cases h
  | feed m => cases h
  | sitemap flags kind found => cases h
  | unreadable m reason =>
    refine ⟨rfl, ?_⟩
    intro key hsource hmessage hlinks
    simp [outcome, Outcome.record, Record.failure, metadata, hsource, hmessage, hlinks]

end Course

end Recrawl
