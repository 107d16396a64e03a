import Recrawl.Proofs.Metadata.Entries
import Recrawl.Sitemap.Resolver

/-!
What a look at the content changes. A verdict goes into the flags and into the metadata
alike, so that the flags can be read off the metadata again.
-/

namespace Recrawl.Sitemap

namespace Flags

/-- The flags and the metadata of an item after a verdict, if there is one. -/
def after (m : Metadata) : Option Verdict → Flags × Metadata
  | some verdict => (ofMetadata m).reconcile verdict m
  | none => (ofMetadata m, m)

theorem values_clear_of_ne (m : Metadata) (isOn : Bool) {key other : String}
    (h : other ≠ key) : (clear m isOn key).values other = m.values other := by
  cases isOn <;> simp [clear, h]

theorem flag_clear {m : Metadata} {isOn : Bool} {key : String} (h : m.flag key = isOn)
    (other : String) :
    (clear m isOn key).flag other = if other = key then false else m.flag other := by
  cases isOn with
  | true => rw [clear, if_pos rfl, Metadata.flag_setFlag]
  | false =>
    rw [clear, if_neg Bool.false_ne_true]
    split
    · rename_i hother
      rw [hother, h]
    · rfl

/-- The four flags have keys of their own. -/
theorem keys_distinct :
    [Key.isSitemap, Key.isSitemapNews, Key.isSitemapIndex, Key.isSitemapVerified].Nodup := by
  decide

/-- The mark of a sitemap is not the one of news. -/
theorem flag_news_marked (m : Metadata) :
    (m.setFlag Key.isSitemap true).flag Key.isSitemapNews = m.flag Key.isSitemapNews := by
  have hne : Key.isSitemapNews ≠ Key.isSitemap := by decide
  rw [Metadata.flag_setFlag, if_neg hne]

theorem flag_index_cleared (m : Metadata) :
    (clear (m.setFlag Key.isSitemap true) (m.flag Key.isSitemapNews)
      Key.isSitemapNews).flag Key.isSitemapIndex = m.flag Key.isSitemapIndex := by
  have hnews : Key.isSitemapIndex ≠ Key.isSitemapNews := by decide
  have hsitemap : Key.isSitemapIndex ≠ Key.isSitemap := by decide
  rw [flag_clear (flag_news_marked m), if_neg hnews, Metadata.flag_setFlag, if_neg hsitemap]

/-- The metadata after a verdict holds the flags after it. -/
theorem ofMetadata_after (m : Metadata) (verdict : Option Verdict) :
    ofMetadata (after m verdict).2 = (after m verdict).1 := by
  have hkeys := keys_distinct
  simp only [List.nodup_cons, List.mem_cons, List.not_mem_nil, or_false, not_or] at hkeys
  obtain ⟨⟨hsn, hsi, hsv⟩, ⟨hni, hnv⟩, hiv, -⟩ := hkeys
  have hnews := flag_news_marked m
  have hindex := flag_index_cleared m
  cases verdict with
  | none => rfl
  | some verdict =>
    cases verdict with
    | news =>
      simp [after, reconcile, ofMetadata, Metadata.flag_setFlag, Ne.symm hsi, Ne.symm hsv, hsn,
        Ne.symm hni, Ne.symm hnv]
    | index =>
      simp [after, reconcile, ofMetadata, Metadata.flag_setFlag, flag_clear hnews, hsn, hsi, hni,
        Ne.symm hsv, Ne.symm hnv, Ne.symm hiv]
    | sitemap =>
      cases hverified : m.flag Key.isSitemapVerified with
      | true =>
        simp [after, reconcile, ofMetadata, Metadata.flag_setFlag, hverified, Ne.symm hsn,
          Ne.symm hsi, Ne.symm hsv]
      | false =>
        simp [after, reconcile, ofMetadata, Metadata.flag_setFlag, flag_clear hnews,
          flag_clear hindex, hverified, hsn, hsi, hni, Ne.symm hsv, Ne.symm hnv, Ne.symm hiv]

/-- A plain sitemap is read only if it is verified. -/
theorem needsReading_after (m : Metadata) (verdict : Option Verdict) :
    (after m verdict).1.needsReading = match verdict with
      | some .news => true
      | some .index => true
      | some .sitemap => m.flag Key.isSitemapVerified
      | none => (ofMetadata m).needsReading := by
  cases verdict with
  | none => rfl
  | some verdict =>
    cases verdict with
    | news => simp [after, reconcile, needsReading]
    | index => simp [after, reconcile, needsReading]
    | sitemap =>
      cases hverified : m.flag Key.isSitemapVerified <;>
        simp [after, reconcile, needsReading, ofMetadata, hverified]

theorem sitemap_after (m : Metadata) (verdict : Verdict) :
    (after m (some verdict)).1.sitemap = true := by
  cases verdict with
  | news => rfl
  | index => rfl
  | sitemap =>
    cases hverified : m.flag Key.isSitemapVerified <;>
      simp [after, reconcile, ofMetadata, hverified]

/-- No verdict changes whether an item is verified. -/
theorem verified_after (m : Metadata) (verdict : Option Verdict) :
    (after m verdict).1.verified = m.flag Key.isSitemapVerified := by
  cases verdict with
  | none => rfl
  | some verdict =>
    cases verdict with
    | news => rfl
    | index => rfl
    | sitemap =>
      cases hverified : m.flag Key.isSitemapVerified <;>
        simp [after, reconcile, ofMetadata, hverified]

/-- The keys that a verdict may change. -/
def marks : List String := [Key.isSitemap, Key.isSitemapNews, Key.isSitemapIndex]

theorem rest_clear {key : String} {keys : List String} (h : key ∈ keys) (m : Metadata)
    (isOn : Bool) : (clear m isOn key).rest keys = m.rest keys := by
  cases isOn with
  | true => exact m.rest_setFlag h false
  | false => rfl

/-- A verdict keeps everything but its marks, in place. -/
theorem rest_reconcile (flags : Flags) (verdict : Verdict) (m : Metadata) :
    (flags.reconcile verdict m).2.rest marks = m.rest marks := by
  have hsitemap : Key.isSitemap ∈ marks := by decide
  have hnews : Key.isSitemapNews ∈ marks := by decide
  have hindex : Key.isSitemapIndex ∈ marks := by decide
  have hmarked := m.rest_setFlag hsitemap true
  cases verdict with
  | news =>
    simp only [reconcile]
    rw [Metadata.rest_setFlag _ hnews, hmarked]
  | index =>
    simp only [reconcile]
    rw [Metadata.rest_setFlag _ hindex, rest_clear hnews, hmarked]
  | sitemap =>
    simp only [reconcile]
    split
    · exact hmarked
    · rw [rest_clear hindex, rest_clear hnews, hmarked]

theorem rest_after (m : Metadata) (verdict : Option Verdict) :
    (after m verdict).2.rest marks = m.rest marks := by
  cases verdict with
  | none => rfl
  | some verdict => exact rest_reconcile _ verdict m

end Flags

namespace Resolver

/-- The verdict on some content, if it is looked at and there is one. -/
def sniff? (r : Resolver) (content : Bytes) : Option Verdict :=
  if r.settings.sniffsContent then
    verdict? r.settings.peekLimit (Gzip.peek r.settings.peekLimit content).output
  else none

theorem value_peek (limit : Nat) (content : Bytes) :
    (peek limit content).value = (Gzip.peek limit content).output := by
  unfold peek
  simp only
  split <;> rfl

theorem value_detect (limit : Nat) (url : String) (content : Bytes) :
    (detect limit url content).value = verdict? limit content := by
  unfold detect
  simp only
  split <;> rfl

/-- An item is recognised by its flags and by the verdict on its content. -/
theorem value_recognise (r : Resolver) (item : WorkItem) :
    (r.recognise item).value = Flags.after item.metadata (r.sniff? item.content) := by
  unfold recognise sniff?
  split
  · simp only [Logged.value_bind, value_peek, value_detect]
    split
    · rename_i verdict hverdict
      rw [hverdict]
      rfl
    · rename_i hverdict
      rw [hverdict]
      rfl
  · rfl

end Resolver

end Recrawl.Sitemap
