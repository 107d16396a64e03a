import Recrawl.Proofs.Sitemap.Recognition

/-!
Verdicts in a row. The flags in memory stay those that the metadata holds, however its values are
written, a verdict that comes twice changes nothing the second time, and no mark appears without
its flag.
-/

namespace Recrawl.Sitemap.Flags

/-- The flags and the metadata of an item after verdicts in order. -/
def folded (m : Metadata) (verdicts : List Verdict) : Flags × Metadata :=
  verdicts.foldl (fun (flags, m) verdict => flags.reconcile verdict m) (ofMetadata m, m)

theorem folded_snoc (m : Metadata) (verdicts : List Verdict) (verdict : Verdict) :
    folded m (verdicts ++ [verdict]) =
      (folded m verdicts).1.reconcile verdict (folded m verdicts).2 := by
  simp only [folded, List.foldl_append, List.foldl_cons, List.foldl_nil]

/-- The flags are those that the metadata holds, and everything but the marks is as it was. -/
structure Agrees (origin : Metadata) (state : Flags × Metadata) : Prop where
  reread : ofMetadata state.2 = state.1
  rest : state.2.rest marks = origin.rest marks

theorem Agrees.reconcile {origin : Metadata} {state : Flags × Metadata} (h : Agrees origin state)
    (verdict : Verdict) : Agrees origin (state.1.reconcile verdict state.2) := by
  constructor
  · rw [← h.reread]
    exact ofMetadata_after state.2 (some verdict)
  · rw [rest_reconcile, h.rest]

theorem agrees_foldl {origin : Metadata} (verdicts : List Verdict) {state : Flags × Metadata}
    (h : Agrees origin state) :
    Agrees origin
      (verdicts.foldl (fun (flags, m) verdict => flags.reconcile verdict m) state) := by
  induction verdicts generalizing state with
  | nil => exact h
  | cons verdict rest ih => exact ih (h.reconcile verdict)

theorem agrees_folded (m : Metadata) (verdicts : List Verdict) : Agrees m (folded m verdicts) :=
  agrees_foldl verdicts ⟨rfl, rfl⟩

theorem reconcile_reconcile (flags : Flags) (verdict : Verdict) (m : Metadata) :
    let after := flags.reconcile verdict m
    after.1.reconcile verdict after.2 = after := by
  have hnews : Key.isSitemap ≠ Key.isSitemapNews := by decide
  have hindex : Key.isSitemap ≠ Key.isSitemapIndex := by decide
  -- The marks that the verdict sets are there already, and those that it clears are off.
  intro after
  have hmarked : after.2.setFlag Key.isSitemap true = after.2 := by
    apply Metadata.setFlag_of_values
    cases verdict with
    | news => simp [after, reconcile, hnews]
    | index => simp [after, reconcile, hindex, values_clear_of_ne _ _ hnews]
    | sitemap =>
      cases hverified : flags.verified with
      | true => simp [after, reconcile, hverified]
      | false =>
        simp [after, reconcile, hverified, values_clear_of_ne _ _ hnews,
          values_clear_of_ne _ _ hindex]
  cases verdict with
  | news =>
    have hset : after.2.setFlag Key.isSitemapNews true = after.2 :=
      Metadata.setFlag_of_values (by simp [after, reconcile])
    simp only [reconcile, hmarked, hset]
    rfl
  | index =>
    have hset : after.2.setFlag Key.isSitemapIndex true = after.2 :=
      Metadata.setFlag_of_values (by simp [after, reconcile])
    have hcleared : clear after.2 after.1.news Key.isSitemapNews = after.2 := rfl
    simp only [reconcile, hmarked, hcleared, hset]
    rfl
  | sitemap =>
    simp only [reconcile, hmarked]
    cases hverified : flags.verified with
    | true => simp [after, reconcile, hverified]
    | false => simp [after, reconcile, hverified, clear]

theorem contains_clear {m : Metadata} {isOn : Bool} {key : String} (h : m.flag key = isOn)
    (other : String) : (clear m isOn key).contains other = m.contains other := by
  cases isOn with
  | false => rfl
  | true =>
    rw [clear, if_pos rfl, Metadata.contains_setFlag]
    by_cases hother : other = key
    · rw [hother, Metadata.contains_of_flag h, Bool.or_true]
    · simp [hother]

/-- A flag that is on tells nothing new of whether its mark is there. -/
theorem contains_or_flag (m : Metadata) (key : String) :
    (m.contains key || m.flag key) = m.contains key := by
  cases hflag : m.flag key with
  | false => exact Bool.or_false _
  | true => rw [Metadata.contains_of_flag hflag, Bool.or_true]

/-- The marks of news and index are there after a verdict if they were before, or if their flag is
on now. -/
theorem contains_reconcile {flags : Flags} {m : Metadata} (h : ofMetadata m = flags)
    (verdict : Verdict) :
    let after := flags.reconcile verdict m
    after.2.contains Key.isSitemapNews = (m.contains Key.isSitemapNews || after.1.news) ∧
      after.2.contains Key.isSitemapIndex = (m.contains Key.isSitemapIndex || after.1.index) := by
  subst h
  have hnews : Key.isSitemapNews ≠ Key.isSitemap := by decide
  have hindex : Key.isSitemapIndex ≠ Key.isSitemap := by decide
  have hother : Key.isSitemapNews ≠ Key.isSitemapIndex := by decide
  have hcleared := contains_clear (flag_news_marked m)
  cases verdict with
  | news =>
    simp [reconcile, ofMetadata, Metadata.contains_setFlag, hindex, Ne.symm hother,
      contains_or_flag]
  | index =>
    simp [reconcile, ofMetadata, Metadata.contains_setFlag, hcleared, hnews, hother]
  | sitemap =>
    cases hverified : m.flag Key.isSitemapVerified with
    | true =>
      simp [reconcile, ofMetadata, hverified, Metadata.contains_setFlag, hnews, hindex,
        contains_or_flag]
    | false =>
      simp [reconcile, ofMetadata, hverified, contains_clear (flag_index_cleared m), hcleared,
        Metadata.contains_setFlag, hnews, hindex]

/-- After any verdicts the flags are those that the metadata holds, and everything but the marks of
a sitemap, of news and of an index has its values and its place, such as the mark of a verified
sitemap. A verdict that comes twice in a row counts once. The mark of news or of an index is there
after a verdict exactly if it was before or its flag is on now, so that none appears for a flag that
is off. -/
theorem folded_agrees (m : Metadata) (verdicts : List Verdict) (verdict : Verdict) :
    let before := folded m verdicts
    let after := folded m (verdicts ++ [verdict])
    ofMetadata before.2 = before.1 ∧
      folded m (verdicts ++ [verdict, verdict]) = after ∧
      before.2.rest [Key.isSitemap, Key.isSitemapNews, Key.isSitemapIndex] =
        m.rest [Key.isSitemap, Key.isSitemapNews, Key.isSitemapIndex] ∧
      before.2.values Key.isSitemapVerified = m.values Key.isSitemapVerified ∧
      after.2.contains Key.isSitemapNews =
        (before.2.contains Key.isSitemapNews || after.1.news) ∧
      after.2.contains Key.isSitemapIndex =
        (before.2.contains Key.isSitemapIndex || after.1.index) := by
  intro before after
  have hagrees : Agrees m before := agrees_folded m verdicts
  have hafter : after = before.1.reconcile verdict before.2 := folded_snoc m verdicts verdict
  refine ⟨hagrees.reread, ?_, hagrees.rest,
    Metadata.values_eq_of_rest_eq hagrees.rest (by decide), ?_⟩
  · have htwice : verdicts ++ [verdict, verdict] = (verdicts ++ [verdict]) ++ [verdict] := by simp
    rw [htwice, folded_snoc]
    change after.1.reconcile verdict after.2 = after
    rw [hafter]
    exact reconcile_reconcile before.1 verdict before.2
  · rw [hafter]
    exact contains_reconcile hagrees.reread verdict

/-- A mark of news in capitals, with a second value, is one value once an index clears it. -/
example :
    folded (.ofPairs [(Key.isSitemapNews, "TRUE"), ("title", "a"), (Key.isSitemapNews, "no")])
        [.index] =
      (⟨true, false, true, false⟩, .ofPairs [(Key.isSitemapNews, "false"), ("title", "a"),
        (Key.isSitemap, "true"), (Key.isSitemapIndex, "true")]) := by
  decide +kernel

end Recrawl.Sitemap.Flags
