import Recrawl.Proofs.Xml.Tree
import Recrawl.Sitemap.Reader

/-!
What the name of an element says, by the namespace that the declarations around it give to it.
The protocol and its extension for news go under several addresses each; an element without a
namespace counts as one of the protocol.
-/

namespace Recrawl.Sitemap

namespace Vocabulary

/-- The addresses in the web of some places, without and with encryption. -/
def webUris (places : List String) : List String :=
  places.flatMap fun place => ["http://" ++ place, "https://" ++ place]

/-- The namespaces whose elements belong to a vocabulary. -/
def uris : Vocabulary → List String
  | sitemap => webUris ["www.sitemaps.org/schemas/sitemap/0.9",
      "www.sitemaps.org/schemas/sitemap/0.9/", "www.google.com/schemas/sitemap/0.84",
      "www.google.com/schemas/sitemap/0.9", "www.google.com/schemas/sitemap/0.90"]
  | news => webUris ["www.google.com/schemas/sitemap-news/0.84",
      "www.google.com/schemas/sitemap-news/0.9"]
  | links => ["http://www.w3.org/1999/xhtml"]
  | other => []

/-- An element in this namespace belongs to the vocabulary. -/
def Covers (vocabulary : Vocabulary) : Xml.Namespace → Prop
  | .bound uri => ∃ own ∈ vocabulary.uris, uri = Bytes.ofString own
  | .none => vocabulary = sitemap
  | .undeclared => False

instance (vocabulary : Vocabulary) : (space : Xml.Namespace) → Decidable (vocabulary.Covers space)
  | .bound _ => List.decidableBEx _ _
  | .none => inferInstanceAs (Decidable (_ = _))
  | .undeclared => .isFalse id

theorem ofUri_of_mem_uris {vocabulary : Vocabulary} :
    ∀ own ∈ vocabulary.uris, ofUri (Bytes.ofString own) = vocabulary := by
  cases vocabulary <;> decide +kernel

theorem mem_uris_ofUri {uri : Bytes} (h : ofUri uri ≠ other) :
    ∃ own ∈ (ofUri uri).uris, uri = Bytes.ofString own := by
  have hsitemap : ∀ own ∈ sitemapUri :: legacyUris, own ∈ uris sitemap := by decide +kernel
  have hnews : ∀ own ∈ newsUris, own ∈ uris news := by decide +kernel
  have hlinks : linksUri ∈ uris links := by decide +kernel
  unfold ofUri at h ⊢
  split at h
  · rename_i hfound
    obtain ⟨own, hown, heq⟩ := List.any_eq_true.mp hfound
    rw [if_pos hfound]
    exact ⟨own, hsitemap own hown, eq_of_beq heq⟩
  · rename_i hprotocol
    rw [if_neg hprotocol]
    split at h
    · rename_i hfound
      obtain ⟨own, hown, heq⟩ := List.any_eq_true.mp hfound
      rw [if_pos hfound]
      exact ⟨own, hnews own hown, eq_of_beq heq⟩
    · rename_i hextension
      rw [if_neg hextension]
      split at h
      · rename_i hfound
        rw [if_pos hfound]
        exact ⟨linksUri, hlinks, eq_of_beq hfound⟩
      · exact absurd rfl h

/-- The reader puts an element into the one vocabulary that covers its namespace. -/
theorem covers_iff {vocabulary : Vocabulary} {space : Xml.Namespace} :
    vocabulary.Covers space ↔ vocabulary ≠ other ∧ ofNamespace space = vocabulary := by
  cases space with
  | bound uri =>
    constructor
    · rintro ⟨own, hown, rfl⟩
      refine ⟨?_, ofUri_of_mem_uris own hown⟩
      rintro rfl
      cases hown
    · rintro ⟨hne, rfl⟩
      exact mem_uris_ofUri hne
  | none =>
    constructor
    · rintro rfl
      exact ⟨by decide, rfl⟩
    · rintro ⟨-, rfl⟩
      rfl
  | undeclared =>
    constructor
    · exact False.elim
    · rintro ⟨hne, rfl⟩
      exact hne rfl

end Vocabulary

namespace Content

/-- The vocabulary and the local name of an element with this tag. -/
def nameOf (scope : Xml.Scope) (tag : Xml.Tag) : Vocabulary × Bytes :=
  Reader.nameOf (scope.inside tag) tag

/-- An element with this tag has this local name and belongs to this vocabulary. The declarations
of the tag itself are in force for its own name as well. -/
def IsNamed (scope : Xml.Scope) (vocabulary : Vocabulary) (name : String) (tag : Xml.Tag) : Prop :=
  vocabulary.Covers ((scope.inside tag).resolve tag.name) ∧
    Xml.localPart tag.name = Bytes.ofString name

instance (scope : Xml.Scope) (vocabulary : Vocabulary) (name : String) (tag : Xml.Tag) :
    Decidable (IsNamed scope vocabulary name tag) :=
  inferInstanceAs (Decidable (_ ∧ _))

theorem isNamed_iff {scope : Xml.Scope} {vocabulary : Vocabulary} {name : String}
    {tag : Xml.Tag} :
    IsNamed scope vocabulary name tag ↔
      vocabulary ≠ .other ∧ nameOf scope tag = (vocabulary, Bytes.ofString name) := by
  unfold IsNamed nameOf Reader.nameOf
  rw [Vocabulary.covers_iff, and_assoc, Prod.mk.injEq]

end Content

end Recrawl.Sitemap
