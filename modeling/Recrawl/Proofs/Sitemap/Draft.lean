import Recrawl.Proofs.Sitemap.Reading

/-!
What the reader knows of an unfinished element is the reading of the nodes behind it. Each
node adds to the reading just what the reader does when it has passed the node.
-/

namespace Recrawl.Sitemap

/-- The name of the elements that hold a field. -/
def Field.word : Field → String
  | .location => "loc"
  | .modified => "lastmod"
  | .priority => "priority"
  | .frequency => "changefreq"

/-- The name of the elements that hold a field of a piece of news. -/
def NewsField.word : NewsField → String
  | .published => "publication_date"
  | .title => "title"

theorem Field.ofName?_word (field : Field) : ofName? (Bytes.ofString field.word) = some field := by
  cases field <;> decide +kernel

theorem NewsField.ofName?_word (field : NewsField) :
    ofName? (Bytes.ofString field.word) = some field := by
  cases field <;> decide +kernel

theorem Field.ofName?_eq_some_iff {name : Bytes} {field : Field} :
    ofName? name = some field ↔ name = Bytes.ofString field.word := by
  constructor
  · intro h
    unfold ofName? at h
    split at h
    · cases h; exact eq_of_beq ‹_›
    · split at h
      · cases h; exact eq_of_beq ‹_›
      · split at h
        · cases h; exact eq_of_beq ‹_›
        · split at h
          · cases h; exact eq_of_beq ‹_›
          · cases h
  · rintro rfl
    exact field.ofName?_word

theorem NewsField.ofName?_eq_some_iff {name : Bytes} {field : NewsField} :
    ofName? name = some field ↔ name = Bytes.ofString field.word := by
  constructor
  · intro h
    unfold ofName? at h
    split at h
    · cases h; exact eq_of_beq ‹_›
    · split at h
      · cases h; exact eq_of_beq ‹_›
      · cases h
  · rintro rfl
    exact field.ofName?_word

theorem Kind.isEntry_iff {kind : Kind} {name : Bytes} :
    kind.isEntry name = true ↔ name = Bytes.ofString kind.entryName := by
  cases kind <;> exact beq_iff_eq

theorem bits_of_ofUnitDecimal? {decimal : Number.Decimal} {x : Number.Binary32}
    (h : Number.Binary32.ofUnitDecimal? decimal = some x) :
    x.bits ≤ 0x3F800000 ∨ 0x80000000 ≤ x.bits := by
  have hsign : ∀ magnitude, magnitude ≤ 0x3F800000 →
      let bits := (if decimal.negative then 0x80000000 else 0) + magnitude
      bits ≤ 0x3F800000 ∨ 0x80000000 ≤ bits := by
    intro magnitude hmagnitude
    cases decimal.negative
    · left
      simpa using hmagnitude
    · right
      simp
  simp only [Number.Binary32.ofUnitDecimal?] at h
  split at h
  · cases h
    exact hsign 0 (by decide)
  · split at h
    · cases h
    · split at h
      · rename_i hone
        cases h
        exact hsign _ hone
      · cases h

theorem guard_eq_some {p : Prop} [Decidable p] (h : p) : (guard p : Option Unit) = some () := if_pos h

theorem guard_eq_none {p : Prop} [Decidable p] (h : ¬ p) : (guard p : Option Unit) = none := if_neg h

/-- The reader takes the numbers of the unit interval for priorities and no others. -/
theorem readPriority_eq : readPriority = unitNumber? := by
  funext text
  unfold readPriority unitNumber?
  cases Number.Decimal.parse? text with
  | none => rfl
  | some decimal =>
    rw [Option.bind_some, Option.bind_eq_bind, Option.bind_some]
    cases hnumber : Number.Binary32.ofUnitDecimal? decimal with
    | none => rfl
    | some x =>
      rw [Option.bind_eq_bind, Option.bind_some]
      have hbits := bits_of_ofUnitDecimal? hnumber
      have hunit : x.isNegative = false ↔ IsUnit x := by
        simp only [Number.Binary32.isNegative, IsUnit, decide_eq_false_iff_not]
        omega
      by_cases h : IsUnit x
      · rw [guard_eq_some h]
        simp [Option.filter, hunit.mpr h]
      · rw [guard_eq_none h]
        simp [Option.filter, mt hunit.mp h]

theorem lastValue?_snoc (before : List Xml.Attribute) (attr : Xml.Attribute) (name : String) :
    lastValue? (before ++ [attr]) name =
      if Xml.localPart attr.name = Bytes.ofString name then
        some (Xml.Reference.decoded attr.value)
      else lastValue? before name := by
  unfold lastValue?
  rw [List.filter_append, List.getLast?_append]
  by_cases h : Xml.localPart attr.name = Bytes.ofString name <;> simp [h]

/-- The attributes of a link that count. -/
def LinkAttributes.ofAttributes (attributes : List Xml.Attribute) : LinkAttributes :=
  ⟨lastValue? attributes "rel", lastValue? attributes "hreflang", lastValue? attributes "href"⟩

/-- The reader of attributes ends up with the last value of each name. -/
theorem LinkAttributes.read_ofAttributes (before rest : List Xml.Attribute)
    (hsound : (rest.all fun attr => Xml.Reference.isSound attr.value) = true) :
    read (ofAttributes before) rest = .ok (ofAttributes (before ++ rest)) := by
  have hrel : Bytes.ofString "rel" ≠ Bytes.ofString "hreflang" := by decide +kernel
  have hrel' : Bytes.ofString "rel" ≠ Bytes.ofString "href" := by decide +kernel
  have hlang : Bytes.ofString "hreflang" ≠ Bytes.ofString "href" := by decide +kernel
  induction rest generalizing before with
  | nil => rw [List.append_nil, read]
  | cons attr rest ih =>
    simp only [List.all_cons, Bool.and_eq_true] at hsound
    have hnext := ih (before ++ [attr]) hsound.2
    rw [List.append_assoc, List.singleton_append] at hnext
    rw [← hnext, read, Xml.Reference.decode_of_isSound hsound.1]
    simp only [ofAttributes, lastValue?_snoc, beq_iff_eq]
    generalize Xml.localPart attr.name = name
    by_cases h1 : name = Bytes.ofString "rel"
    · simp [h1, hrel, hrel']
    · by_cases h2 : name = Bytes.ofString "hreflang"
      · simp [h2, hrel.symm, hlang]
      · by_cases h3 : name = Bytes.ofString "href"
        · simp [h3, hrel'.symm, hlang.symm]
        · simp [h1, h2, h3]

theorem LinkAttributes.alternate?_ofAttributes (tag : Xml.Tag) :
    (ofAttributes tag.distinctAttributes).alternate? = alternateOf? tag := by
  unfold alternate? alternateOf? ofAttributes
  cases lastValue? tag.distinctAttributes "rel" with
  | none => rfl
  | some relation =>
    rw [Option.bind_eq_bind, Option.bind_some]
    have hiff : ((some relation).map fun r => r.map Char.toLower) == some "alternate".toList ↔
        relation.map Char.toLower = "alternate".toList := by simp
    by_cases hrelation : relation.map Char.toLower = "alternate".toList
    · rw [guard_eq_some hrelation, if_pos (hiff.mpr hrelation)]
      cases lastValue? tag.distinctAttributes "href" with
      | none => rfl
      | some address =>
        simp only [Option.bind_some]
        cases Url.ofChars (Text.trimChars address) <;> rfl
    · rw [guard_eq_none hrelation, if_neg (mt hiff.mp hrelation)]
      rfl

theorem Draft.addLink_of_isSound (draft : Draft) {tag : Xml.Tag} (h : tag.isSound = true) :
    draft.addLink tag =
      .ok { draft with alternates := (alternateOf? tag).toList ++ draft.alternates } := by
  have hread := LinkAttributes.read_ofAttributes [] tag.distinctAttributes h
  rw [List.nil_append] at hread
  change LinkAttributes.read {} tag.distinctAttributes = _ at hread
  have halternate := LinkAttributes.alternate?_ofAttributes tag
  unfold addLink
  rw [hread]
  cases h : alternateOf? tag <;> simp [halternate, h]

namespace Content

/-- The reading of the nodes so far as the reader holds it. -/
def draft (content : Content) : Draft :=
  ⟨content.lastText? .sitemap "loc", content.modified?, content.priority?, content.frequency?,
    content.allNews.reverse, content.alternates.reverse⟩

theorem entry?_toItem_draft (content : Content) :
    content.draft.toItem.entry? = content.entry? := by
  unfold draft entry? Draft.toItem
  cases content.lastText? .sitemap "loc" with
  | none => rfl
  | some location =>
    cases h : Url.ofChars location with
    | error fault => simp [h, Item.entry?, Except.toOption]
    | ok url => simp [h, Item.entry?, Except.toOption]

section Snoc

variable {scope : Xml.Scope} (before : List Xml.Node) {node : Xml.Node} {tag : Xml.Tag}
  (children : List Xml.Node) {vocabulary : Vocabulary} {name : Bytes}

theorem bind_lastText?_snoc {α : Type} (f : List Char → Option α) (vocabulary : Vocabulary)
    (name : String) :
    (lastText? ⟨scope, before ++ [node]⟩ vocabulary name).bind f =
      (ofNode? scope vocabulary name node).elim
        ((lastText? ⟨scope, before⟩ vocabulary name).bind f) (fun content => f content.text) := by
  rw [lastText?_snoc]
  cases ofNode? scope vocabulary name node <;> rfl

theorem ofNode?_of_ne (hname : nameOf scope tag = (vocabulary, name)) {wanted : Vocabulary}
    (hne : vocabulary ≠ wanted) (word : String) :
    ofNode? scope wanted word (.element tag children) = none := by
  simp [ofNode?, isNamed_iff, hname, hne]

theorem tagOf?_of_tag? (htag : node.tag? = some tag) (vocabulary : Vocabulary) (word : String) :
    tagOf? scope vocabulary word node =
      if IsNamed scope vocabulary word tag then some tag else none := by
  simp [tagOf?, htag, Option.filter]

theorem tagOf?_of_ne (hname : nameOf scope tag = (vocabulary, name)) {wanted : Vocabulary}
    (hne : vocabulary ≠ wanted) (word : String) :
    tagOf? scope wanted word (.element tag children) = none := by
  rw [tagOf?_of_tag? rfl]
  simp [isNamed_iff, hname, hne]

theorem ofNode?_field (hname : nameOf scope tag = (.sitemap, name)) (field : Field) :
    ofNode? scope .sitemap field.word (.element tag children) =
      if Field.ofName? name = some field then some ⟨scope.inside tag, children⟩ else none := by
  simp [ofNode?, isNamed_iff, hname, Field.ofName?_eq_some_iff]

theorem ofNode?_newsField (hname : nameOf scope tag = (.news, name)) (field : NewsField) :
    ofNode? scope .news field.word (.element tag children) =
      if NewsField.ofName? name = some field then some ⟨scope.inside tag, children⟩ else none := by
  simp [ofNode?, isNamed_iff, hname, NewsField.ofName?_eq_some_iff]

theorem news_snoc_field (hname : nameOf scope tag = (.news, name)) {field : NewsField}
    (hfield : NewsField.ofName? name = some field) :
    news ⟨scope, before ++ [.element tag children]⟩ =
      (news ⟨scope, before⟩).set field (text ⟨scope.inside tag, children⟩) := by
  have hpublished := ofNode?_newsField children hname .published
  have htitle := ofNode?_newsField children hname .title
  rw [hfield] at hpublished htitle
  simp only [NewsField.word] at hpublished htitle
  unfold news
  rw [bind_lastText?_snoc, bind_lastText?_snoc, hpublished, htitle]
  cases field <;> simp [News.set]

theorem news_snoc_of_none
    (hnone : ∀ field : NewsField, ofNode? scope .news field.word node = none) :
    news ⟨scope, before ++ [node]⟩ = news ⟨scope, before⟩ := by
  have hpublished := hnone .published
  have htitle := hnone .title
  simp only [NewsField.word] at hpublished htitle
  unfold news
  rw [bind_lastText?_snoc, bind_lastText?_snoc, hpublished, htitle]
  rfl

/-- A node that is no field of an entry adds news or alternates at most. -/
theorem draft_snoc_of_none
    (hnone : ∀ field : Field, ofNode? scope .sitemap field.word node = none) :
    draft ⟨scope, before ++ [node]⟩ =
      { draft ⟨scope, before⟩ with
        news := ((ofNode? scope .news "news" node).map news).toList ++
          (draft ⟨scope, before⟩).news
        alternates := ((tagOf? scope .links "link" node).bind alternateOf?).toList ++
          (draft ⟨scope, before⟩).alternates } := by
  have hlocation := hnone .location
  have hmodified := hnone .modified
  have hpriority := hnone .priority
  have hfrequency := hnone .frequency
  simp only [Field.word] at hlocation hmodified hpriority hfrequency
  unfold draft modified? priority? frequency? allNews alternates
  rw [bind_lastText?_snoc, bind_lastText?_snoc, bind_lastText?_snoc, lastText?_snoc, elements_snoc,
    tags_snoc, hlocation, hmodified, hpriority, hfrequency]
  cases ofNode? scope .news "news" node <;> cases tagOf? scope .links "link" node with
  | none => simp
  | some tag => cases h : alternateOf? tag <;> simp [h]

theorem draft_snoc_of_ne_sitemap (hname : nameOf scope tag = (vocabulary, name))
    (hne : vocabulary ≠ .sitemap) :
    draft ⟨scope, before ++ [.element tag children]⟩ =
      { draft ⟨scope, before⟩ with
        news := ((ofNode? scope .news "news" (.element tag children)).map news).toList ++
          (draft ⟨scope, before⟩).news
        alternates :=
          ((tagOf? scope .links "link" (.element tag children)).bind alternateOf?).toList ++
            (draft ⟨scope, before⟩).alternates } :=
  draft_snoc_of_none before fun field => ofNode?_of_ne children hname hne field.word

theorem draft_snoc_field (hname : nameOf scope tag = (.sitemap, name)) {field : Field}
    (hfield : Field.ofName? name = some field) :
    draft ⟨scope, before ++ [.element tag children]⟩ =
      (draft ⟨scope, before⟩).set field (text ⟨scope.inside tag, children⟩) := by
  have hlocation := ofNode?_field children hname .location
  have hmodified := ofNode?_field children hname .modified
  have hpriority := ofNode?_field children hname .priority
  have hfrequency := ofNode?_field children hname .frequency
  have hnews := ofNode?_of_ne children hname (show Vocabulary.sitemap ≠ .news by decide) "news"
  have hlink := tagOf?_of_ne children hname (show Vocabulary.sitemap ≠ .links by decide) "link"
  rw [hfield] at hlocation hmodified hpriority hfrequency
  simp only [Field.word] at hlocation hmodified hpriority hfrequency
  unfold draft modified? priority? frequency? allNews alternates
  rw [bind_lastText?_snoc, bind_lastText?_snoc, bind_lastText?_snoc, lastText?_snoc, elements_snoc,
    tags_snoc, hlocation, hmodified, hpriority, hfrequency, hnews, hlink]
  cases field <;> simp [Draft.set, readPriority_eq]

end Snoc

end Content

end Recrawl.Sitemap
