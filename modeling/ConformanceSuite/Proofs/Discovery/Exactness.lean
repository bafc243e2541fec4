import Mathlib.Data.List.Forall2
import ConformanceSuite.Proofs.Discovery.Rules

/-!
# Exactness of discovery validation

The failures of a document are those of the rules that it violates: one for each, in the order of
the document, and no others. `Reports` says so of a list of failures and a relation; it is carried
from the parts of a document to the whole by `Reports.append` and `Reports.each`.
-/

namespace ConformanceSuite.Discovery

variable {P Q : Rule → Failure → Prop}

/-- A list of failures reports a relation if it has one failure for each rule that has one, in the
order of the rules. -/
def Reports (P : Rule → Failure → Prop) (failures : List Failure) : Prop :=
  ∃ rules : List Rule, rules.Pairwise Rule.Before ∧ (∀ r, r ∈ rules ↔ ∃ f, P r f) ∧
    List.Forall₂ P rules failures

/-! ### Building reports -/

theorem Reports.congr {failures : List Failure} (h : Reports P failures)
    (hPQ : ∀ r f, P r f ↔ Q r f) : Reports Q failures := by
  obtain ⟨rules, horder, hmem, hrel⟩ := h
  refine ⟨rules, horder, fun r => ?_, hrel.imp fun r f => (hPQ r f).1⟩
  rw [hmem]
  exact exists_congr (hPQ r)

theorem Reports.nil (h : ∀ r f, ¬ P r f) : Reports P [] :=
  ⟨[], .nil, fun r => by simp [h], .nil⟩

theorem Reports.one (r₀ : Rule) (f₀ : Failure) : Reports (fun r f => r = r₀ ∧ f = f₀) [f₀] :=
  ⟨[r₀], List.pairwise_singleton _ _, fun r => by simp, .cons ⟨rfl, rfl⟩ .nil⟩

/-- One rule under a condition. -/
theorem Reports.ite {c : Prop} [Decidable c] (r₀ : Rule) (f₀ : Failure) :
    Reports (fun r f => c ∧ r = r₀ ∧ f = f₀) (if c then [f₀] else []) := by
  split
  · rename_i hc
    exact (Reports.one r₀ f₀).congr fun r f => by simp [hc]
  · rename_i hc
    exact .nil fun r f h => hc h.1

/-- Two reports one behind the other, if the rules of the one stand in front of those of the
other. -/
theorem Reports.append {fs gs : List Failure} (hP : Reports P fs) (hQ : Reports Q gs)
    (hbefore : ∀ r f r' f', P r f → Q r' f' → r.Before r') :
    Reports (fun r f => P r f ∨ Q r f) (fs ++ gs) := by
  obtain ⟨rules, horder, hmem, hrel⟩ := hP
  obtain ⟨rules', horder', hmem', hrel'⟩ := hQ
  refine ⟨rules ++ rules', List.pairwise_append.2 ⟨horder, horder', ?_⟩, fun r => ?_, ?_⟩
  · intro r hr r' hr'
    obtain ⟨f, hf⟩ := (hmem r).1 hr
    obtain ⟨f', hf'⟩ := (hmem' r').1 hr'
    exact hbefore r f r' f' hf hf'
  · rw [List.mem_append, hmem, hmem', exists_or]
  · exact List.rel_append (hrel.imp fun _ _ => .inl) (hrel'.imp fun _ _ => .inr)

/-- The reports of the parts of a list, one behind the other. -/
theorem Reports.each {α : Type} {R : Nat → α → Rule → Failure → Prop}
    {failures : Nat → α → List Failure} {l : List α} (h : ∀ n a, Reports (R n a) (failures n a))
    (hbefore : ∀ n a m b, n < m → ∀ r f r' f', R n a r f → R m b r' f' → r.Before r') :
    Reports (fun r f => ∃ n a, l[n]? = some a ∧ R n a r f) (eachWithIndex failures l) := by
  -- of any stretch of the list, with the places of its parts counted from `k`
  suffices hfrom : ∀ k, Reports (fun r f => ∃ n a, l[n]? = some a ∧ R (k + n) a r f)
      ((l.zipIdx k).map fun p => failures p.2 p.1).flatten by
    simpa [eachWithIndex] using hfrom 0
  induction l with
  | nil => exact fun k => .nil fun r f ⟨n, a, ha, _⟩ => by simp at ha
  | cons a rest ih =>
    intro k
    have hrest := (h k a).append (ih (k + 1)) fun r f r' f' hr ⟨n, b, _, hr'⟩ =>
      hbefore k a (k + 1 + n) b (by omega) r f r' f' hr hr'
    refine hrest.congr fun r f => ?_
    constructor
    · rintro (hr | ⟨n, b, hb, hr⟩)
      · exact ⟨0, a, rfl, hr⟩
      · exact ⟨n + 1, b, hb, by rwa [Nat.add_right_comm, Nat.add_assoc] at hr⟩
    · rintro ⟨n, b, hb, hr⟩
      cases n with
      | zero =>
        obtain rfl := Option.some.inj hb
        exact .inl hr
      | succ n => exact .inr ⟨n, b, hb, by rwa [Nat.add_right_comm, Nat.add_assoc]⟩

theorem Reports.eq_nil_iff {failures : List Failure} (h : Reports P failures) :
    failures = [] ↔ ∀ r f, ¬ P r f := by
  obtain ⟨rules, -, hmem, hrel⟩ := h
  constructor
  · rintro rfl r f hr
    cases hrel
    simpa using (hmem r).2 ⟨f, hr⟩
  · intro hnone
    cases hrel with
    | nil => rfl
    | cons hr _ => exact absurd hr (hnone _ _)

/-- The reports of the fields of one thing, each with a rule of its own. -/
theorem Reports.fields {F : Type} {R : F → Rule → Failure → Prop} {failures : F → List Failure}
    (rule : F → Rule) {fields : List F} (h : ∀ x, Reports (R x) (failures x))
    (hrule : ∀ x r f, R x r f → r = rule x)
    (horder : (fields.map rule).Pairwise Rule.Before) :
    Reports (fun r f => ∃ x ∈ fields, R x r f) (fields.flatMap failures) := by
  induction fields with
  | nil => exact .nil fun r f ⟨x, hx, _⟩ => by cases hx
  | cons x rest ih =>
    rw [List.map_cons, List.pairwise_cons] at horder
    refine ((h x).append (ih horder.2) ?_).congr fun r f => ?_
    · rintro r f r' f' hr ⟨y, hy, hr'⟩
      rw [hrule x r f hr, hrule y r' f' hr']
      exact horder.1 _ (List.mem_map_of_mem hy)
    · simp

/-- A list that is absent or empty breaks a rule of its own, and has no items to break others. -/
theorem Reports.requireItems {α : Type} (items : Option (List α))
    {failures : List α → List Failure} (r₀ r₁ : Rule) (place : Place) (label : String)
    (h : Reports P (failures (items.getD []))) (hempty : items.getD [] = [] → ∀ r f, ¬ P r f) :
    Reports (fun r f => (items = none ∧ r = r₀ ∧ f = ⟨place, .required label⟩) ∨
        (items = some [] ∧ r = r₁ ∧ f = ⟨place, .tooShort label⟩) ∨ P r f)
      (requireItems place label items failures) := by
  cases items with
  | none =>
    refine (Reports.one r₀ ⟨place, .required label⟩).congr fun r f => ?_
    simp [hempty rfl]
  | some l =>
    cases l with
    | nil =>
      refine (Reports.one r₁ ⟨place, .tooShort label⟩).congr fun r f => ?_
      simp [hempty rfl]
    | cons a rest =>
      refine h.congr fun r f => ?_
      simp

/-- A text that is empty breaks a rule. -/
theorem reports_requireNonEmpty (r₀ : Rule) (place : Place) (label value : String) :
    Reports (fun r f => value = "" ∧ r = r₀ ∧ f = ⟨place, .required label⟩)
      (requireNonEmpty place label value) := by
  have h : requireNonEmpty place label value =
      if value = "" then [⟨place, .required label⟩] else [] := by
    simp [requireNonEmpty]
  rw [h]
  exact .ite r₀ _

/-! ### Named specifications -/

theorem ofSchemaVersion?_eq_some_iff {schemaVersion : String} {known : Specification} :
    Specification.ofSchemaVersion? schemaVersion = some known ↔
      known ∈ Specification.registered ∧ known.schemaVersion = schemaVersion := by
  unfold Specification.ofSchemaVersion?
  constructor
  · intro h
    exact ⟨List.mem_of_find?_eq_some h, by simpa using List.find?_some h⟩
  · rintro ⟨hmem, rfl⟩
    cases h : Specification.registered.find? (·.schemaVersion = known.schemaVersion) with
    | none => simpa using List.find?_eq_none.1 h known hmem
    | some other =>
      have hsame : other.schemaVersion = known.schemaVersion := by simpa using List.find?_some h
      rw [registered_unique (List.mem_of_find?_eq_some h) hmem hsame]

/-- A text that is given but differs from the registered one breaks a rule. -/
theorem reports_mismatch (item : Nat) (s : ApiSpecification) (known : Specification)
    (field : SpecificationField) :
    Reports (fun r f => (field.text s ≠ "" ∧ field.text s ≠ field.registeredText known) ∧
        r = .agreement item field ∧ f = ⟨.specification item field,
          .mismatch field.label (field.registeredText known) s.schemaVersion⟩)
      (mismatchFailures item field (field.text s) (field.registeredText known)
        s.schemaVersion) := by
  have h : mismatchFailures item field (field.text s) (field.registeredText known)
      s.schemaVersion = if field.text s ≠ "" ∧ field.text s ≠ field.registeredText known then
        [⟨.specification item field,
          .mismatch field.label (field.registeredText known) s.schemaVersion⟩] else [] := by
    simp [mismatchFailures]
  rw [h]
  exact .ite _ _

/-- The failures of a specification that differs from the registered one of its schema address. -/
theorem reports_agreement (item : Nat) (s : ApiSpecification) (known : Specification) :
    Reports (fun r f => ∃ field ∈ [SpecificationField.name, .version, .url],
        (field.text s ≠ "" ∧ field.text s ≠ field.registeredText known) ∧
        r = .agreement item field ∧ f = ⟨.specification item field,
          .mismatch field.label (field.registeredText known) s.schemaVersion⟩)
      (mismatchFailures item .name s.name known.name s.schemaVersion ++
        mismatchFailures item .version s.version known.version s.schemaVersion ++
        mismatchFailures item .url s.url known.url s.schemaVersion) := by
  have horder : ([SpecificationField.name, .version, .url].map (Rule.agreement item)).Pairwise
      Rule.Before := by
    simp [Rule.Before, Rule.position, SpecificationField.comparisonRank, List.cons_lt_cons_iff]
  have h := Reports.fields (Rule.agreement item) (reports_mismatch item s known)
    (fun field r f hr => hr.2.1) horder
  simpa [SpecificationField.text, SpecificationField.registeredText] using h

theorem reports_registered (item : Nat) (s : ApiSpecification) :
    Reports (fun r f => SpecificationBreaks item s r f ∧ ∀ field, r ≠ .specificationText item field)
      (registeredFailures item s) := by
  have hgiven : ∀ known ∈ Specification.registered, known.schemaVersion ≠ "" := by decide +kernel
  unfold registeredFailures
  by_cases hempty : s.schemaVersion = ""
  · rw [hempty, if_pos (by decide)]
    refine .nil fun r f ⟨hr, htext⟩ => ?_
    cases hr with
    | text => exact htext _ rfl
    | registered given => exact given hempty
    | agreement registered same => exact hgiven _ registered (same.trans hempty)
  · have hfull : s.schemaVersion.isEmpty = false := by simpa using hempty
    simp only [hfull, Bool.false_eq_true, if_false]
    cases h : Specification.ofSchemaVersion? s.schemaVersion with
    | none =>
      have hnone : ∀ known ∈ Specification.registered,
          known.schemaVersion ≠ s.schemaVersion := fun known hmem hsame => by
        simp [ofSchemaVersion?_eq_some_iff.2 ⟨hmem, hsame⟩] at h
      refine (Reports.one (.schemaRegistered item) _).congr fun r f => ?_
      constructor
      · rintro ⟨rfl, rfl⟩
        exact ⟨.registered hempty hnone, by simp⟩
      · rintro ⟨hr, htext⟩
        cases hr with
        | text => exact absurd rfl (htext _)
        | registered => exact ⟨rfl, rfl⟩
        | agreement registered same => exact absurd same (hnone _ registered)
    | some known =>
      obtain ⟨hmem, hsame⟩ := ofSchemaVersion?_eq_some_iff.1 h
      refine (reports_agreement item s known).congr fun r f => ?_
      constructor
      · rintro ⟨field, -, ⟨hfilled, hdiffers⟩, rfl, rfl⟩
        exact ⟨.agreement hmem hsame hfilled hdiffers, by simp⟩
      · rintro ⟨hr, htext⟩
        cases hr with
        | text => exact absurd rfl (htext _)
        | registered _ unregistered => exact absurd hsame (unregistered known hmem)
        | @agreement field other registered same hfilled hdiffers =>
          obtain rfl := registered_unique registered hmem (same.trans hsame.symm)
          refine ⟨field, ?_, ⟨hfilled, hdiffers⟩, rfl, rfl⟩
          cases field with
          | schemaVersion => exact absurd hsame.symm hdiffers
          | _ => simp

/-- The texts of a specification come first, and then its comparison with the registered one. -/
theorem reports_specification (item : Nat) (s : ApiSpecification) :
    Reports (SpecificationBreaks item s) (specificationFailures item s) := by
  have horder : ([SpecificationField.name, .url, .version, .schemaVersion].map
      (Rule.specificationText item)).Pairwise Rule.Before := by
    simp [Rule.Before, Rule.position, SpecificationField.rank, List.cons_lt_cons_iff]
  have htexts := Reports.fields (Rule.specificationText item)
    (fun field => reports_requireNonEmpty (.specificationText item field)
      (.specification item field) field.label (field.text s))
    (fun field r f hr => hr.2.1) horder
  have h : specificationFailures item s =
      [SpecificationField.name, .url, .version, .schemaVersion].flatMap (fun field =>
        requireNonEmpty (.specification item field) field.label (field.text s)) ++
      registeredFailures item s := by
    simp [specificationFailures, SpecificationField.text]
  rw [h]
  refine (htexts.append (reports_registered item s) ?_).congr fun r f => ?_
  · rintro r f r' f' ⟨field, -, -, rfl, -⟩ ⟨hr', htext⟩
    cases hr' with
    | text => exact absurd rfl (htext _)
    | _ => simp [Rule.Before, Rule.position, List.cons_lt_cons_iff]
  · constructor
    · rintro (⟨field, -, hempty, rfl, rfl⟩ | ⟨hr, -⟩)
      · exact .text hempty
      · exact hr
    · intro hr
      cases hr with
      | @text field hempty => exact .inl ⟨field, by cases field <;> simp, hempty, rfl, rfl⟩
      | registered given unregistered => exact .inr ⟨.registered given unregistered, by simp⟩
      | agreement registered same given differs =>
        exact .inr ⟨.agreement registered same given differs, by simp⟩

/-! ### Items -/

theorem reports_endpoint (item index : Nat) (e : Endpoint) :
    Reports (fun r f => ∃ field ∈ [EndpointField.method, .path], field.text e = "" ∧
        r = .endpointText item index field ∧
        f = ⟨.endpointField item index field, .required field.label⟩)
      (endpointFailures item index e) := by
  have horder : ([EndpointField.method, .path].map (Rule.endpointText item index)).Pairwise
      Rule.Before := by
    simp [Rule.Before, Rule.position, EndpointField.rank, List.cons_lt_cons_iff]
  have h := Reports.fields (Rule.endpointText item index)
    (fun field => reports_requireNonEmpty (.endpointText item index field)
      (.endpointField item index field) field.label (field.text e))
    (fun field r f hr => hr.2.1) horder
  simpa [endpointFailures, EndpointField.text] using h

theorem reports_item (item : Nat) (i : DiscoveryItem) :
    Reports (ItemBreaks item i) (itemFailures item i) := by
  have heach := Reports.each (l := i.endpoints) (reports_endpoint item)
    (by
      rintro n a m b hlt r f r' f' ⟨field, -, -, rfl, -⟩ ⟨field', -, -, rfl, -⟩
      simp [Rule.Before, Rule.position, List.cons_lt_cons_iff, hlt])
  have hendpoints := heach.requireItems i.endpoints? (.endpointsGiven item)
    (.endpointsNonEmpty item) (.endpoints item) "Endpoints"
    (by
      rintro hempty r f ⟨n, e, he, -⟩
      simp [DiscoveryItem.endpoints, hempty] at he)
  refine ((reports_specification item i.apiSpecification).append hendpoints ?_).congr
    fun r f => ?_
  · rintro r f r' f' hr (⟨-, rfl, -⟩ | ⟨-, rfl, -⟩ | ⟨n, e, -, field, -, -, rfl, -⟩) <;>
      cases hr <;> simp [Rule.Before, Rule.position, List.cons_lt_cons_iff]
  · constructor
    · rintro (hr | ⟨habsent, rfl, rfl⟩ | ⟨hempty, rfl, rfl⟩ |
        ⟨n, e, he, field, -, hempty, rfl, rfl⟩)
      · exact .specification hr
      · exact .endpointsGiven habsent
      · exact .endpointsNonEmpty hempty
      · exact .endpointText he hempty
    · intro hr
      cases hr with
      | specification hr => exact .inl hr
      | endpointsGiven absent => exact .inr (.inl ⟨absent, rfl, rfl⟩)
      | endpointsNonEmpty empty => exact .inr (.inr (.inl ⟨empty, rfl, rfl⟩))
      | @endpointText n e field there empty =>
        exact .inr (.inr (.inr ⟨n, e, there, field, by cases field <;> simp, empty, rfl, rfl⟩))

/-! ### Documents -/

theorem reports_documentText (d : DiscoveryDocument) (field : DocumentField) :
    Reports (fun r f => field.text? d = some "" ∧ r = .documentText field ∧
        f = ⟨.document field, .required field.label⟩)
      ((field.text? d).elim [] (requireNonEmpty (.document field) field.label)) := by
  cases h : field.text? d with
  | none => exact .nil fun r f ⟨hempty, _⟩ => by cases hempty
  | some value =>
    refine (reports_requireNonEmpty (.documentText field) _ _ value).congr fun r f => ?_
    simp

theorem reports_version (d : DiscoveryDocument) :
    Reports (fun r f => (d.discoveryVersion ≠ "" ∧ d.discoveryVersion ∉ supportedVersions) ∧
        r = .versionSupported ∧
        f = ⟨.document .discoveryVersion, .unsupportedVersion d.discoveryVersion⟩)
      (if d.discoveryVersion ≠ "" ∧ d.discoveryVersion ∉ supportedVersions then
        [⟨.document .discoveryVersion, .unsupportedVersion d.discoveryVersion⟩] else []) :=
  .ite _ _

theorem versionFailures_eq (version : String) :
    versionFailures version =
      requireNonEmpty (.document .discoveryVersion) DocumentField.discoveryVersion.label version ++
      if version ≠ "" ∧ version ∉ supportedVersions then
        [⟨.document .discoveryVersion, .unsupportedVersion version⟩] else [] := by
  unfold versionFailures requireNonEmpty
  by_cases hempty : version = ""
  · simp [hempty]
  · by_cases hsupported : version ∈ supportedVersions <;> simp [isSupported, hempty, hsupported]

/-- The structural failures are those of the rules that a document breaks by itself. -/
theorem reports_structural (d : DiscoveryDocument) :
    Reports (Breaks d) (structuralFailures d) := by
  have horder : ([DocumentField.name, .description, .discoveryVersion].map
      Rule.documentText).Pairwise Rule.Before := by
    simp [Rule.Before, Rule.position, DocumentField.rank, List.cons_lt_cons_iff]
  have htexts := Reports.fields Rule.documentText (reports_documentText d)
    (fun field r f hr => hr.2.1) horder
  have heach := Reports.each (l := d.items) reports_item (by
    intro n a m b hlt r f r' f' hr hr'
    obtain ⟨tail, h⟩ := hr.position
    obtain ⟨tail', h'⟩ := hr'.position
    simp [Rule.Before, h, h', List.cons_lt_cons_iff, hlt])
  have hitems := heach.requireItems d.items? .itemsGiven .itemsNonEmpty
    (.document .discoveryItems) "DiscoveryItems"
    (by
      rintro hempty r f ⟨n, i, hi, -⟩
      simp [DiscoveryDocument.items, hempty] at hi)
  have h : structuralFailures d =
      [DocumentField.name, .description, .discoveryVersion].flatMap (fun field =>
        (field.text? d).elim [] (requireNonEmpty (.document field) field.label)) ++
      (if d.discoveryVersion ≠ "" ∧ d.discoveryVersion ∉ supportedVersions then
        [⟨.document .discoveryVersion, .unsupportedVersion d.discoveryVersion⟩] else []) ++
      requireItems (.document .discoveryItems) "DiscoveryItems" d.items?
        (eachWithIndex itemFailures) := by
    simp only [structuralFailures, versionFailures_eq, List.flatMap_cons, List.flatMap_nil,
      DocumentField.text?, Option.elim_some, List.append_assoc, List.append_nil]
    rfl
  rw [h]
  refine ((htexts.append (reports_version d) ?_).append hitems ?_).congr fun r f => ?_
  · rintro r f r' f' ⟨field, -, -, rfl, -⟩ ⟨-, rfl, -⟩
    simp [Rule.Before, Rule.position, List.cons_lt_cons_iff]
  · -- all that stands in front of the items has a position below two
    intro r f r' f' hr hr'
    have hfront : ∃ n rest, n < 2 ∧ r.position = n :: rest := by
      rcases hr with ⟨field, -, -, rfl, -⟩ | ⟨-, rfl, -⟩
      · exact ⟨0, _, by omega, rfl⟩
      · exact ⟨1, _, by omega, rfl⟩
    have hback : ∃ n rest, 2 ≤ n ∧ r'.position = n :: rest := by
      rcases hr' with ⟨-, rfl, -⟩ | ⟨-, rfl, -⟩ | ⟨n, i, -, hr'⟩
      · exact ⟨2, _, by omega, rfl⟩
      · exact ⟨3, _, by omega, rfl⟩
      · obtain ⟨rest, h⟩ := hr'.position
        exact ⟨4, _, by omega, h⟩
    obtain ⟨n, rest, hn, hposition⟩ := hfront
    obtain ⟨m, rest', hm, hposition'⟩ := hback
    rw [Rule.Before, hposition, hposition', List.cons_lt_cons_iff]
    exact .inl (by omega)
  · constructor
    · rintro ((⟨field, -, hempty, rfl, rfl⟩ | ⟨⟨hgiven, hunsupported⟩, rfl, rfl⟩) |
        ⟨habsent, rfl, rfl⟩ | ⟨hempty, rfl, rfl⟩ | ⟨n, i, hi, hr⟩)
      · exact .documentText hempty
      · exact .versionSupported hgiven hunsupported
      · exact .itemsGiven habsent
      · exact .itemsNonEmpty hempty
      · exact .item hi hr
    · intro hr
      cases hr with
      | @documentText field empty =>
        refine .inl (.inl ⟨field, ?_, empty, rfl, rfl⟩)
        cases field with
        | discoveryItems => cases empty
        | _ => simp
      | versionSupported given unsupported => exact .inl (.inr ⟨⟨given, unsupported⟩, rfl, rfl⟩)
      | itemsGiven absent => exact .inr (.inl ⟨absent, rfl, rfl⟩)
      | itemsNonEmpty empty => exact .inr (.inr (.inl ⟨empty, rfl, rfl⟩))
      | item there breaks => exact .inr (.inr (.inr ⟨_, _, there, breaks⟩))

/-! ### Documents before a checker -/

theorem reports_presence (checker : Conditionality) (name : String) (item index : Nat)
    (e : Endpoint) :
    Reports (fun r f => r = .endpointKnown item index ∧
        ((∃ text, checker.isPresent e.method e.path name = .error text ∧
          f = ⟨.endpoint item index, .checker text⟩) ∨
        (checker.isPresent e.method e.path name = .ok false ∧
          f = ⟨.endpoint item index, .unknownEndpoint e.method e.path⟩)))
      (presenceFailures checker name item index e) := by
  unfold presenceFailures
  cases checker.isPresent e.method e.path name with
  | error text =>
    refine (Reports.one (.endpointKnown item index) _).congr fun r f => ?_
    simp
  | ok known =>
    cases known with
    | false =>
      refine (Reports.one (.endpointKnown item index) _).congr fun r f => ?_
      simp
    | true => exact .nil fun r f ⟨_, hr⟩ => by simp at hr

theorem eachWithIndex_singleton {α : Type} (failure : α → Failure) (l : List α) :
    eachWithIndex (fun _ a => [failure a]) l = l.map failure := by
  have h : (l.zipIdx.map fun p => failure p.1) = l.map failure := by
    rw [← Function.comp_def failure Prod.fst, ← List.map_map, List.zipIdx_map_fst]
  rw [← h, List.map_eq_flatMap, List.flatMap_def]
  rfl

theorem reports_mandatory (checker : Conditionality) (name : String) (item : Nat)
    (endpoints : List Endpoint) :
    Reports (fun r f => (∃ text, checker.missingMandatory endpoints name = .error text ∧
        r = .mandatoryAnswered item ∧ f = ⟨.endpoints item, .checker text⟩) ∨
      ∃ missing, checker.missingMandatory endpoints name = .ok missing ∧
        ∃ index e, missing[index]? = some e ∧ r = .mandatoryOffered item index ∧
          f = ⟨.endpoints item, .missingEndpoint e.method e.path⟩)
      (mandatoryFailures checker name item endpoints) := by
  unfold mandatoryFailures
  cases checker.missingMandatory endpoints name with
  | error text =>
    refine (Reports.one (.mandatoryAnswered item) _).congr fun r f => ?_
    simp
  | ok missing =>
    have heach := Reports.each (l := missing)
      (fun index e => Reports.one (.mandatoryOffered item index)
        ⟨.endpoints item, .missingEndpoint e.method e.path⟩)
      (by
        rintro n a m b hlt r f r' f' ⟨rfl, -⟩ ⟨rfl, -⟩
        simp [Rule.Before, Rule.position, List.cons_lt_cons_iff, hlt])
    rw [eachWithIndex_singleton] at heach
    refine heach.congr fun r f => ?_
    simp

theorem reports_itemConditionality (checker : Conditionality) (item : Nat) (i : DiscoveryItem) :
    Reports (ItemFinds checker item i) (itemConditionality checker item i) := by
  have heach := Reports.each (l := i.endpoints)
    (reports_presence checker i.apiSpecification.name item)
    (by
      rintro n a m b hlt r f r' f' ⟨rfl, -⟩ ⟨rfl, -⟩
      simp [Rule.Before, Rule.position, List.cons_lt_cons_iff, hlt])
  refine (heach.append (reports_mandatory checker i.apiSpecification.name item i.endpoints)
    ?_).congr fun r f => ?_
  · rintro r f r' f' ⟨n, e, -, rfl, -⟩ (⟨text, -, rfl, -⟩ | ⟨missing, -, m, e', -, rfl, -⟩) <;>
      simp [Rule.Before, Rule.position, List.cons_lt_cons_iff]
  · constructor
    · rintro (⟨n, e, he, rfl, ⟨text, htext, rfl⟩ | ⟨hfalse, rfl⟩⟩ | ⟨text, htext, rfl, rfl⟩ |
        ⟨missing, hmissing, n, e, he, rfl, rfl⟩)
      · exact .unanswered he htext
      · exact .unknown he hfalse
      · exact .mandatoryUnanswered htext
      · exact .missing hmissing he
    · intro hr
      cases hr with
      | unanswered there answer => exact .inl ⟨_, _, there, rfl, .inl ⟨_, answer, rfl⟩⟩
      | unknown there answer => exact .inl ⟨_, _, there, rfl, .inr ⟨answer, rfl⟩⟩
      | mandatoryUnanswered answer => exact .inr (.inl ⟨_, answer, rfl, rfl⟩)
      | missing answer there => exact .inr (.inr ⟨_, answer, _, _, there, rfl, rfl⟩)

/-- The conditionality failures are those with which a checker finds fault. -/
theorem reports_conditionality (checker : Conditionality) (d : DiscoveryDocument) :
    Reports (Finds checker d) (conditionalityFailures checker d) := by
  have heach := Reports.each (l := d.items) (reports_itemConditionality checker) (by
    intro n a m b hlt r f r' f' hr hr'
    obtain ⟨rest, h⟩ := hr.position
    obtain ⟨rest', h'⟩ := hr'.position
    simp [Rule.Before, h, h', List.cons_lt_cons_iff, hlt])
  refine heach.congr fun r f => ?_
  constructor
  · rintro ⟨n, i, hi, hr⟩
    exact .item hi hr
  · rintro ⟨hi, hr⟩
    exact ⟨_, _, hi, hr⟩

/-! ### Validation -/

/-- A checker finds no fault with a document if it knows every endpoint and misses none. -/
theorem not_finds_iff {checker : Conditionality} {d : DiscoveryDocument} :
    (∀ r f, ¬ Finds checker d r f) ↔ ∀ i ∈ d.items,
      (∀ e ∈ i.endpoints, checker.isPresent e.method e.path i.apiSpecification.name = .ok true) ∧
      checker.missingMandatory i.endpoints i.apiSpecification.name = .ok [] := by
  constructor
  · intro h i hi
    obtain ⟨n, hn⟩ := List.mem_iff_getElem?.1 hi
    refine ⟨fun e he => ?_, ?_⟩
    · obtain ⟨k, hk⟩ := List.mem_iff_getElem?.1 he
      cases hanswer : checker.isPresent e.method e.path i.apiSpecification.name with
      | error text => exact absurd (.item hn (.unanswered hk hanswer)) (h _ _)
      | ok known =>
        cases known with
        | false => exact absurd (.item hn (.unknown hk hanswer)) (h _ _)
        | true => rfl
    · cases hanswer : checker.missingMandatory i.endpoints i.apiSpecification.name with
      | error text => exact absurd (.item hn (.mandatoryUnanswered hanswer)) (h _ _)
      | ok missing =>
        cases missing with
        | nil => rfl
        | cons e rest => exact absurd (.item hn (.missing hanswer List.getElem?_cons_zero)) (h _ _)
  · rintro h r f ⟨hi, hr⟩
    obtain ⟨hpresent, hmissing⟩ := h _ (List.mem_of_getElem? hi)
    cases hr with
    | unanswered there answer => simp [hpresent _ (List.mem_of_getElem? there)] at answer
    | unknown there answer => simp [hpresent _ (List.mem_of_getElem? there)] at answer
    | mandatoryUnanswered answer => simp [hmissing] at answer
    | missing answer there =>
      obtain rfl := Except.ok.inj (hmissing.symm.trans answer)
      simp at there

/-- For every document and every checker: validation has one failure for each rule that is violated,
in the order of the document, and no others. A document passes if it is well formed, the checker
knows all its endpoints and misses no mandatory one. -/
theorem validate_exact (checker : Conditionality) (d : DiscoveryDocument) :
    Reports (Violates checker d) (validate checker d) ∧
      (∀ r f g, Violates checker d r f → Violates checker d r g → f = g) ∧
      (validate checker d = [] ↔ WellFormed d ∧ ∀ i ∈ d.items,
        (∀ e ∈ i.endpoints,
          checker.isPresent e.method e.path i.apiSpecification.name = .ok true) ∧
        checker.missingMandatory i.endpoints i.apiSpecification.name = .ok []) := by
  have hstructural := reports_structural d
  have hreports : Reports (Violates checker d) (validate checker d) := by
    unfold validate
    cases h : structuralFailures d with
    | nil =>
      have hformed : WellFormed d := hstructural.eq_nil_iff.1 h
      refine (reports_conditionality checker d).congr fun r f => ⟨.finds hformed, fun hr => ?_⟩
      cases hr with
      | breaks hr => exact absurd hr (hformed r f)
      | finds _ hr => exact hr
    | cons first rest =>
      have hformed : ¬ WellFormed d := fun hformed => by
        simp [hstructural.eq_nil_iff.2 hformed] at h
      rw [h] at hstructural
      refine hstructural.congr fun r f => ⟨.breaks, fun hr => ?_⟩
      cases hr with
      | breaks hr => exact hr
      | finds hwell _ => exact absurd hwell hformed
  refine ⟨hreports, fun r f g hf hg => hf.unique hg, ?_⟩
  rw [hreports.eq_nil_iff, ← not_finds_iff]
  constructor
  · intro h
    have hformed : WellFormed d := fun r f hr => h r f (.breaks hr)
    exact ⟨hformed, fun r f hr => h r f (.finds hformed hr)⟩
  · rintro ⟨hformed, hfinds⟩ r f hr
    cases hr with
    | breaks hr => exact hformed r f hr
    | finds _ hr => exact hfinds r f hr

end ConformanceSuite.Discovery
