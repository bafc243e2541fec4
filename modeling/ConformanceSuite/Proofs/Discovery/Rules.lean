import ConformanceSuite.Discovery.Validation

/-!
# Rules for discovery documents

The rules that a discovery document is held to, each about one place, and when one is broken. A
document breaks rules by itself, as `Breaks` says, or before a checker, as `Finds` says; the second
kind counts only if there is nothing of the first: `Violates`. The order of rules is the order in
which a document is read.
-/

namespace ConformanceSuite.Discovery

/-- The text of a field of a document; the items are no text. -/
def DocumentField.text? (d : DiscoveryDocument) : DocumentField → Option String
  | .name => some d.name
  | .description => some d.description
  | .discoveryVersion => some d.discoveryVersion
  | .discoveryItems => none

/-- The text of a field of a named specification. -/
def SpecificationField.text (s : ApiSpecification) : SpecificationField → String
  | .name => s.name
  | .url => s.url
  | .version => s.version
  | .schemaVersion => s.schemaVersion

/-- The text of a field of a registered specification. -/
def SpecificationField.registeredText (s : Specification) : SpecificationField → String
  | .name => s.name
  | .url => s.url
  | .version => s.version
  | .schemaVersion => s.schemaVersion

/-- The text of a field of an endpoint. -/
def EndpointField.text (e : Endpoint) : EndpointField → String
  | .method => e.method
  | .path => e.path

/-- A rule about a place of a document. -/
inductive Rule where
  | documentText (field : DocumentField)
  | versionSupported
  | itemsGiven
  | itemsNonEmpty
  | specificationText (item : Nat) (field : SpecificationField)
  | schemaRegistered (item : Nat)
  | agreement (item : Nat) (field : SpecificationField)
  | endpointsGiven (item : Nat)
  | endpointsNonEmpty (item : Nat)
  | endpointText (item index : Nat) (field : EndpointField)
  | endpointKnown (item index : Nat)
  | mandatoryAnswered (item : Nat)
  | mandatoryOffered (item index : Nat)

/-- The order in which the texts of a document are read. -/
def DocumentField.rank : DocumentField → Nat
  | .name => 0
  | .description => 1
  | .discoveryVersion => 2
  | .discoveryItems => 3

/-- The order in which the texts of a named specification are read. -/
def SpecificationField.rank : SpecificationField → Nat
  | .name => 0
  | .url => 1
  | .version => 2
  | .schemaVersion => 3

/-- The order in which a named specification is compared with the registered one: the version comes
in front of the address. -/
def SpecificationField.comparisonRank : SpecificationField → Nat
  | .name => 0
  | .version => 1
  | .url => 2
  | .schemaVersion => 3

/-- The order in which the texts of an endpoint are read. -/
def EndpointField.rank : EndpointField → Nat
  | .method => 0
  | .path => 1

/-- The position of a rule in the order of a document, to be compared number by number. -/
def Rule.position : Rule → List Nat
  | .documentText field => [0, field.rank]
  | .versionSupported => [1]
  | .itemsGiven => [2]
  | .itemsNonEmpty => [3]
  | .specificationText item field => [4, item, 0, field.rank]
  | .schemaRegistered item => [4, item, 1]
  | .agreement item field => [4, item, 2, field.comparisonRank]
  | .endpointsGiven item => [4, item, 3]
  | .endpointsNonEmpty item => [4, item, 4]
  | .endpointText item index field => [4, item, 5, index, field.rank]
  | .endpointKnown item index => [5, item, 0, index]
  | .mandatoryAnswered item => [5, item, 1]
  | .mandatoryOffered item index => [5, item, 2, index]

/-- A rule stands in front of another one. -/
def Rule.Before (r r' : Rule) : Prop := r.position < r'.position

/-! ### The document alone -/

/-- A named specification breaks a rule of its item. -/
inductive SpecificationBreaks (item : Nat) (s : ApiSpecification) : Rule → Failure → Prop
  | text {field : SpecificationField} (empty : field.text s = "") :
      SpecificationBreaks item s (.specificationText item field)
        ⟨.specification item field, .required field.label⟩
  | registered (given : s.schemaVersion ≠ "")
      (unregistered : ∀ known ∈ Specification.registered, known.schemaVersion ≠ s.schemaVersion) :
      SpecificationBreaks item s (.schemaRegistered item)
        ⟨.specification item .schemaVersion, .unsupportedSchema s.schemaVersion⟩
  | agreement {field : SpecificationField} {known : Specification}
      (registered : known ∈ Specification.registered)
      (same : known.schemaVersion = s.schemaVersion) (given : field.text s ≠ "")
      (differs : field.text s ≠ field.registeredText known) :
      SpecificationBreaks item s (.agreement item field)
        ⟨.specification item field,
          .mismatch field.label (field.registeredText known) s.schemaVersion⟩

/-- An item breaks a rule. -/
inductive ItemBreaks (item : Nat) (i : DiscoveryItem) : Rule → Failure → Prop
  | specification {r : Rule} {f : Failure}
      (breaks : SpecificationBreaks item i.apiSpecification r f) : ItemBreaks item i r f
  | endpointsGiven (absent : i.endpoints? = none) :
      ItemBreaks item i (.endpointsGiven item) ⟨.endpoints item, .required "Endpoints"⟩
  | endpointsNonEmpty (empty : i.endpoints? = some []) :
      ItemBreaks item i (.endpointsNonEmpty item) ⟨.endpoints item, .tooShort "Endpoints"⟩
  | endpointText {index : Nat} {e : Endpoint} {field : EndpointField}
      (there : i.endpoints[index]? = some e) (empty : field.text e = "") :
      ItemBreaks item i (.endpointText item index field)
        ⟨.endpointField item index field, .required field.label⟩

/-- A document breaks a rule by itself, and that is reported by a failure. -/
inductive Breaks (d : DiscoveryDocument) : Rule → Failure → Prop
  | documentText {field : DocumentField} (empty : field.text? d = some "") :
      Breaks d (.documentText field) ⟨.document field, .required field.label⟩
  | versionSupported (given : d.discoveryVersion ≠ "")
      (unsupported : d.discoveryVersion ∉ supportedVersions) :
      Breaks d .versionSupported
        ⟨.document .discoveryVersion, .unsupportedVersion d.discoveryVersion⟩
  | itemsGiven (absent : d.items? = none) :
      Breaks d .itemsGiven ⟨.document .discoveryItems, .required "DiscoveryItems"⟩
  | itemsNonEmpty (empty : d.items? = some []) :
      Breaks d .itemsNonEmpty ⟨.document .discoveryItems, .tooShort "DiscoveryItems"⟩
  | item {item : Nat} {i : DiscoveryItem} {r : Rule} {f : Failure}
      (there : d.items[item]? = some i) (breaks : ItemBreaks item i r f) : Breaks d r f

/-! ### The document before a checker -/

/-- A checker finds fault with an item. -/
inductive ItemFinds (checker : Conditionality) (item : Nat) (i : DiscoveryItem) :
    Rule → Failure → Prop
  | unanswered {index : Nat} {e : Endpoint} {text : String} (there : i.endpoints[index]? = some e)
      (answer : checker.isPresent e.method e.path i.apiSpecification.name = .error text) :
      ItemFinds checker item i (.endpointKnown item index) ⟨.endpoint item index, .checker text⟩
  | unknown {index : Nat} {e : Endpoint} (there : i.endpoints[index]? = some e)
      (answer : checker.isPresent e.method e.path i.apiSpecification.name = .ok false) :
      ItemFinds checker item i (.endpointKnown item index)
        ⟨.endpoint item index, .unknownEndpoint e.method e.path⟩
  | mandatoryUnanswered {text : String}
      (answer : checker.missingMandatory i.endpoints i.apiSpecification.name = .error text) :
      ItemFinds checker item i (.mandatoryAnswered item) ⟨.endpoints item, .checker text⟩
  | missing {missing : List Endpoint} {index : Nat} {e : Endpoint}
      (answer : checker.missingMandatory i.endpoints i.apiSpecification.name = .ok missing)
      (there : missing[index]? = some e) :
      ItemFinds checker item i (.mandatoryOffered item index)
        ⟨.endpoints item, .missingEndpoint e.method e.path⟩

/-- A checker finds fault with a document. -/
inductive Finds (checker : Conditionality) (d : DiscoveryDocument) : Rule → Failure → Prop
  | item {item : Nat} {i : DiscoveryItem} {r : Rule} {f : Failure}
      (there : d.items[item]? = some i) (finds : ItemFinds checker item i r f) :
      Finds checker d r f

/-- A document that breaks no rule by itself. -/
def WellFormed (d : DiscoveryDocument) : Prop := ∀ r f, ¬ Breaks d r f

/-- A rule is violated, and that is reported by a failure. A checker is only heard about documents
that are well formed. -/
inductive Violates (checker : Conditionality) (d : DiscoveryDocument) : Rule → Failure → Prop
  | breaks {r : Rule} {f : Failure} (breaks : Breaks d r f) : Violates checker d r f
  | finds {r : Rule} {f : Failure} (wellFormed : WellFormed d) (finds : Finds checker d r f) :
      Violates checker d r f

/-! ### One failure for one rule -/

/-- No two registered specifications have the same schema address. -/
theorem registered_unique {s t : Specification} (hs : s ∈ Specification.registered)
    (ht : t ∈ Specification.registered) (h : s.schemaVersion = t.schemaVersion) : s = t := by
  have hall : ∀ s ∈ Specification.registered, ∀ t ∈ Specification.registered,
      s.schemaVersion = t.schemaVersion → s = t := by simp [Specification.registered]
  exact hall s hs t ht h

theorem SpecificationBreaks.unique {item : Nat} {s : ApiSpecification} {r : Rule} {f g : Failure}
    (hf : SpecificationBreaks item s r f) (hg : SpecificationBreaks item s r g) : f = g := by
  cases hf with
  | text => cases hg; rfl
  | registered => cases hg; rfl
  | agreement registered same =>
    cases hg with
    | agreement registered' same' =>
      rw [registered_unique registered registered' (same.trans same'.symm)]

theorem ItemBreaks.unique {item : Nat} {i : DiscoveryItem} {r : Rule} {f g : Failure}
    (hf : ItemBreaks item i r f) (hg : ItemBreaks item i r g) : f = g := by
  cases hf with
  | specification hf =>
    cases hg with
    | specification hg => exact hf.unique hg
    | _ => cases hf
  | _ =>
    cases hg with
    | specification hg => cases hg
    | _ => rfl

/-- The rules of an item stand together, behind those of the items in front of it. -/
theorem ItemBreaks.position {item : Nat} {i : DiscoveryItem} {r : Rule} {f : Failure}
    (h : ItemBreaks item i r f) : ∃ rest, r.position = 4 :: item :: rest := by
  cases h with
  | specification h => cases h <;> exact ⟨_, rfl⟩
  | _ => exact ⟨_, rfl⟩

theorem Breaks.unique {d : DiscoveryDocument} {r : Rule} {f g : Failure}
    (hf : Breaks d r f) (hg : Breaks d r g) : f = g := by
  cases hf with
  | item there hf =>
    obtain ⟨rest, hr⟩ := hf.position
    cases hg with
    | item there' hg =>
      obtain ⟨rest', hr'⟩ := hg.position
      obtain ⟨rfl, -⟩ : _ = _ ∧ rest = rest' := by simpa using hr.symm.trans hr'
      obtain rfl := Option.some.inj (there.symm.trans there')
      exact hf.unique hg
    | _ => simp [Rule.position] at hr
  | _ =>
    cases hg with
    | item there hg =>
      obtain ⟨rest, hr⟩ := hg.position
      simp [Rule.position] at hr
    | _ => rfl

theorem ItemFinds.unique {checker : Conditionality} {item : Nat} {i : DiscoveryItem} {r : Rule}
    {f g : Failure} (hf : ItemFinds checker item i r f) (hg : ItemFinds checker item i r g) :
    f = g := by
  -- the same question of the same checker has one answer
  cases hf <;> cases hg <;> simp_all

theorem ItemFinds.position {checker : Conditionality} {item : Nat} {i : DiscoveryItem} {r : Rule}
    {f : Failure} (h : ItemFinds checker item i r f) : ∃ rest, r.position = 5 :: item :: rest := by
  cases h <;> exact ⟨_, rfl⟩

theorem Finds.unique {checker : Conditionality} {d : DiscoveryDocument} {r : Rule} {f g : Failure}
    (hf : Finds checker d r f) (hg : Finds checker d r g) : f = g := by
  obtain ⟨there, hf⟩ := hf
  obtain ⟨there', hg⟩ := hg
  obtain ⟨rest, hr⟩ := hf.position
  obtain ⟨rest', hr'⟩ := hg.position
  obtain ⟨rfl, -⟩ : _ = _ ∧ rest = rest' := by simpa using hr.symm.trans hr'
  obtain rfl := Option.some.inj (there.symm.trans there')
  exact hf.unique hg

theorem Violates.unique {checker : Conditionality} {d : DiscoveryDocument} {r : Rule}
    {f g : Failure} (hf : Violates checker d r f) (hg : Violates checker d r g) : f = g := by
  cases hf with
  | breaks hf =>
    cases hg with
    | breaks hg => exact hf.unique hg
    | finds wellFormed hg => exact absurd hf (wellFormed _ _)
  | finds wellFormed hf =>
    cases hg with
    | breaks hg => exact absurd hg (wellFormed _ _)
    | finds _ hg => exact hf.unique hg

end ConformanceSuite.Discovery
