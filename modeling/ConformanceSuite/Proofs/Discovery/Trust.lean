import ConformanceSuite.Proofs.Discovery.Exactness

/-!
# What a checker is trusted about

A checker is asked about a document only if the document shows no failure by itself, and then under
the names of registered specifications alone, with which the items agree in all their texts. The
result of validation depends on the answers to these questions and on no others: `validate_trusts`.
-/

namespace ConformanceSuite.Discovery

/-- A question to a checker. -/
inductive Question where
  | presence (method path specification : String)
  | mandatory (endpoints : List Endpoint) (specification : String)

/-- The name under which a question is asked. -/
def Question.specification : Question → String
  | .presence _ _ specification | .mandatory _ specification => specification

/-- Two checkers give the same answer to a question. -/
def Question.SameAnswer (c c' : Conditionality) : Question → Prop
  | .presence method path specification =>
    c.isPresent method path specification = c'.isPresent method path specification
  | .mandatory endpoints specification =>
    c.missingMandatory endpoints specification = c'.missingMandatory endpoints specification

/-- A question that is asked about an item. -/
inductive AskedOf (i : DiscoveryItem) : Question → Prop
  | presence {e : Endpoint} (offered : e ∈ i.endpoints) :
      AskedOf i (.presence e.method e.path i.apiSpecification.name)
  | mandatory : AskedOf i (.mandatory i.endpoints i.apiSpecification.name)

/-- A question that is asked about a document: of each of its items, if the document shows no
failure by itself. -/
def Asked (d : DiscoveryDocument) (q : Question) : Prop :=
  structuralFailures d = [] ∧ ∃ i ∈ d.items, AskedOf i q

/-- A named specification agrees with a registered one in all its texts. -/
def IsRegisteredAs (s : ApiSpecification) (known : Specification) : Prop :=
  ∀ field : SpecificationField, field.text s = field.registeredText known

/-- Two checkers agree on the endpoints of a document under the names of the registered
specifications. -/
structure AgreeOnRegistered (c c' : Conditionality) (d : DiscoveryDocument) : Prop where
  presence : ∀ known ∈ Specification.registered, ∀ e ∈ d.endpoints, e.method ≠ "" → e.path ≠ "" →
    c.isPresent e.method e.path known.name = c'.isPresent e.method e.path known.name
  mandatory : ∀ known ∈ Specification.registered, ∀ i ∈ d.items,
    c.missingMandatory i.endpoints known.name = c'.missingMandatory i.endpoints known.name

/-! ### Documents without structural failures -/

theorem structuralFailures_eq_nil_iff {d : DiscoveryDocument} :
    structuralFailures d = [] ↔ WellFormed d :=
  (reports_structural d).eq_nil_iff

section WellFormed

variable {d : DiscoveryDocument} {i : DiscoveryItem}

theorem WellFormed.not_itemBreaks (h : WellFormed d) (hi : i ∈ d.items) :
    ∃ item, ∀ r f, ¬ ItemBreaks item i r f := by
  obtain ⟨item, hitem⟩ := List.mem_iff_getElem?.1 hi
  exact ⟨item, fun r f hr => h r f (.item hitem hr)⟩

/-- The items of a document that is well formed name registered specifications. -/
theorem WellFormed.names (h : WellFormed d) (hi : i ∈ d.items) :
    ∃ known ∈ Specification.registered, IsRegisteredAs i.apiSpecification known := by
  obtain ⟨item, hitem⟩ := h.not_itemBreaks hi
  have hfilled : ∀ field : SpecificationField, field.text i.apiSpecification ≠ "" :=
    fun field hempty => hitem _ _ (.specification (.text hempty))
  obtain ⟨known, hknown, hsame⟩ : ∃ known ∈ Specification.registered,
      known.schemaVersion = i.apiSpecification.schemaVersion := by
    by_contra hnone
    have hunregistered : ∀ known ∈ Specification.registered,
        known.schemaVersion ≠ i.apiSpecification.schemaVersion :=
      fun known hknown hsame => hnone ⟨known, hknown, hsame⟩
    exact hitem _ _ (.specification (.registered (hfilled .schemaVersion) hunregistered))
  refine ⟨known, hknown, fun field => ?_⟩
  by_contra hdiffers
  exact hitem _ _ (.specification (.agreement hknown hsame (hfilled field) hdiffers))

/-- The endpoints of a document that is well formed have a method and a path. -/
theorem WellFormed.endpoint_filled (h : WellFormed d) (hi : i ∈ d.items) {e : Endpoint}
    (he : e ∈ i.endpoints) : e.method ≠ "" ∧ e.path ≠ "" := by
  obtain ⟨item, hitem⟩ := h.not_itemBreaks hi
  obtain ⟨index, hindex⟩ := List.mem_iff_getElem?.1 he
  have hfilled : ∀ field : EndpointField, field.text e ≠ "" :=
    fun field hempty => hitem _ _ (.endpointText hindex hempty)
  exact ⟨hfilled .method, hfilled .path⟩

end WellFormed

/-- Whatever is asked is asked under the name of a registered specification. -/
theorem Asked.names {d : DiscoveryDocument} {q : Question} (h : Asked d q) :
    ∃ i ∈ d.items, AskedOf i q ∧ ∃ known ∈ Specification.registered,
      q.specification = known.name ∧ IsRegisteredAs i.apiSpecification known := by
  obtain ⟨hformed, i, hi, hq⟩ := h
  obtain ⟨known, hknown, hnames⟩ := (structuralFailures_eq_nil_iff.1 hformed).names hi
  refine ⟨i, hi, hq, known, hknown, ?_, hnames⟩
  cases hq with
  | presence | mandatory => exact hnames .name

/-! ### Two checkers -/

theorem eachWithIndex_congr {α : Type} {failures failures' : Nat → α → List Failure} {l : List α}
    (h : ∀ n, ∀ a ∈ l, failures n a = failures' n a) :
    eachWithIndex failures l = eachWithIndex failures' l := by
  unfold eachWithIndex
  congr 1
  refine List.map_congr_left fun p hp => ?_
  exact h p.2 p.1 (List.fst_mem_of_mem_zipIdx hp)

section Checkers

variable {c c' : Conditionality} {d : DiscoveryDocument}

/-- The failures of an item before a checker are decided by what is asked about it. -/
theorem itemConditionality_congr {i : DiscoveryItem}
    (h : ∀ q, AskedOf i q → q.SameAnswer c c') (item : Nat) :
    itemConditionality c item i = itemConditionality c' item i := by
  have hpresence : eachWithIndex (presenceFailures c i.apiSpecification.name item) i.endpoints =
      eachWithIndex (presenceFailures c' i.apiSpecification.name item) i.endpoints := by
    refine eachWithIndex_congr fun index e he => ?_
    have hanswer : c.isPresent e.method e.path i.apiSpecification.name =
        c'.isPresent e.method e.path i.apiSpecification.name := h _ (.presence he)
    rw [presenceFailures, presenceFailures, hanswer]
  have hanswer : c.missingMandatory i.endpoints i.apiSpecification.name =
      c'.missingMandatory i.endpoints i.apiSpecification.name := h _ .mandatory
  rw [itemConditionality, itemConditionality, hpresence, mandatoryFailures, mandatoryFailures,
    hanswer]

/-- Validation depends on a checker only through its answers to what is asked. -/
theorem validate_congr (h : ∀ q, Asked d q → q.SameAnswer c c') : validate c d = validate c' d := by
  unfold validate
  cases hformed : structuralFailures d with
  | cons first rest => rfl
  | nil =>
    refine eachWithIndex_congr fun item i hi => ?_
    exact itemConditionality_congr (fun q hq => h q ⟨hformed, i, hi, hq⟩) item

theorem AgreeOnRegistered.sameAnswer (h : AgreeOnRegistered c c' d) {q : Question}
    (hq : Asked d q) : q.SameAnswer c c' := by
  have hformed := structuralFailures_eq_nil_iff.1 hq.1
  obtain ⟨i, hi, hof, known, hknown, hname, -⟩ := hq.names
  cases hof with
  | @presence e he =>
    have hname : i.apiSpecification.name = known.name := hname
    obtain ⟨hmethod, hpath⟩ := hformed.endpoint_filled hi he
    have hoffered : e ∈ d.endpoints := List.mem_flatMap.2 ⟨i, hi, he⟩
    rw [Question.SameAnswer, hname]
    exact h.presence known hknown e hoffered hmethod hpath
  | mandatory =>
    have hname : i.apiSpecification.name = known.name := hname
    rw [Question.SameAnswer, hname]
    exact h.mandatory known hknown i hi

end Checkers

/-- For every document: two checkers that agree on its endpoints under the names of registered
specifications come to the same result, and if it has a structural failure, any two checkers do.
Whatever is asked is asked under the name of the registered specification with which the item agrees
in all its texts, and nothing but the answers to what is asked has an effect. -/
theorem validate_trusts (d : DiscoveryDocument) :
    (∀ c c' : Conditionality, AgreeOnRegistered c c' d → validate c d = validate c' d) ∧
      (structuralFailures d ≠ [] → ∀ c c' : Conditionality, validate c d = validate c' d) ∧
      (∀ q, Asked d q → ∃ i ∈ d.items, AskedOf i q ∧ ∃ known ∈ Specification.registered,
        q.specification = known.name ∧ IsRegisteredAs i.apiSpecification known) ∧
      (∀ c c' : Conditionality, (∀ q, Asked d q → q.SameAnswer c c') →
        validate c d = validate c' d) := by
  refine ⟨fun c c' h => ?_, fun hfailures c c' => ?_, fun q hq => hq.names,
    fun c c' h => validate_congr h⟩
  · exact validate_congr fun q hq => h.sameAnswer hq
  · exact validate_congr fun q hq => absurd hq.1 hfailures

/-- A checker that knows one endpoint, under whatever name it is asked. -/
def credulous : Conditionality where
  isPresent method path _ := .ok (method = "GET" ∧ path = "/accounts")
  missingMandatory _ _ := .ok []

/-- A checker that knows the same endpoint, under the names of registered specifications alone. -/
def wary : Conditionality where
  isPresent method path name :=
    if name ∈ Specification.registered.map (·.name) then
      .ok (method = "GET" ∧ path = "/accounts")
    else .error "specification not found"
  missingMandatory _ name :=
    if name ∈ Specification.registered.map (·.name) then .ok []
    else .error "specification not found"

/-- A document that offers two endpoints of a registered specification. -/
def shortDocument : DiscoveryDocument :=
  let known := Specification.registered[0]
  ⟨"n", "d", "v0.1.0", none,
    some [⟨⟨known.name, known.url, known.version, known.schemaVersion⟩, "o", "r",
      some [.ofMethodPath "GET" "/accounts", .ofMethodPath "GET" "/balances"]⟩], none⟩

/-- Two checkers that differ under other names come to the same result, which is not empty. -/
theorem validate_trusts_short :
    AgreeOnRegistered credulous wary shortDocument ∧
      credulous.isPresent "GET" "/accounts" "" ≠ wary.isPresent "GET" "/accounts" "" ∧
      validate credulous shortDocument = validate wary shortDocument ∧
      (validate wary shortDocument).map (fun f => f.report.key) =
        ["DiscoveryModel.DiscoveryItems[0].Endpoints[1]"] := by
  have hagree : AgreeOnRegistered credulous wary shortDocument := by
    constructor
    · intro known hknown e _ _ _
      have hname : known.name ∈ Specification.registered.map (·.name) := List.mem_map_of_mem hknown
      simp only [credulous, wary, if_pos hname]
    · intro known hknown i _
      have hname : known.name ∈ Specification.registered.map (·.name) := List.mem_map_of_mem hknown
      simp only [credulous, wary, if_pos hname]
  have hdiffer : credulous.isPresent "GET" "/accounts" "" ≠
      wary.isPresent "GET" "/accounts" "" := by
    have hunknown : "" ∉ Specification.registered.map (·.name) := by decide
    simp only [credulous, wary, if_neg hunknown]
    exact fun h => by cases h
  exact ⟨hagree, hdiffer, (validate_trusts shortDocument).1 credulous wary hagree,
    by decide +kernel⟩

end ConformanceSuite.Discovery
