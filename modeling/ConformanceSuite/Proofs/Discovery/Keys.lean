import ConformanceSuite.Proofs.Discovery.Exactness
import ConformanceSuite.Proofs.Text.Split

/-!
# Keys of failures

The key of a failure says where in a document it stands: places are written apart, whatever their
indices, `Place.key_injective`. At one place a document breaks one rule at most, and a checker finds
fault once at most with an endpoint, so that the keys of a report identify what they are about:
`keys_identify`.
-/

namespace ConformanceSuite.Discovery

/-! ### Written places -/

/-- An index in brackets, and what follows it. -/
def bracketed (n : Nat) (rest : List Char) : List Char := '[' :: (Nat.toDigits 10 n ++ ']' :: rest)

/-- An index ends at its bracket, however many digits it has. -/
theorem bracketed_inj {n m : Nat} {rest rest' : List Char}
    (h : bracketed n rest = bracketed m rest') : n = m ∧ rest = rest' := by
  have hdigits : ∀ n, ']' ∉ Nat.toDigits 10 n := by
    intro n hmem
    have hdigit := Nat.isDigit_of_mem_toDigits (by decide) (by decide) hmem
    exact absurd hdigit (by decide)
  have hcut := congrArg (Text.cut ']') (List.cons.inj h).2
  rw [Text.cut_append (hdigits n), Text.cut_append (hdigits m), Prod.mk.injEq,
    Option.some.injEq] at hcut
  obtain ⟨hn, hrest⟩ := hcut
  refine ⟨?_, hrest⟩
  have hvalue := congrArg (Nat.ofDigitChars 10 · 0) hn
  simpa only [Nat.ofDigitChars_ten_toDigits] using hvalue

/-- The item in which a place stands; what belongs to the document itself stands in none. -/
def Place.item? : Place → Option Nat
  | .document _ => none
  | .specification item _ | .endpoints item | .endpoint item _ | .endpointField item _ _ =>
    some item

/-- The end of the path of a place: what follows its item, or else what follows the document. -/
def Place.suffix : Place → List Char
  | .document field => field.label.toList
  | .specification _ field => ".APISpecification.".toList ++ field.label.toList
  | .endpoints _ => ".Endpoints".toList
  | .endpoint _ index => ".Endpoints".toList ++ bracketed index []
  | .endpointField _ index field =>
    ".Endpoints".toList ++ bracketed index ('.' :: field.label.toList)

theorem toList_itemText_append (item : Nat) (rest : String) :
    (itemText item ++ rest).toList =
      "DiscoveryModel.".toList ++ ("DiscoveryItems".toList ++ bracketed item rest.toList) := by
  have h : itemText item = "DiscoveryModel." ++ "DiscoveryItems" ++ "[" ++ item.repr ++ "]" := by
    rfl
  have hopen : "[".toList = ['['] := rfl
  have hclose : "]".toList = [']'] := rfl
  rw [h, bracketed]
  simp only [String.toList_append, Nat.toList_repr, List.append_assoc, hopen, hclose,
    List.cons_append, List.nil_append]

theorem Place.toList_key (p : Place) :
    p.key.toList = "DiscoveryModel.".toList ++ p.item?.elim p.suffix fun item =>
      "DiscoveryItems".toList ++ bracketed item p.suffix := by
  have hopen : ".Endpoints[".toList = ".Endpoints".toList ++ ['['] := rfl
  have hclose : "]".toList = [']'] := rfl
  have hinside : "].".toList = [']', '.'] := rfl
  cases p with
  | document field =>
    have h : (Place.document field).key = "DiscoveryModel." ++ field.label := rfl
    rw [h, String.toList_append]
    rfl
  | specification item field =>
    have h : (Place.specification item field).key =
        itemText item ++ (".APISpecification." ++ field.label) := String.append_assoc ..
    rw [h, toList_itemText_append, String.toList_append]
    rfl
  | endpoints item => exact toList_itemText_append item ".Endpoints"
  | endpoint item index =>
    have h : (Place.endpoint item index).key =
        itemText item ++ (".Endpoints[" ++ (index.repr ++ "]")) := by
      rw [← String.append_assoc, ← String.append_assoc]
      rfl
    rw [h, toList_itemText_append]
    simp only [String.toList_append, Nat.toList_repr, hopen, hclose, List.append_assoc]
    rfl
  | endpointField item index field =>
    have h : (Place.endpointField item index field).key =
        itemText item ++ (".Endpoints[" ++ (index.repr ++ ("]." ++ field.label))) := by
      rw [← String.append_assoc, ← String.append_assoc, ← String.append_assoc]
      rfl
    rw [h, toList_itemText_append]
    simp only [String.toList_append, Nat.toList_repr, hopen, hinside, List.append_assoc]
    rfl

/-! ### Places by their keys -/

theorem DocumentField.label_inj {a b : DocumentField} : a.label = b.label → a = b := by
  cases a <;> cases b <;> decide

theorem SpecificationField.label_inj {a b : SpecificationField} : a.label = b.label → a = b := by
  cases a <;> cases b <;> decide

theorem EndpointField.label_inj {a b : EndpointField} : a.label = b.label → a = b := by
  cases a <;> cases b <;> decide

/-- What belongs to the document itself is not mistaken for an item. -/
theorem Place.suffix_ne {p : Place} (h : p.item? = none) (item : Nat) (rest : List Char) :
    p.suffix ≠ "DiscoveryItems".toList ++ bracketed item rest := by
  cases p with
  | document field =>
    have hlabel : '[' ∉ field.label.toList := by cases field <;> decide
    intro hsuffix
    have hbracket : '[' ∈ (document field).suffix := by
      rw [hsuffix]
      exact List.mem_append_right _ List.mem_cons_self
    exact hlabel hbracket
  | specification | endpoints | endpoint | endpointField => cases h

/-- Inside an item, a place is known by the end of its path. -/
theorem Place.eq_of_suffix {p q : Place} (hitem : p.item? = q.item?) (h : p.suffix = q.suffix) :
    p = q := by
  -- the specification and the endpoints differ behind their point
  have hsecond : p.suffix[1]? = q.suffix[1]? := by rw [h]
  have hapart : some 'A' ≠ some 'E' := by decide
  have hempty : ∀ {n : Nat} {rest : List Char}, ".Endpoints".toList ≠
      ".Endpoints".toList ++ bracketed n rest := by
    intro n rest h
    simp [bracketed] at h
  cases p with
  | document field =>
    cases q with
    | document field' => rw [DocumentField.label_inj (String.toList_inj.1 h)]
    | specification | endpoints | endpoint | endpointField => cases hitem
  | specification item field =>
    cases q with
    | document => cases hitem
    | specification item' field' =>
      obtain rfl := Option.some.inj hitem
      rw [SpecificationField.label_inj (String.toList_inj.1 (List.append_cancel_left h))]
    | endpoints | endpoint | endpointField => exact absurd hsecond hapart
  | endpoints item =>
    cases q with
    | document => cases hitem
    | specification => exact absurd hsecond.symm hapart
    | endpoints => rw [Option.some.inj hitem]
    | endpoint | endpointField => exact absurd h hempty
  | endpoint item index =>
    cases q with
    | document => cases hitem
    | specification => exact absurd hsecond.symm hapart
    | endpoints => exact absurd h.symm hempty
    | endpoint item' index' =>
      obtain ⟨rfl, -⟩ := bracketed_inj (List.append_cancel_left h)
      rw [Option.some.inj hitem]
    | endpointField => cases (bracketed_inj (List.append_cancel_left h)).2
  | endpointField item index field =>
    cases q with
    | document => cases hitem
    | specification => exact absurd hsecond.symm hapart
    | endpoints => exact absurd h.symm hempty
    | endpoint => cases (bracketed_inj (List.append_cancel_left h)).2
    | endpointField item' index' field' =>
      obtain ⟨rfl, hlabel⟩ := bracketed_inj (List.append_cancel_left h)
      have hfield := EndpointField.label_inj (String.toList_inj.1 (List.cons.inj hlabel).2)
      rw [Option.some.inj hitem, hfield]

/-- Distinct places have distinct keys. -/
theorem Place.key_injective : Function.Injective Place.key := by
  intro p q h
  have hsuffix := congrArg String.toList h
  rw [toList_key, toList_key, List.append_cancel_left_eq] at hsuffix
  cases hp : p.item? with
  | none =>
    cases hq : q.item? with
    | none =>
      rw [hp, hq] at hsuffix
      exact eq_of_suffix (hp.trans hq.symm) hsuffix
    | some item =>
      rw [hp, hq] at hsuffix
      exact absurd hsuffix (suffix_ne hp item _)
  | some item =>
    cases hq : q.item? with
    | none =>
      rw [hp, hq] at hsuffix
      exact absurd hsuffix.symm (suffix_ne hq item _)
    | some item' =>
      rw [hp, hq] at hsuffix
      obtain ⟨rfl, hsame⟩ := bracketed_inj (List.append_cancel_left hsuffix)
      exact eq_of_suffix (hp.trans hq.symm) hsame

/-! ### One rule at one place -/

theorem SpecificationBreaks.place {item : Nat} {s : ApiSpecification} {r : Rule} {f : Failure}
    (h : SpecificationBreaks item s r f) : ∃ field, f.place = .specification item field := by
  cases h with
  | text => exact ⟨_, rfl⟩
  | registered => exact ⟨.schemaVersion, rfl⟩
  | agreement => exact ⟨_, rfl⟩

theorem ItemBreaks.item?_place {item : Nat} {i : DiscoveryItem} {r : Rule} {f : Failure}
    (h : ItemBreaks item i r f) : f.place.item? = some item := by
  cases h with
  | specification h =>
    obtain ⟨field, hplace⟩ := h.place
    rw [hplace]
    rfl
  | endpointsGiven | endpointsNonEmpty | endpointText => rfl

/-- A text that is empty is not compared, and an address that is not registered is compared with
nothing: a field of a specification breaks one rule at most. -/
theorem SpecificationBreaks.rule_unique {item : Nat} {s : ApiSpecification} {r r' : Rule}
    {f g : Failure} (hf : SpecificationBreaks item s r f) (hg : SpecificationBreaks item s r' g)
    (h : f.place = g.place) : r = r' := by
  cases hf with
  | @text field empty =>
    cases hg with
    | text => cases h; rfl
    | registered given => cases h; exact absurd empty given
    | agreement _ _ given => cases h; exact absurd empty given
  | registered given unregistered =>
    cases hg with
    | text empty => cases h; exact absurd empty given
    | registered => rfl
    | agreement registered same => exact absurd same (unregistered _ registered)
  | agreement registered same given =>
    cases hg with
    | text empty => cases h; exact absurd empty given
    | registered _ unregistered => exact absurd same (unregistered _ registered)
    | agreement => cases h; rfl

theorem ItemBreaks.rule_unique {item : Nat} {i : DiscoveryItem} {r r' : Rule} {f g : Failure}
    (hf : ItemBreaks item i r f) (hg : ItemBreaks item i r' g) (h : f.place = g.place) :
    r = r' := by
  cases hf with
  | specification hf =>
    obtain ⟨field, hplace⟩ := hf.place
    cases hg with
    | specification hg => exact hf.rule_unique hg h
    | endpointsGiven | endpointsNonEmpty | endpointText => cases hplace.symm.trans h
  | endpointsGiven absent =>
    cases hg with
    | specification hg =>
      obtain ⟨field, hplace⟩ := hg.place
      cases h.trans hplace
    | endpointsGiven => rfl
    | endpointsNonEmpty empty => cases absent.symm.trans empty
    | endpointText => cases h
  | endpointsNonEmpty empty =>
    cases hg with
    | specification hg =>
      obtain ⟨field, hplace⟩ := hg.place
      cases h.trans hplace
    | endpointsGiven absent => cases absent.symm.trans empty
    | endpointsNonEmpty => rfl
    | endpointText => cases h
  | endpointText =>
    cases hg with
    | specification hg =>
      obtain ⟨field, hplace⟩ := hg.place
      cases h.trans hplace
    | endpointsGiven | endpointsNonEmpty => cases h
    | endpointText => cases h; rfl

/-- The rules that a document breaks by itself stand at places of their own. -/
theorem Breaks.rule_unique {d : DiscoveryDocument} {r r' : Rule} {f g : Failure}
    (hf : Breaks d r f) (hg : Breaks d r' g) (h : f.place = g.place) : r = r' := by
  have hitem := congrArg Place.item? h
  cases hf with
  | item there hf =>
    rw [hf.item?_place] at hitem
    cases hg with
    | item there' hg =>
      rw [hg.item?_place] at hitem
      obtain rfl := Option.some.inj hitem
      obtain rfl := Option.some.inj (there.symm.trans there')
      exact hf.rule_unique hg h
    | documentText | versionSupported | itemsGiven | itemsNonEmpty => cases hitem
  | documentText empty =>
    cases hg with
    | item _ hg => rw [hg.item?_place] at hitem; cases hitem
    | documentText => cases h; rfl
    | versionSupported given => cases h; exact absurd (Option.some.inj empty) given
    | itemsGiven | itemsNonEmpty => cases h; cases empty
  | versionSupported given =>
    cases hg with
    | item _ hg => rw [hg.item?_place] at hitem; cases hitem
    | documentText empty => cases h; exact absurd (Option.some.inj empty) given
    | versionSupported => rfl
    | itemsGiven | itemsNonEmpty => cases h
  | itemsGiven absent =>
    cases hg with
    | item _ hg => rw [hg.item?_place] at hitem; cases hitem
    | documentText empty => cases h; cases empty
    | versionSupported => cases h
    | itemsGiven => rfl
    | itemsNonEmpty empty => cases absent.symm.trans empty
  | itemsNonEmpty empty =>
    cases hg with
    | item _ hg => rw [hg.item?_place] at hitem; cases hitem
    | documentText none => cases h; cases none
    | versionSupported => cases h
    | itemsGiven absent => cases absent.symm.trans empty
    | itemsNonEmpty => rfl

/-- A checker finds fault with an endpoint only as far as it does not know it. -/
theorem Finds.rule_of_endpoint {checker : Conditionality} {d : DiscoveryDocument} {r : Rule}
    {f : Failure} (h : Finds checker d r f) {item index : Nat}
    (hplace : f.place = .endpoint item index) : r = .endpointKnown item index := by
  obtain ⟨-, h⟩ := h
  cases h with
  | unanswered => cases hplace; rfl
  | unknown => cases hplace; rfl
  | mandatoryUnanswered => cases hplace
  | missing => cases hplace

/-! ### Keys in reports -/

/-- A failure that is about one endpoint of an item. -/
def Failure.AtEndpoint (f : Failure) : Prop := ∃ item index, f.place = .endpoint item index

/-- A failure that is about the endpoints of an item as a whole. -/
def Failure.AtCollection (f : Failure) : Prop := ∃ item, f.place = .endpoints item

theorem Finds.atEndpoint_or {checker : Conditionality} {d : DiscoveryDocument} {r : Rule}
    {f : Failure} (h : Finds checker d r f) : f.AtEndpoint ∨ f.AtCollection := by
  obtain ⟨-, h⟩ := h
  cases h with
  | unanswered | unknown => exact .inl ⟨_, _, rfl⟩
  | mandatoryUnanswered | missing => exact .inr ⟨_, rfl⟩

theorem Rule.ne_of_before {r r' : Rule} (h : r.Before r') : r ≠ r' := by
  rintro rfl
  exact List.lt_irrefl r.position h

section Reports

variable {P : Rule → Failure → Prop} {failures : List Failure}

theorem exists_rule_of_forall₂ {rules : List Rule} (h : List.Forall₂ P rules failures)
    {f : Failure} (hf : f ∈ failures) : ∃ r ∈ rules, P r f := by
  induction h with
  | nil => cases hf
  | cons hr _ ih =>
    rcases List.mem_cons.1 hf with rfl | hf
    · exact ⟨_, List.mem_cons_self, hr⟩
    · obtain ⟨r, hmem, hr⟩ := ih hf
      exact ⟨r, List.mem_cons_of_mem _ hmem, hr⟩

theorem Reports.exists_rule (h : Reports P failures) {f : Failure} (hf : f ∈ failures) :
    ∃ r, P r f := by
  obtain ⟨rules, -, -, hrel⟩ := h
  obtain ⟨r, -, hr⟩ := exists_rule_of_forall₂ hrel hf
  exact ⟨r, hr⟩

/-- Of two failures in a report the rule of the first stands in front of that of the second. -/
theorem Reports.pairwise {R : Failure → Failure → Prop} (h : Reports P failures)
    (hR : ∀ r f r' g, r.Before r' → P r f → P r' g → R f g) : failures.Pairwise R := by
  obtain ⟨rules, horder, -, hrel⟩ := h
  induction hrel with
  | nil => exact .nil
  | @cons r f rules failures hr hrest ih =>
    obtain ⟨hfirst, horder⟩ := List.pairwise_cons.1 horder
    refine List.pairwise_cons.2 ⟨fun g hg => ?_, ih horder⟩
    obtain ⟨r', hmem, hr'⟩ := exists_rule_of_forall₂ hrest hg
    exact hR r f r' g (hfirst r' hmem) hr hr'

end Reports

/-- For every document and every checker: places are known by their keys, no two structural failures
have the same key, and a failure of the checker that is about one endpoint shares its key with no
other failure of the checker and with no list of endpoints. -/
theorem keys_identify (checker : Conditionality) (d : DiscoveryDocument) :
    Function.Injective Place.key ∧
      ((structuralFailures d).map fun f => f.report.key).Nodup ∧
      ((conditionalityFailures checker d).Pairwise fun f g =>
        f.AtEndpoint ∨ g.AtEndpoint → f.report.key ≠ g.report.key) ∧
      (∀ f ∈ conditionalityFailures checker d, f.AtEndpoint ∨ f.AtCollection) ∧
      (∀ f ∈ conditionalityFailures checker d, f.AtEndpoint →
        ∀ item, f.report.key ≠ (Place.endpoints item).key) ∧
      (validate checker d = structuralFailures d ∨
        structuralFailures d = [] ∧ validate checker d = conditionalityFailures checker d) := by
  have hconditional := reports_conditionality checker d
  refine ⟨Place.key_injective, ?_, ?_, fun f hf => ?_, fun f _ hat item hkey => ?_, ?_⟩
  · refine List.pairwise_map.2 ((reports_structural d).pairwise ?_)
    intro r f r' g hbefore hr hr' hkey
    exact Rule.ne_of_before hbefore (hr.rule_unique hr' (Place.key_injective hkey))
  · refine hconditional.pairwise ?_
    intro r f r' g hbefore hr hr' hat hkey
    -- then both are about the same endpoint, which has one rule
    have hplace : f.place = g.place := Place.key_injective hkey
    obtain ⟨item, index, hf, hg⟩ : ∃ item index, f.place = .endpoint item index ∧
        g.place = .endpoint item index := by
      rcases hat with ⟨item, index, hf⟩ | ⟨item, index, hg⟩
      · exact ⟨item, index, hf, hplace ▸ hf⟩
      · exact ⟨item, index, hplace ▸ hg, hg⟩
    exact Rule.ne_of_before hbefore ((hr.rule_of_endpoint hf).trans (hr'.rule_of_endpoint hg).symm)
  · obtain ⟨r, hr⟩ := hconditional.exists_rule hf
    exact hr.atEndpoint_or
  · obtain ⟨_, _, hplace⟩ := hat
    cases hplace.symm.trans (Place.key_injective hkey)
  · unfold validate
    cases structuralFailures d with
    | nil => exact .inr ⟨rfl, rfl⟩
    | cons first rest => exact .inl rfl

end ConformanceSuite.Discovery
