import Mathlib.Data.List.Nodup
import ConformanceSuite.Discovery.FieldRules

/-!
# The fields of a discovery document

Behind the fields that every client needs, a document asks for what the table lists for its
endpoints: each field once, at its first mention, `fieldsFor_exact`. Endpoints that repeat a key or
have none in the table make no difference, nor does it matter how endpoints are put into items; more
of them only add fields at the end, and another order gives another order, `fieldsFor_regrouped`.
-/

namespace ConformanceSuite.Discovery

/-! ### First mentions -/

section FirstMentions

variable {seen seen' : List String} {l m : List ConfigField} {name : String}

theorem firstMentions_cons_of_mem {f : ConfigField} (h : f.name ∈ seen) :
    firstMentions seen (f :: l) = firstMentions seen l := by
  rw [firstMentions, if_pos (by simpa using h)]

theorem firstMentions_cons_of_not_mem {f : ConfigField} (h : f.name ∉ seen) :
    firstMentions seen (f :: l) = f :: firstMentions (f.name :: seen) l := by
  rw [firstMentions, if_neg (by simpa using h)]

theorem firstMentions_congr (h : ∀ name, name ∈ seen ↔ name ∈ seen') :
    firstMentions seen l = firstMentions seen' l := by
  induction l generalizing seen seen' with
  | nil => rfl
  | cons f rest ih =>
    by_cases hf : f.name ∈ seen
    · rw [firstMentions_cons_of_mem hf, firstMentions_cons_of_mem ((h _).1 hf), ih h]
    · rw [firstMentions_cons_of_not_mem hf, firstMentions_cons_of_not_mem (mt (h _).2 hf)]
      exact congrArg (f :: ·) (ih fun name => by simp [h name])

/-- The names of a first part count as mentioned in the second. -/
theorem firstMentions_append :
    firstMentions seen (l ++ m) =
      firstMentions seen l ++ firstMentions (l.map ConfigField.name ++ seen) m := by
  induction l generalizing seen with
  | nil => rfl
  | cons f rest ih =>
    have hnames : ∀ name, name ∈ rest.map ConfigField.name ++ f.name :: seen ↔
        name ∈ (f :: rest).map ConfigField.name ++ seen := fun name => by
      simp only [List.map_cons, List.cons_append, List.mem_append, List.mem_cons]
      exact or_left_comm
    by_cases hf : f.name ∈ seen
    · rw [List.cons_append, firstMentions_cons_of_mem hf, firstMentions_cons_of_mem hf, ih]
      refine congrArg (firstMentions seen rest ++ ·) (firstMentions_congr fun name => ?_)
      rw [← hnames]
      simp only [List.mem_append, List.mem_cons]
      exact or_congr_right ⟨.inr, fun h => h.elim (· ▸ hf) id⟩
    · rw [List.cons_append, firstMentions_cons_of_not_mem hf, firstMentions_cons_of_not_mem hf, ih,
        firstMentions_congr hnames, List.cons_append]

theorem firstMentions_eq_nil (h : ∀ f ∈ l, f.name ∈ seen) : firstMentions seen l = [] := by
  induction l with
  | nil => rfl
  | cons f rest ih =>
    obtain ⟨hf, hrest⟩ := List.forall_mem_cons.1 h
    rw [firstMentions_cons_of_mem hf, ih hrest]

/-- Fields of different names that are all new are kept. -/
theorem firstMentions_eq_self (hnames : (l.map ConfigField.name).Nodup)
    (hnew : ∀ f ∈ l, f.name ∉ seen) : firstMentions seen l = l := by
  induction l generalizing seen with
  | nil => rfl
  | cons f rest ih =>
    obtain ⟨hf, hrest⟩ := List.forall_mem_cons.1 hnew
    obtain ⟨hfirst, hnames⟩ := List.nodup_cons.1 hnames
    rw [firstMentions_cons_of_not_mem hf, ih hnames fun g hg hmem => ?_]
    rcases List.mem_cons.1 hmem with heq | hmem
    · exact hfirst (heq ▸ List.mem_map_of_mem hg)
    · exact hrest g hg hmem

theorem mem_of_mem_firstMentions {f : ConfigField} (h : f ∈ firstMentions seen l) : f ∈ l := by
  induction l generalizing seen with
  | nil => cases h
  | cons g rest ih =>
    by_cases hg : g.name ∈ seen
    · rw [firstMentions_cons_of_mem hg] at h
      exact List.mem_cons_of_mem g (ih h)
    · rw [firstMentions_cons_of_not_mem hg] at h
      exact (List.mem_cons.1 h).elim (fun heq => heq ▸ List.mem_cons_self)
        fun h => List.mem_cons_of_mem g (ih h)

/-- The names that are kept are those that are new. -/
theorem mem_names_firstMentions_iff :
    name ∈ (firstMentions seen l).map ConfigField.name ↔
      name ∉ seen ∧ name ∈ l.map ConfigField.name := by
  induction l generalizing seen with
  | nil => simp [firstMentions]
  | cons f rest ih =>
    by_cases hf : f.name ∈ seen
    · rw [firstMentions_cons_of_mem hf, ih, List.map_cons, List.mem_cons]
      exact and_congr_right fun hname => ⟨.inr, fun h => h.resolve_left fun heq => hname (heq ▸ hf)⟩
    · rw [firstMentions_cons_of_not_mem hf, List.map_cons, List.mem_cons, ih, List.map_cons,
        List.mem_cons, List.mem_cons, not_or]
      by_cases heq : name = f.name
      · simp [heq, hf]
      · simp [heq]

/-- In front of the names that are kept stands one that is none of them. -/
theorem idxOf_of_mem_firstMentions {f : ConfigField} (hf : f.name ∈ seen)
    (h : name ∈ (firstMentions seen l).map ConfigField.name) :
    ((f :: l).map ConfigField.name).idxOf name = (l.map ConfigField.name).idxOf name + 1 := by
  have hne : f.name ≠ name := fun heq => (mem_names_firstMentions_iff.1 h).1 (heq ▸ hf)
  rw [List.map_cons, List.idxOf_cons_ne _ hne]

/-- Names are kept in the order in which they occur first. -/
theorem pairwise_firstMentions :
    ((firstMentions seen l).map ConfigField.name).Pairwise fun a b =>
      (l.map ConfigField.name).idxOf a < (l.map ConfigField.name).idxOf b := by
  induction l generalizing seen with
  | nil => exact .nil
  | cons f rest ih =>
    by_cases hf : f.name ∈ seen
    · rw [firstMentions_cons_of_mem hf]
      refine (@ih seen).imp_of_mem fun ha hb hlt => ?_
      rw [idxOf_of_mem_firstMentions hf ha, idxOf_of_mem_firstMentions hf hb]
      exact Nat.succ_lt_succ hlt
    · -- the name of the field counts as seen in the rest
      have hself : f.name ∈ f.name :: seen := List.mem_cons_self
      rw [firstMentions_cons_of_not_mem hf, List.map_cons (l := firstMentions _ _),
        List.pairwise_cons]
      refine ⟨fun a ha => ?_, (@ih (f.name :: seen)).imp_of_mem fun ha hb hlt => ?_⟩
      · rw [idxOf_of_mem_firstMentions hself ha, List.map_cons, List.idxOf_cons_self]
        exact Nat.succ_pos _
      · rw [idxOf_of_mem_firstMentions hself ha, idxOf_of_mem_firstMentions hself hb]
        exact Nat.succ_lt_succ hlt

theorem nodup_names_firstMentions : ((firstMentions seen l).map ConfigField.name).Nodup := by
  refine List.Pairwise.imp ?_ pairwise_firstMentions
  intro a b hlt heq
  exact Nat.ne_of_lt hlt (by rw [heq])

end FirstMentions

/-! ### The table -/

/-- The fields that the entries of the table list for a key. -/
def listedFor (key : String) : List String :=
  (requirementTable.filter fun entry => entry.1 == key).flatMap Prod.snd

/-- The fields that are listed for the endpoints of a document, item by item. -/
def mentions (d : DiscoveryDocument) : List String :=
  d.items.flatMap fun item => item.endpoints.flatMap fun e => listedFor e.key

/-- The fields that every client needs. -/
def baseline : List ConfigField := clientFields ++ wellKnownFields

theorem nodup_baseline : (baseline.map ConfigField.name).Nodup := by decide +kernel

/-- No field of the table is one that every client needs. -/
theorem not_mem_baseline : ∀ entry ∈ requirementTable, ∀ name ∈ entry.2,
    name ∉ baseline.map ConfigField.name := by decide +kernel

theorem nodup_table : (requirementTable.map Prod.fst).Nodup := by decide +kernel

theorem mem_listedFor_iff {key name : String} :
    name ∈ listedFor key ↔ ∃ names, (key, names) ∈ requirementTable ∧ name ∈ names := by
  simp only [listedFor, List.mem_flatMap, List.mem_filter, beq_iff_eq]
  constructor
  · rintro ⟨⟨_, names⟩, ⟨hentry, rfl⟩, hname⟩
    exact ⟨names, hentry, hname⟩
  · rintro ⟨names, hentry, hname⟩
    exact ⟨_, ⟨hentry, rfl⟩, hname⟩

theorem listedFor_of_not_mem {key : String} (h : key ∉ requirementTable.map Prod.fst) :
    listedFor key = [] :=
  List.eq_nil_iff_forall_not_mem.2 fun _ hname =>
    have ⟨_, hentry, _⟩ := mem_listedFor_iff.1 hname
    h (List.mem_map_of_mem hentry)

/-- In a table of different keys, looking one up finds all that is listed for it. -/
theorem lookup_getD {key : String} {table : List (String × List String)}
    (h : (table.map Prod.fst).Nodup) :
    (table.lookup key).getD [] = (table.filter fun entry => entry.1 == key).flatMap Prod.snd := by
  induction table with
  | nil => rfl
  | cons entry rest ih =>
    obtain ⟨first, names⟩ := entry
    obtain ⟨hfirst, hrest⟩ := List.nodup_cons.1 h
    by_cases heq : first = key
    · have hnone : rest.filter (fun entry => entry.1 == key) = [] := by
        refine List.filter_eq_nil_iff.2 fun other hother hkey => hfirst (List.mem_map.2 ?_)
        exact ⟨other, hother, (beq_iff_eq.1 hkey).trans heq.symm⟩
      simp [heq, hnone]
    · have hne : (key == first) = false := by simpa using Ne.symm heq
      simp [List.lookup_cons, heq, hne, ih hrest]

theorem endpointFields_eq (e : Endpoint) :
    endpointFields e = (listedFor e.key).map ConfigField.required := by
  rw [endpointFields, requirementsOf, lookup_getD nodup_table, listedFor]

theorem mentions_eq (d : DiscoveryDocument) :
    mentions d = (d.endpoints.map Endpoint.key).flatMap listedFor := by
  rw [List.flatMap_map, DiscoveryDocument.endpoints, List.flatMap_assoc]
  rfl

theorem map_name_required (names : List String) :
    (names.map ConfigField.required).map ConfigField.name = names := by
  simp [Function.comp_def, ConfigField.required]

/-! ### The fields of a document -/

/-- The fields that a document adds to those that every client needs. -/
def added (d : DiscoveryDocument) : List String :=
  (firstMentions (baseline.map ConfigField.name)
    ((mentions d).map ConfigField.required)).map ConfigField.name

/-- The first mentions of required fields are required. -/
theorem map_required_firstMentions (seen names : List String) :
    ((firstMentions seen (names.map ConfigField.required)).map ConfigField.name).map
      ConfigField.required = firstMentions seen (names.map ConfigField.required) := by
  rw [List.map_map]
  conv_rhs => rw [← List.map_id (firstMentions seen _)]
  refine List.map_congr_left fun f hf => ?_
  obtain ⟨name, -, rfl⟩ := List.mem_map.1 (mem_of_mem_firstMentions hf)
  rfl

/-- The fields that every client needs come first, and all behind them are required. -/
theorem fieldsFor_eq (d : DiscoveryDocument) :
    fieldsFor d = baseline ++ (added d).map ConfigField.required := by
  have hcandidates : d.endpoints.flatMap endpointFields =
      (mentions d).map ConfigField.required := by
    rw [mentions_eq, List.flatMap_map, List.map_flatMap]
    exact List.flatMap_congr fun e _ => endpointFields_eq e
  have hbaseline : firstMentions [] baseline = baseline :=
    firstMentions_eq_self nodup_baseline fun _ _ => List.not_mem_nil
  rw [fieldsFor, hcandidates, ← baseline, firstMentions_append, hbaseline, List.append_nil, added,
    map_required_firstMentions]

section Documents

variable {d : DiscoveryDocument}

theorem mem_mentions_iff {name : String} : name ∈ mentions d ↔
    ∃ item ∈ d.items, ∃ e ∈ item.endpoints, ∃ names, (e.key, names) ∈ requirementTable ∧
      name ∈ names := by
  simp only [mentions, List.mem_flatMap, mem_listedFor_iff]

/-- No field that a document mentions is one that every client needs. -/
theorem not_mem_baseline_of_mem_mentions {name : String} (h : name ∈ mentions d) :
    name ∉ baseline.map ConfigField.name := by
  obtain ⟨_, _, _, _, _, hentry, hname⟩ := mem_mentions_iff.1 h
  exact not_mem_baseline _ hentry name hname

theorem mem_added_iff {name : String} : name ∈ added d ↔ name ∈ mentions d := by
  rw [added, mem_names_firstMentions_iff, map_name_required]
  exact and_iff_right_of_imp not_mem_baseline_of_mem_mentions

theorem nodup_added : (added d).Nodup := nodup_names_firstMentions

end Documents

/-- The endpoints whose keys are in the table and are not among those in front. -/
def firstKnown (front : List String) : List Endpoint → List Endpoint
  | [] => []
  | e :: rest =>
    if e.key ∈ requirementTable.map Prod.fst ∧ e.key ∉ front then
      e :: firstKnown (front ++ [e.key]) rest
    else firstKnown (front ++ [e.key]) rest

/-- What has been mentioned already adds nothing. -/
theorem firstMentions_append_of_subset {seen names names' : List String}
    (h : ∀ name ∈ names, name ∈ seen) :
    firstMentions seen ((names ++ names').map ConfigField.required) =
      firstMentions seen (names'.map ConfigField.required) := by
  have hnil : firstMentions seen (names.map ConfigField.required) = [] := by
    refine firstMentions_eq_nil fun f hf => ?_
    obtain ⟨name, hname, rfl⟩ := List.mem_map.1 hf
    exact h name hname
  rw [List.map_append, firstMentions_append, hnil, List.nil_append, map_name_required]
  refine firstMentions_congr fun name => ?_
  rw [List.mem_append]
  exact or_iff_right_of_imp (h name)

/-- Leaving out endpoints without a key in the table, and those that repeat one, loses no field as
long as what is listed for the keys in front has been mentioned. -/
theorem firstMentions_firstKnown {front seen : List String} {es : List Endpoint}
    (h : ∀ key ∈ front, ∀ name ∈ listedFor key, name ∈ seen) :
    firstMentions seen
        ((((firstKnown front es).map Endpoint.key).flatMap listedFor).map ConfigField.required) =
      firstMentions seen (((es.map Endpoint.key).flatMap listedFor).map ConfigField.required) := by
  induction es generalizing front seen with
  | nil => rfl
  | cons e rest ih =>
    rw [firstKnown, List.map_cons (l := rest), List.flatMap_cons]
    split
    · -- what is listed for the key counts as mentioned in the rest
      have hrest : ∀ key ∈ front ++ [e.key], ∀ name ∈ listedFor key,
          name ∈ listedFor e.key ++ seen :=
        List.forall_mem_append.2 ⟨fun key hkey name hname =>
          List.mem_append_right _ (h key hkey name hname),
          List.forall_mem_singleton.2 fun _ => List.mem_append_left _⟩
      rw [List.map_cons, List.flatMap_cons, List.map_append, List.map_append,
        firstMentions_append, firstMentions_append, map_name_required, ih hrest]
    · rename_i hskip
      have hseen : ∀ name ∈ listedFor e.key, name ∈ seen := by
        rcases not_and_or.1 hskip with hunknown | hfront
        · simp [listedFor_of_not_mem hunknown]
        · exact h e.key (not_not.1 hfront)
      rw [firstMentions_append_of_subset hseen]
      exact ih (List.forall_mem_append.2 ⟨h, List.forall_mem_singleton.2 hseen⟩)

section Documents

variable {d d' : DiscoveryDocument}

/-- The first endpoints of each known key decide what a document adds. -/
theorem added_congr (h : (firstKnown [] d.endpoints).map Endpoint.key =
    (firstKnown [] d'.endpoints).map Endpoint.key) : added d = added d' := by
  have hfront : ∀ key ∈ ([] : List String), ∀ name ∈ listedFor key,
      name ∈ baseline.map ConfigField.name := List.forall_mem_nil _
  have hd := @firstMentions_firstKnown [] _ d.endpoints hfront
  rw [h, firstMentions_firstKnown hfront] at hd
  rw [added, added, mentions_eq, mentions_eq, hd]

/-- What is appended to the endpoints only appends fields. -/
theorem fieldsFor_prefix (h : d.endpoints <+: d'.endpoints) : fieldsFor d <+: fieldsFor d' := by
  obtain ⟨more, hmore⟩ := h
  rw [fieldsFor, fieldsFor, ← hmore, List.flatMap_append, ← List.append_assoc,
    firstMentions_append (m := more.flatMap _)]
  exact List.prefix_append _ _

theorem endpoints_prefix (h : d.items <+: d'.items) : d.endpoints <+: d'.endpoints := by
  obtain ⟨more, hmore⟩ := h
  rw [DiscoveryDocument.endpoints, DiscoveryDocument.endpoints, ← hmore, List.flatMap_append]
  exact List.prefix_append _ _

/-- Another order of the endpoints gives another order of what a document adds. -/
theorem added_perm (h : d.endpoints.Perm d'.endpoints) : (added d).Perm (added d') := by
  refine (List.perm_ext_iff_of_nodup nodup_added nodup_added).2 fun name => ?_
  rw [mem_added_iff, mem_added_iff, mentions_eq, mentions_eq]
  exact ((h.map Endpoint.key).flatMap_right listedFor).mem_iff

end Documents

/-- Documents ask for the same fields if their endpoints have the same keys once those without a key
in the table and those that repeat one are left out, however they are put into items. Endpoints or
items that are appended only append fields, and if the endpoints of a document are put in another
order, so are the fields behind those that every client needs. -/
theorem fieldsFor_regrouped (d d' : DiscoveryDocument) :
    ((firstKnown [] d.endpoints).map Endpoint.key = (firstKnown [] d'.endpoints).map Endpoint.key →
      fieldsFor d = fieldsFor d') ∧
    (d.endpoints <+: d'.endpoints ∨ d.items <+: d'.items → fieldsFor d <+: fieldsFor d') ∧
    (d.endpoints.Perm d'.endpoints → ∃ fields fields',
      fieldsFor d = clientFields ++ wellKnownFields ++ fields ∧
      fieldsFor d' = clientFields ++ wellKnownFields ++ fields' ∧ fields.Perm fields') := by
  refine ⟨fun h => ?_, fun h => fieldsFor_prefix (h.elim id endpoints_prefix), fun h => ?_⟩
  · rw [fieldsFor_eq, fieldsFor_eq, added_congr h]
  · exact ⟨_, _, fieldsFor_eq d, fieldsFor_eq d', (added_perm h).map _⟩

/-- A document of items with endpoints, each given by its method and path. -/
def documentOf (items : List (List (String × String))) : DiscoveryDocument :=
  { DiscoveryDocument.empty with
    items? := some (items.map fun es =>
      ⟨.empty, "", "", some (es.map fun e => .ofMethodPath e.1 e.2)⟩) }

/-- A payment that is offered twice, in one item or in two, with an endpoint that the table does not
know or without it, asks for the same fields; the account in front of it puts its field first. -/
theorem fieldsFor_regrouped_payments :
    (firstKnown [] (documentOf [[("POST", "/domestic-payments"), ("GET", "/unknown"),
        ("GET", "/accounts/{AccountId}"), ("POST", "/domestic-payments")]]).endpoints).map
        Endpoint.key =
      (firstKnown [] (documentOf [[("POST", "/domestic-payments")],
        [("GET", "/accounts/{AccountId}")]]).endpoints).map Endpoint.key ∧
    fieldsFor (documentOf [[("POST", "/domestic-payments"), ("GET", "/unknown"),
        ("GET", "/accounts/{AccountId}"), ("POST", "/domestic-payments")]]) =
      fieldsFor (documentOf [[("POST", "/domestic-payments")],
        [("GET", "/accounts/{AccountId}")]]) ∧
    ∃ fields fields',
      fieldsFor (documentOf [[("POST", "/domestic-payments")],
        [("GET", "/accounts/{AccountId}")]]) = clientFields ++ wellKnownFields ++ fields ∧
      fieldsFor (documentOf [[("GET", "/accounts/{AccountId}"), ("POST", "/domestic-payments")]]) =
        clientFields ++ wellKnownFields ++ fields' ∧ fields.Perm fields' := by
  refine ⟨by decide +kernel, (fieldsFor_regrouped _ _).1 (by decide +kernel),
    (fieldsFor_regrouped _ _).2.2 ?_⟩
  exact List.Perm.swap _ _ []

end ConformanceSuite.Discovery
