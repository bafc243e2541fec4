import Mathlib.Data.List.Nodup
import ConformanceSuite.JsonSchema.Compile
import ConformanceSuite.Proofs.JsonSchema.Meaning

/-!
# What is read from schemas

A schema that is read from a document comes with the schemas that its references name: with those
that it mentions, those that these mention, and so on: `resolved_of_ofDocument`. Reading enters
references a bounded number of times inside each other, but the bound is never reached, as those
being entered are distinct references of the document.
-/

namespace ConformanceSuite.JsonSchema

/-- Leave alone what references name. -/
def skim : String → Reading Unit := fun _ named => .ok ((), named)

/-- A value denotes a schema: it is read as that, whatever its references name. -/
def Denotes (value : Json) (s : Schema) : Prop :=
  ∀ named, readSchema skim value named = .ok (s, named)

/-! ### References of values -/

mutual

/-- The references anywhere in a value. -/
def references : Json → List String
  | .array items => itemReferences items
  | .object members => memberReferences members
  | _ => []

/-- The references anywhere in a list of values. -/
def itemReferences : List Json → List String
  | [] => []
  | x :: rest => references x ++ itemReferences rest

/-- The references anywhere in a list of members. -/
def memberReferences : List (String × Json) → List String
  | [] => []
  | (key, x) :: rest =>
    (if key = "$ref" then x.string?.toList else []) ++ references x ++ memberReferences rest

end

mutual

/-- No more references can be found than members that are references. -/
theorem length_references_le : ∀ v, (references v).length ≤ countKey "$ref" v
  | .array items => length_itemReferences_le items
  | .object members => length_memberReferences_le members
  | .null | .bool _ | .number _ | .string _ => Nat.le_refl _

theorem length_itemReferences_le :
    ∀ items, (itemReferences items).length ≤ countKeyItems "$ref" items
  | [] => Nat.le_refl _
  | x :: rest => by
    have hx := length_references_le x
    have hrest := length_itemReferences_le rest
    rw [itemReferences, countKeyItems, List.length_append]
    omega

theorem length_memberReferences_le :
    ∀ members, (memberReferences members).length ≤ countKeyMembers "$ref" members
  | [] => Nat.le_refl _
  | (key, x) :: rest => by
    have hx := length_references_le x
    have hrest := length_memberReferences_le rest
    have hown : (if key = "$ref" then x.string?.toList else []).length ≤
        if key = "$ref" then 1 else 0 := by
      split
      · exact Option.length_toList_le
      · exact Nat.le_refl _
    rw [memberReferences, countKeyMembers, List.length_append, List.length_append]
    omega

end

theorem references_subset_of_mem_items {items : List Json} {x : Json} (h : x ∈ items) :
    references x ⊆ references (.array items) := by
  rw [references]
  induction items with
  | nil => cases h
  | cons first rest ih =>
    rw [itemReferences]
    rcases List.mem_cons.1 h with rfl | h
    · exact List.subset_append_left _ _
    · exact List.subset_append_of_subset_right _ (ih h)

theorem references_of_mem_members {members : List (String × Json)} {key : String} {x : Json}
    (h : (key, x) ∈ members) : references x ⊆ references (.object members) ∧
      ∀ target, key = "$ref" → x = .string target → target ∈ references (.object members) := by
  rw [references]
  induction members with
  | nil => cases h
  | cons first rest ih =>
    obtain ⟨other, y⟩ := first
    rw [memberReferences]
    rcases List.mem_cons.1 h with h | h
    · obtain ⟨rfl, rfl⟩ := Prod.mk.inj h
      refine ⟨fun t ht => ?_, ?_⟩
      · simp [ht]
      · rintro target rfl rfl
        simp
    · obtain ⟨hsub, href⟩ := ih h
      exact ⟨List.subset_append_of_subset_right _ hsub, fun target hkey hx =>
        List.mem_append_right _ (href target hkey hx)⟩

theorem references_of_descend? {document value : Json} {steps : List (List Char)}
    (h : descend? document steps = some value) : references value ⊆ references document := by
  induction steps generalizing document with
  | nil =>
    obtain rfl := Option.some.inj h
    exact List.Subset.refl _
  | cons step rest ih =>
    obtain ⟨child, hchild, hrest⟩ := Option.bind_eq_some_iff.1 h
    refine List.Subset.trans (ih hrest) ?_
    cases document with
    | object members => exact (references_of_mem_members (mem_of_findMember? hchild)).1
    | array items =>
      obtain ⟨i, -, hi⟩ := Option.bind_eq_some_iff.1 hchild
      exact references_subset_of_mem_items (List.mem_of_getElem? hi)
    | _ => cases hchild

/-- What a reference names is a part of the document. -/
theorem references_of_resolve {document value : Json} {target : String}
    (h : resolve document target = .ok value) : references value ⊆ references document := by
  unfold resolve at h
  split at h
  · obtain rfl := Except.ok.inj h
    exact List.Subset.refl _
  · dsimp only at h
    split at h
    · cases h
    · split at h
      · rename_i hdescend
        obtain rfl := Except.ok.inj h
        exact references_of_descend? hdescend
      · cases h
  · split at h <;> cases h

/-! ### Parts -/

theorem mem_place {k other : Keyword} {keywords : List Keyword} :
    other ∈ k.place keywords ↔ other = k ∨ other ∈ keywords := by
  induction keywords with
  | nil => simp [Keyword.place]
  | cons first rest ih =>
    rw [Keyword.place]
    split
    · exact List.mem_cons
    · rw [List.mem_cons, ih, List.mem_cons]
      exact or_left_comm

theorem mem_inOrder {k : Keyword} {keywords : List Keyword} :
    k ∈ inOrder keywords ↔ k ∈ keywords := by
  induction keywords with
  | nil => rfl
  | cons first rest ih =>
    rw [inOrder, List.foldr_cons, mem_place, List.mem_cons]
    exact or_congr Iff.rfl ih

/-- The schemas in parts. -/
def Parts.schemas (p : Parts) : List Schema :=
  p.keywords.flatMap Keyword.parts ++ ((p.properties.getD []).map Prod.snd ++
    ((p.patterns.getD []).map Prod.snd ++ (p.others.getD none).toList))

theorem schemas_add (p : Parts) (k : Keyword) {s : Schema} :
    s ∈ (p.add k).schemas ↔ s ∈ p.schemas ∨ s ∈ k.parts := by
  simp only [Parts.schemas, Parts.add, List.flatMap_append, List.flatMap_singleton,
    List.mem_append]
  tauto

theorem mem_schemas_of_propertyKeywords {p : Parts} {k : Keyword} {s : Schema}
    (hk : k ∈ p.propertyKeywords) (hs : s ∈ k.parts) : s ∈ p.schemas := by
  obtain ⟨properties, patterns, others, keywords⟩ := p
  refine List.mem_append_right _ ?_
  cases others with
  | none =>
    rcases List.mem_append.1 hk with hk | hk
    · cases properties with
      | none => cases hk
      | some known =>
        obtain rfl := List.mem_singleton.1 hk
        exact List.mem_append_left _ hs
    · cases patterns with
      | none => cases hk
      | some patterns =>
        obtain rfl := List.mem_singleton.1 hk
        exact List.mem_append_right _ (List.mem_append_left _ hs)
  | some others =>
    cases properties <;> cases patterns <;> cases others <;>
      obtain rfl := List.mem_singleton.1 hk
    case none.none.none => cases hs
    all_goals simpa [Keyword.parts, or_assoc] using hs

/-- What the schema of parts mentions, a schema in the parts mentions. -/
theorem mentions_schema {p : Parts} {target : String} (h : p.schema.Mentions target) :
    ∃ s ∈ p.schemas, s.Mentions target := by
  cases h with
  | @part _ k s _ keyword part mentions =>
    refine ⟨s, ?_, mentions⟩
    rcases List.mem_append.1 (mem_inOrder.1 keyword) with hk | hk
    · exact List.mem_append_left _ (List.mem_flatMap.2 ⟨k, hk, part⟩)
    · exact mem_schemas_of_propertyKeywords hk part

theorem patternsOf_eq_ok {schemas : List (String × Schema)}
    {patterns : List (Pattern.Node × Schema)} (h : patternsOf schemas = .ok patterns) :
    patterns.map Prod.snd = schemas.map Prod.snd := by
  induction schemas generalizing patterns with
  | nil =>
    obtain rfl := Except.ok.inj h
    rfl
  | cons p rest ih =>
    obtain ⟨key, s⟩ := p
    rw [patternsOf] at h
    cases hpattern : Pattern.ofString? key with
    | none => simp [hpattern] at h
    | some pattern =>
      cases hrest : patternsOf rest with
      | error fault => simp [hpattern, hrest, Except.map] at h
      | ok others =>
        obtain rfl : (pattern, s) :: others = patterns := by
          simpa [hpattern, hrest, Except.map] using h
        rw [List.map_cons, List.map_cons, ih hrest]

section Uses

variable {parent members : List (String × Json)} {key : String} {p p' : Parts} {s : Schema}

theorem mem_schemas_of_schema {put : Schema → Parts}
    (h : ObjectUse.ofKey parent key members p = .schema put) {own : Schema}
    (hs : s ∈ (put own).schemas) : s ∈ p.schemas ∨ s = own := by
  unfold ObjectUse.ofKey at h
  split at h
  case h_3 =>
    obtain rfl := ObjectUse.schema.inj h
    simp only [Parts.schemas, List.mem_append, Option.getD_some, Option.toList_some,
      List.mem_singleton] at hs ⊢
    tauto
  case h_4 =>
    obtain rfl := ObjectUse.schema.inj h
    simpa [Keyword.parts] using (schemas_add _ _).1 hs
  case h_5 =>
    split at h
    · obtain rfl := ObjectUse.schema.inj h
      simpa [Keyword.parts] using (schemas_add _ _).1 hs
    · cases h
  case h_7 =>
    obtain rfl := ObjectUse.schema.inj h
    simpa [Keyword.parts] using (schemas_add _ _).1 hs
  all_goals cases h

theorem mem_schemas_of_named {put : List (String × Schema) → Except Fault Parts}
    (h : ObjectUse.ofKey parent key members p = .named put) {schemas : List (String × Schema)}
    (hput : put schemas = .ok p') (hs : s ∈ p'.schemas) :
    s ∈ p.schemas ∨ s ∈ schemas.map Prod.snd := by
  unfold ObjectUse.ofKey at h
  split at h
  case h_1 =>
    obtain rfl := ObjectUse.named.inj h
    obtain rfl := Except.ok.inj hput
    simp only [Parts.schemas, List.mem_append, Option.getD_some] at hs ⊢
    tauto
  case h_2 =>
    obtain rfl := ObjectUse.named.inj h
    cases hpatterns : patternsOf schemas with
    | error fault => simp [hpatterns, Except.map] at hput
    | ok patterns =>
      simp only [hpatterns, Except.map, Except.ok.injEq] at hput
      subst hput
      simp only [Parts.schemas, List.mem_append, Option.getD_some, patternsOf_eq_ok hpatterns]
        at hs ⊢
      tauto
  case h_5 => split at h <;> cases h
  all_goals cases h

theorem mem_schemas_of_triggers {put : List (String × Schema) → Parts}
    (h : ObjectUse.ofKey parent key members p = .triggers put) {triggers : List (String × Schema)}
    (hs : s ∈ (put triggers).schemas) : s ∈ p.schemas ∨ s ∈ triggers.map Prod.snd := by
  unfold ObjectUse.ofKey at h
  split at h
  case h_6 =>
    obtain rfl := ObjectUse.triggers.inj h
    exact (schemas_add _ _).1 hs
  case h_5 => split at h <;> cases h
  all_goals cases h

theorem parts_of_listKeyword? {keyword : List Schema → Keyword}
    (h : listKeyword? key = some keyword) (schemas : List Schema) :
    (keyword schemas).parts = schemas := by
  unfold listKeyword? at h
  split at h
  all_goals cases h
  all_goals rfl

theorem parts_of_simpleKeyword? {value : Json} {k : Keyword}
    (h : simpleKeyword? parent key value = some k) : k.parts = [] := by
  have hsize : ∀ {side measure}, (limit? value).map (.size side measure) = some k →
      k.parts = [] := fun h => by
    obtain ⟨limit, -, rfl⟩ := Option.map_eq_some_iff.1 h
    rfl
  unfold simpleKeyword? at h
  dsimp only at h
  split at h
  case h_13 =>
    obtain ⟨pattern, -, rfl⟩ := Option.map_eq_some_iff.1 h
    rfl
  case h_14 =>
    obtain ⟨format, -, rfl⟩ := Option.map_eq_some_iff.1 h
    rfl
  all_goals first
    | exact hsize h
    | cases h; rfl
    | cases h

theorem mem_schemas_of_addSimple {value : Json} (hs : s ∈ (p.addSimple parent key value).schemas) :
    s ∈ p.schemas := by
  unfold Parts.addSimple at hs
  split at hs
  · simp only [Parts.schemas, List.mem_append, Option.getD_some, Option.toList_none,
      List.not_mem_nil, or_false] at hs ⊢
    tauto
  · split at hs
    · exact ((schemas_add _ _).1 hs).resolve_right List.not_mem_nil
    · exact hs
  · exact hs
  · cases hkeyword : simpleKeyword? parent key value with
    | none => simpa [hkeyword] using hs
    | some k =>
      rw [hkeyword] at hs
      refine ((schemas_add _ _).1 hs).resolve_right ?_
      rw [parts_of_simpleKeyword? hkeyword]
      exact List.not_mem_nil

end Uses

/-! ### Collecting -/

/-- How schemas are collected while references to which `refers` holds are entered: collecting goes
on from one collection to another one, and a reference that has been entered is done for good. -/
structure Collects (refers : String → Prop) (grows : Named → Named → Prop)
    (done : String → Named → Prop) (enter : String → Reading Unit) : Prop where
  refl : ∀ n, grows n n
  trans : ∀ {a b c}, grows a b → grows b c → grows a c
  keeps : ∀ {target a b}, grows a b → done target a → done target b
  enters : ∀ {target n n'}, refers target → enter target n = .ok ((), n') →
    grows n n' ∧ done target n'

/-- What a list of schemas mentions is done. -/
def Done (done : String → Named → Prop) (schemas : List Schema) (n : Named) : Prop :=
  ∀ s ∈ schemas, ∀ target, s.Mentions target → done target n

/-- A reading finds what another one finds that leaves references alone, and collecting goes on. -/
def Reads {α : Type} (grows : Named → Named → Prop) (before : Named → Prop)
    (after : α → Named → Prop) (read alone : Reading α) : Prop :=
  ∀ n, before n → ∀ a n', read n = .ok (a, n') →
    (∀ m, alone m = .ok (a, m)) ∧ grows n n' ∧ after a n'

theorem bind_eq_ok {α β : Type} {x : Except Fault α} {f : α → Except Fault β} {b : β}
    (h : x >>= f = .ok b) : ∃ a, x = .ok a ∧ f a = .ok b := by
  cases x with
  | error fault => cases h
  | ok a => exact ⟨a, rfl, h⟩

namespace Collects

variable {refers : String → Prop} {grows : Named → Named → Prop} {done : String → Named → Prop}
  {enter : String → Reading Unit} {n n' : Named}

theorem mono (h : Collects refers grows done enter) {schemas : List Schema}
    (hdone : Done done schemas n) (hgrows : grows n n') : Done done schemas n' :=
  fun s hs target htarget => h.keeps hgrows (hdone s hs target htarget)

theorem schemaOfObject (h : Collects refers grows done enter) {members : List (String × Json)}
    {read alone : Reading Parts} (hrefs : ∀ target ∈ references (.object members), refers target)
    (hread : Reads grows (fun _ => True) (fun p n => Done done p.schemas n) read alone) :
    Reads grows (fun _ => True) (fun s n => Done done [s] n)
      (schemaOfObject enter members read) (schemaOfObject skim members alone) := by
  rintro n - s n' hok
  unfold JsonSchema.schemaOfObject at hok ⊢
  split at hok
  · rename_i target hfind
    obtain ⟨⟨⟨⟩, n₁⟩, henter, hok⟩ := bind_eq_ok hok
    obtain ⟨rfl, rfl⟩ := Prod.mk.inj (Except.ok.inj hok)
    obtain ⟨hgrows, hdone⟩ := h.enters
      (hrefs _ ((references_of_mem_members (mem_of_findMember? hfind)).2 _ rfl rfl)) henter
    refine ⟨fun m => rfl, hgrows, ?_⟩
    intro s hs other hmentions
    obtain rfl := List.mem_singleton.1 hs
    cases hmentions
    exact hdone
  · cases hok
  · rename_i hfind
    obtain ⟨⟨p, n₁⟩, hparts, hok⟩ := bind_eq_ok hok
    obtain ⟨rfl, rfl⟩ := Prod.mk.inj (Except.ok.inj hok)
    obtain ⟨halone, hgrows, hdone⟩ := hread n trivial p n₁ hparts
    refine ⟨fun m => by simp only [halone m]; rfl, hgrows, ?_⟩
    intro s hs target hmentions
    obtain rfl := List.mem_singleton.1 hs
    obtain ⟨s, hs, hmentions⟩ := mentions_schema hmentions
    exact hdone s hs target hmentions

/-- Reading nothing collects nothing. -/
theorem nil (h : Collects refers grows done enter) {β : Type} {schemasOf : List β → List Schema}
    (hnil : schemasOf [] = []) :
    Reads grows (fun _ => True) (fun l => Done done (schemasOf l))
      (fun named => .ok ([], named)) (fun named => .ok ([], named)) := by
  rintro n - schemas n' hok
  obtain ⟨rfl, rfl⟩ := Prod.mk.inj (Except.ok.inj hok)
  refine ⟨fun m => rfl, h.refl n, ?_⟩
  show Done done (schemasOf []) n
  rw [hnil]
  exact nofun

/-- Reading one schema and then others collects what both do. -/
theorem cons (h : Collects refers grows done enter) {β : Type} {schemasOf : List β → List Schema}
    (make : Schema → β) (hcons : ∀ s l, schemasOf (make s :: l) = s :: schemasOf l)
    {first firstAlone : Reading Schema} {rest restAlone : Reading (List β)}
    (hfirst : Reads grows (fun _ => True) (fun s => Done done [s]) first firstAlone)
    (hrest : Reads grows (fun _ => True) (fun l => Done done (schemasOf l)) rest restAlone) :
    Reads grows (fun _ => True) (fun l => Done done (schemasOf l))
      (fun named => do
        let (s, named) ← first named
        let (others, named) ← rest named
        .ok (make s :: others, named))
      (fun named => do
        let (s, named) ← firstAlone named
        let (others, named) ← restAlone named
        .ok (make s :: others, named)) := by
  rintro n - l n' hok
  obtain ⟨⟨s, n₁⟩, hs, hok⟩ := bind_eq_ok hok
  obtain ⟨⟨others, n₂⟩, hothers, hok⟩ := bind_eq_ok hok
  obtain ⟨rfl, rfl⟩ := Prod.mk.inj (Except.ok.inj hok)
  obtain ⟨halone₁, hgrows₁, hdone₁⟩ := hfirst n trivial s n₁ hs
  obtain ⟨halone₂, hgrows₂, hdone₂⟩ := hrest n₁ trivial others n₂ hothers
  refine ⟨fun m => ?_, h.trans hgrows₁ hgrows₂, ?_⟩
  · simp only [halone₁ m, halone₂ m, bind, Except.bind]
  · show Done done (schemasOf (make s :: others)) n₂
    rw [hcons]
    exact List.forall_mem_cons.2 ⟨h.mono hdone₁ hgrows₂ s List.mem_cons_self, hdone₂⟩

/-- Reading something and putting its schemas into parts collects what both do. -/
theorem put (h : Collects refers grows done enter) {α : Type} {schemasOf : α → List Schema}
    {p : Parts} {read alone : Reading α} (put : α → Except Fault Parts)
    (hread : Reads grows (fun _ => True) (fun a => Done done (schemasOf a)) read alone)
    (hput : ∀ a p', put a = .ok p' → ∀ s ∈ p'.schemas, s ∈ p.schemas ∨ s ∈ schemasOf a) :
    Reads grows (Done done p.schemas) (fun p' => Done done p'.schemas)
      (fun named => do
        let (a, named) ← read named
        .ok (← put a, named))
      (fun named => do
        let (a, named) ← alone named
        .ok (← put a, named)) := by
  rintro n hp p' n' hok
  obtain ⟨⟨a, n₁⟩, ha, hok⟩ := bind_eq_ok hok
  obtain ⟨p₁, hp₁, hok⟩ := bind_eq_ok hok
  obtain ⟨rfl, rfl⟩ := Prod.mk.inj (Except.ok.inj hok)
  obtain ⟨halone, hgrows, hdone⟩ := hread n trivial a n₁ ha
  refine ⟨fun m => by simp only [halone m, hp₁, bind, Except.bind], hgrows, ?_⟩
  intro s hs target hmentions
  rcases hput a p₁ hp₁ s hs with hold | hnew
  · exact h.mono hp hgrows s hold target hmentions
  · exact hdone s hnew target hmentions

/-- Parts to which nothing is added that rests on another schema mention nothing new. -/
theorem keep (h : Collects refers grows done enter) {p p' : Parts}
    (hp' : ∀ s ∈ p'.schemas, s ∈ p.schemas) :
    Reads grows (Done done p.schemas) (fun p' => Done done p'.schemas)
      (fun named => .ok (p', named)) (fun named => .ok (p', named)) := by
  rintro n hp p'' n' hok
  obtain ⟨rfl, rfl⟩ := Prod.mk.inj (Except.ok.inj hok)
  exact ⟨fun m => rfl, h.refl n, fun s hs => hp s (hp' s hs)⟩

mutual

theorem readSchema (h : Collects refers grows done enter) :
    ∀ value, (∀ target ∈ references value, refers target) →
      Reads grows (fun _ => True) (fun s n => Done done [s] n)
        (readSchema enter value) (readSchema skim value)
  | .bool b, _ => by
    rintro n - s n' hok
    obtain ⟨rfl, rfl⟩ := Prod.mk.inj (Except.ok.inj hok)
    refine ⟨fun m => rfl, h.refl n, ?_⟩
    intro s hs target hmentions
    obtain rfl := List.mem_singleton.1 hs
    cases hmentions
  | .object members, hrefs =>
    h.schemaOfObject hrefs fun n _ p n' hok =>
      h.readMembers members members {} hrefs n nofun p n' hok
  | .null, _ | .number _, _ | .string _, _ | .array _, _ => nofun

theorem readMembers (h : Collects refers grows done enter) (parent : List (String × Json)) :
    ∀ members p, (∀ target ∈ memberReferences members, refers target) →
      Reads grows (Done done p.schemas) (fun p n => Done done p.schemas n)
        (readMembers enter parent members p) (readMembers skim parent members p)
  | [], p, _ => h.keep fun _ hs => hs
  | (key, value) :: rest, p, hrefs => by
    rintro n hp p' n' hok
    obtain ⟨⟨p₁, n₁⟩, hmember, hok⟩ := bind_eq_ok hok
    have hvalue : ∀ target ∈ references value, refers target := fun target ht =>
      hrefs target (by simp [memberReferences, ht])
    have hothers : ∀ target ∈ memberReferences rest, refers target := fun target ht =>
      hrefs target (by simp [memberReferences, ht])
    obtain ⟨halone₁, hgrows₁, hp₁⟩ := h.readMember parent key value p hvalue n hp p₁ n₁ hmember
    obtain ⟨halone, hgrows, hp'⟩ := h.readMembers parent rest p₁ hothers n₁ hp₁ p' n' hok
    refine ⟨fun m => ?_, h.trans hgrows₁ hgrows, hp'⟩
    rw [JsonSchema.readMembers, halone₁ m]
    exact halone m

theorem readMember (h : Collects refers grows done enter) (parent : List (String × Json))
    (key : String) : ∀ value p, (∀ target ∈ references value, refers target) →
      Reads grows (Done done p.schemas) (fun p n => Done done p.schemas n)
        (readMember enter parent key value p) (readMember skim parent key value p)
  | .object members, p, hrefs => by
    simp only [Reads, JsonSchema.readMember]
    cases huse : ObjectUse.ofKey parent key members p with
    | schema put =>
      have hread := h.schemaOfObject hrefs fun n _ p n' hok =>
        h.readMembers members members {} hrefs n nofun p n' hok
      exact h.put (fun s => .ok (put s)) hread (by
        rintro own _ ⟨⟩ s hs
        simpa using mem_schemas_of_schema huse hs)
    | named put =>
      exact h.put put (h.readNamed members hrefs) fun schemas p' hput s hs =>
        mem_schemas_of_named huse hput hs
    | triggers put =>
      exact h.put (fun triggers => .ok (put triggers)) (h.readDependencies members hrefs) (by
        rintro triggers _ ⟨⟩ s hs
        exact mem_schemas_of_triggers huse hs)
    | nothing => exact h.keep fun _ hs => hs
  | .array items, p, hrefs => by
    simp only [Reads, JsonSchema.readMember]
    cases hkeyword : listKeyword? key with
    | some keyword =>
      exact h.put (fun schemas => .ok (p.add (keyword schemas))) (h.readItems items hrefs) (by
        rintro schemas _ ⟨⟩ s hs
        rw [← parts_of_listKeyword? hkeyword schemas]
        exact (schemas_add _ _).1 hs)
    | none => exact h.keep fun _ hs => mem_schemas_of_addSimple hs
  | .null, p, _ | .bool _, p, _ | .number _, p, _ | .string _, p, _ =>
    h.keep fun _ hs => mem_schemas_of_addSimple hs

theorem readItems (h : Collects refers grows done enter) :
    ∀ items, (∀ target ∈ itemReferences items, refers target) →
      Reads grows (fun _ => True) (Done done) (readItems enter items) (readItems skim items)
  | [], _ => h.nil rfl
  | x :: rest, hrefs =>
    h.cons id (fun _ _ => rfl) (h.readSchema x fun target ht => hrefs target (by
      simp [itemReferences, ht])) (h.readItems rest fun target ht => hrefs target (by
      simp [itemReferences, ht]))

theorem readNamed (h : Collects refers grows done enter) :
    ∀ members, (∀ target ∈ memberReferences members, refers target) →
      Reads grows (fun _ => True) (fun schemas => Done done (schemas.map Prod.snd))
        (readNamed enter members) (readNamed skim members)
  | [], _ => h.nil rfl
  | (key, x) :: rest, hrefs =>
    h.cons (key, ·) (fun _ _ => rfl) (h.readSchema x fun target ht => hrefs target (by
      simp [memberReferences, ht])) (h.readNamed rest fun target ht => hrefs target (by
      simp [memberReferences, ht]))

theorem readDependencies (h : Collects refers grows done enter) :
    ∀ members, (∀ target ∈ memberReferences members, refers target) →
      Reads grows (fun _ => True) (fun schemas => Done done (schemas.map Prod.snd))
        (readDependencies enter members) (readDependencies skim members)
  | [], _ => h.nil rfl
  | (key, .array names) :: rest, hrefs => by
    rintro n - schemas n' hok
    obtain ⟨⟨others, n₁⟩, hrest, hok⟩ := bind_eq_ok hok
    obtain ⟨rfl, rfl⟩ := Prod.mk.inj (Except.ok.inj hok)
    obtain ⟨halone, hgrows, hdone⟩ := h.readDependencies rest (fun target ht => hrefs target (by
      simp [memberReferences, ht])) n trivial others n₁ hrest
    refine ⟨fun m => by rw [JsonSchema.readDependencies, halone m]; rfl, hgrows,
      List.forall_mem_cons.2 ⟨fun target hmentions => ?_, hdone⟩⟩
    cases hmentions with
    | part keyword part =>
      obtain rfl := List.mem_singleton.1 keyword
      cases part
  | (key, .null) :: rest, hrefs | (key, .bool _) :: rest, hrefs | (key, .number _) :: rest, hrefs
  | (key, .string _) :: rest, hrefs | (key, .object _) :: rest, hrefs =>
    h.cons (key, ·) (fun _ _ => rfl) (h.readSchema _ fun target ht => hrefs target (by
      simp [memberReferences, ht])) (h.readDependencies rest fun target ht => hrefs target (by
      simp [memberReferences, ht]))

end

end Collects

/-! ### Entering references -/

section Documents

variable {document : Json} {active : List String} {n n' : Named}

/-- A reference of a document names a value that denotes a schema. -/
def Names (document : Json) (target : String) (s : Schema) : Prop :=
  ∃ value, resolve document target = .ok value ∧ Denotes value s

/-- A reference is being entered, or names a schema that has been read. -/
def Entered (active : List String) (target : String) (n : Named) : Prop :=
  target ∈ active ∨ (n.lookup target).isSome

/-- Every schema that has been read is the one that its reference names in the document, and
mentions only references that are being entered or name schemas that have been read too. -/
def Sound (document : Json) (active : List String) (n : Named) : Prop :=
  ∀ p ∈ n, Names document p.1 p.2 ∧ ∀ target, p.2.Mentions target → Entered active target n

/-- More schemas have been read, and soundly. -/
def Grows (document : Json) (active : List String) (n n' : Named) : Prop :=
  n <:+ n' ∧ (Sound document active n → Sound document active n')

theorem lookup_isSome_of_suffix (h : n <:+ n') {target : String}
    (hn : (n.lookup target).isSome) : (n'.lookup target).isSome := by
  obtain ⟨p, hp, hkey⟩ := List.lookup_isSome_iff.1 hn
  exact List.lookup_isSome_iff.2 ⟨p, h.subset hp, hkey⟩

/-- With a schema that has been read its reference is not being entered any more. -/
theorem Sound.cons {target : String} {s : Schema} (hn : Sound document (target :: active) n)
    (hnames : Names document target s)
    (hs : ∀ other, s.Mentions other → Entered (target :: active) other n) :
    Sound document active ((target, s) :: n) := by
  have hentered : ∀ other, Entered (target :: active) other n →
      Entered active other ((target, s) :: n) := by
    rintro other (hactive | hnamed)
    · rcases List.mem_cons.1 hactive with rfl | hactive
      · exact .inr (by simp)
      · exact .inl hactive
    · exact .inr (lookup_isSome_of_suffix (List.suffix_cons _ _) hnamed)
  refine List.forall_mem_cons.2 ⟨⟨hnames, fun other h => hentered other (hs other h)⟩, ?_⟩
  exact fun p hp => ⟨(hn p hp).1, fun other h => hentered other ((hn p hp).2 other h)⟩

theorem collects_of_enters {enter : String → Reading Unit}
    (h : ∀ target ∈ references document, ∀ n n', enter target n = .ok ((), n') →
      Grows document active n n' ∧ Entered active target n') :
    Collects (· ∈ references document) (Grows document active) (Entered active) enter where
  refl n := ⟨List.suffix_refl n, id⟩
  trans hab hbc := ⟨hab.1.trans hbc.1, hbc.2 ∘ hab.2⟩
  keeps hab := Or.imp_right (lookup_isSome_of_suffix hab.1)
  enters htarget hok := h _ htarget _ _ hok

/-- References are entered soundly, with as much fuel as there are references in the document that
are not being entered already. -/
theorem collects_enterReference {fuel : Nat} (hnodup : active.Nodup)
    (hactive : active ⊆ references document)
    (hfuel : (references document).length < fuel + active.length) :
    Collects (· ∈ references document) (Grows document active) (Entered active)
      (enterReference document fuel active) := by
  induction fuel generalizing active with
  | zero =>
    have hle := hnodup.length_le_of_subset hactive
    omega
  | succ fuel ih =>
    refine collects_of_enters fun target htarget n n' hok => ?_
    rw [enterReference] at hok
    split at hok
    · rename_i hknown
      obtain ⟨-, rfl⟩ := Prod.mk.inj (Except.ok.inj hok)
      exact ⟨⟨List.suffix_refl n, id⟩, by simpa [Entered] using hknown⟩
    · rename_i hnew
      simp only [Bool.or_eq_true, List.contains_iff_mem, not_or] at hnew
      obtain ⟨value, hvalue, hok⟩ := bind_eq_ok hok
      obtain ⟨⟨s, n₁⟩, hs, hok⟩ := bind_eq_ok hok
      obtain ⟨-, rfl⟩ := Prod.mk.inj (Except.ok.inj hok)
      -- while the value is read, its reference is one of those being entered
      have hinner := ih (List.nodup_cons.2 ⟨hnew.1, hnodup⟩) (List.cons_subset.2
        ⟨htarget, hactive⟩) (by rw [List.length_cons]; omega)
      obtain ⟨hdenotes, hgrows, hdone⟩ := hinner.readSchema value
        (fun t ht => references_of_resolve hvalue ht) n trivial s n₁ hs
      refine ⟨⟨hgrows.1.trans (List.suffix_cons _ _), fun hsound => ?_⟩, .inr (by simp)⟩
      have hweaker : Sound document (target :: active) n := fun p hp =>
        ⟨(hsound p hp).1, fun other h =>
          ((hsound p hp).2 other h).imp_left (List.mem_cons_of_mem _)⟩
      exact (hgrows.2 hweaker).cons ⟨value, hvalue, hdenotes⟩ (hdone s List.mem_cons_self)

/-- A schema with the schemas that its references name in a document: each of these is what the
value that its reference names denotes, and every reference that one of them mentions names one. -/
structure Resolved (document : Json) (main : Schema) (named : List (String × Schema)) : Prop where
  names : ∀ p ∈ named, Names document p.1 p.2
  main : ∀ target, main.Mentions target → (named.lookup target).isSome
  closed : ∀ p ∈ named, ∀ target, p.2.Mentions target → (named.lookup target).isSome

/-- A schema is what the document denotes, and comes with all that its references name. -/
theorem resolved_of_ofDocument {set : SchemaSet} (h : SchemaSet.ofDocument document = .ok set) :
    Denotes document set.main ∧ Resolved document set.main set.named := by
  obtain ⟨⟨main, named⟩, hread, hset⟩ := bind_eq_ok h
  obtain rfl := Except.ok.inj hset
  have hlength := length_references_le document
  have hcollects : Collects (· ∈ references document) (Grows document []) (Entered [])
      (enterReference document (countKey "$ref" document + 1) []) :=
    collects_enterReference .nil (List.nil_subset _) (by rw [List.length_nil]; omega)
  obtain ⟨hdenotes, ⟨-, hsound⟩, hmain⟩ :=
    hcollects.readSchema document (fun _ ht => ht) [] trivial main named hread
  have hnamed : ∀ target, Entered [] target named → (named.lookup target).isSome :=
    fun target => Or.rec nofun id
  refine ⟨hdenotes, fun p hp => (hsound nofun p hp).1, fun target ht =>
    hnamed target (hmain main List.mem_cons_self target ht), fun p hp target ht =>
    hnamed target ((hsound nofun p hp).2 target ht)⟩

theorem Denotes.unique {value : Json} {s s' : Schema} (h : Denotes value s)
    (h' : Denotes value s') : s = s' :=
  (Prod.mk.inj (Except.ok.inj ((h []).symm.trans (h' [])))).1

theorem Names.unique {target : String} {s s' : Schema} (h : Names document target s)
    (h' : Names document target s') : s = s' := by
  obtain ⟨value, hvalue, hs⟩ := h
  obtain ⟨value', hvalue', hs'⟩ := h'
  obtain rfl := Except.ok.inj (hvalue.symm.trans hvalue')
  exact hs.unique hs'

section Resolved

variable {main : Schema} {here there : List (String × Schema)}

theorem Resolved.namesAlike (h : Resolved document main here) (h' : Resolved document main there)
    {target : String} (ht : (here.lookup target).isSome) (ht' : (there.lookup target).isSome) :
    ∃ schema, NamesAlike here there target schema := by
  obtain ⟨s, hs⟩ := Option.isSome_iff_exists.1 ht
  obtain ⟨s', hs'⟩ := Option.isSome_iff_exists.1 ht'
  obtain rfl : s = s' := (h.names _ (AgreeOn.mem_of_lookup hs)).unique
    (h'.names _ (AgreeOn.mem_of_lookup hs'))
  exact ⟨s, hs, hs'⟩

/-- Whichever schemas are collected for the references of a document, and whatever meaning is found
for them, a value has the same failures. -/
theorem Resolved.judge_unique (h : Resolved document main here) (h' : Resolved document main there)
    {a b : String → Judge} (ha : Means here a) (hb : Means there b) :
    main.judge a = main.judge b := by
  have hinward : Inward fun _ _ => True := ⟨fun _ _ => trivial, fun _ _ => trivial⟩
  have hclosed : ∀ target schema, NamesAlike here there target schema →
      ∀ other, schema.Mentions other → ∃ schema', NamesAlike here there other schema' :=
    fun _ _ hnames _ hother => h.namesAlike h'
      (h.closed _ (AgreeOn.mem_of_lookup hnames.1) _ hother)
      (h'.closed _ (AgreeOn.mem_of_lookup hnames.2) _ hother)
  funext s v
  refine Schema.judge_congr hinward main (fun target ht s v _ => ?_) s v trivial
  obtain ⟨schema, hnames⟩ := h.namesAlike h' (h.main _ ht) (h'.main _ ht)
  exact ha.unique hb hclosed hnames s v

end Resolved

end Documents

end ConformanceSuite.JsonSchema
