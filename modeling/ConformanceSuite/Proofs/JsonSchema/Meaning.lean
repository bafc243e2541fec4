import Mathlib.Data.List.Basic
import ConformanceSuite.JsonSchema.Judgement

/-!
# What schemas mean

A reference means what the schema that it names means; one that comes back to itself on the same
value adds nothing. Judges follow references a bounded number of times, but the bound is never
reached: below a spot only as many references can be entered as there are named schemas, and going
to a child makes the value shallower. So the failures of a value are those of the one meaning that
is not bounded: `SchemaSet.failures_eq`.
-/

namespace ConformanceSuite.JsonSchema

/-! ### Parts of schemas -/

/-- The schemas of which a keyword is made. -/
def Keyword.parts : Keyword → List Schema
  | .properties known => known.map Prod.snd
  | .patternProperties patterns => patterns.map Prod.snd
  | .onlyProperties known patterns others =>
    known.map Prod.snd ++ patterns.map Prod.snd ++ others.toList
  | .items each => [each]
  | .leadingItems schemas => schemas
  | .furtherItems _ others => others.toList
  | .dependencies triggers => triggers.map Prod.snd
  | .allOf schemas => schemas
  | .anyOf schemas => schemas
  | .oneOf schemas => schemas
  | .not _ schema => [schema]
  | _ => []

/-- A schema mentions a reference, itself or in a part of one of its keywords. -/
inductive Schema.Mentions : Schema → String → Prop
  | here {target : String} : Mentions (.reference target) target
  | part {keywords : List Keyword} {k : Keyword} {s : Schema} {target : String}
      (keyword : k ∈ keywords) (part : s ∈ k.parts) (mentions : s.Mentions target) :
      Mentions (.all keywords) target

/-- A property of constants and references, and of keywords if their parts have it. -/
structure Hereditary (P : Schema → Prop) : Prop where
  constant : ∀ allowed, P (.constant allowed)
  reference : ∀ target, P (.reference target)
  all : ∀ keywords, (∀ k ∈ keywords, ∀ s ∈ k.parts, P s) → P (.all keywords)

namespace Hereditary

variable {P : Schema → Prop}

mutual

/-- A hereditary property is one of every schema. -/
theorem holds (h : Hereditary P) : ∀ s, P s
  | .constant allowed => h.constant allowed
  | .reference target => h.reference target
  | .all keywords => h.all keywords (h.keywords keywords)

theorem keywords (h : Hereditary P) : ∀ keywords : List Keyword, ∀ k ∈ keywords, ∀ s ∈ k.parts, P s
  | [] => nofun
  | k :: rest => List.forall_mem_cons.2 ⟨h.keyword k, h.keywords rest⟩

theorem keyword (h : Hereditary P) : ∀ k : Keyword, ∀ s ∈ k.parts, P s
  | .properties known => h.named known
  | .patternProperties patterns => h.patterns patterns
  | .onlyProperties known patterns others => List.forall_mem_append.2
    ⟨List.forall_mem_append.2 ⟨h.named known, h.patterns patterns⟩, h.optional others⟩
  | .items each => List.forall_mem_singleton.2 (h.holds each)
  | .leadingItems schemas => h.schemas schemas
  | .furtherItems _ others => h.optional others
  | .dependencies triggers => h.named triggers
  | .allOf schemas => h.schemas schemas
  | .anyOf schemas => h.schemas schemas
  | .oneOf schemas => h.schemas schemas
  | .not _ schema => List.forall_mem_singleton.2 (h.holds schema)
  | .kinds _ | .values _ | .bound _ _ _ | .multipleOf _ | .size _ _ _ | .required _
  | .pattern _ _ | .format _ _ | .uniqueItems | .noProperties => nofun

theorem schemas (h : Hereditary P) : ∀ schemas : List Schema, ∀ s ∈ schemas, P s
  | [] => nofun
  | s :: rest => List.forall_mem_cons.2 ⟨h.holds s, h.schemas rest⟩

theorem named (h : Hereditary P) : ∀ named : List (String × Schema), ∀ s ∈ named.map Prod.snd, P s
  | [] => nofun
  | (_, s) :: rest => List.forall_mem_cons.2 ⟨h.holds s, h.named rest⟩

theorem patterns (h : Hereditary P) :
    ∀ patterns : List (Pattern.Node × Schema), ∀ s ∈ patterns.map Prod.snd, P s
  | [] => nofun
  | (_, s) :: rest => List.forall_mem_cons.2 ⟨h.holds s, h.patterns rest⟩

theorem optional (h : Hereditary P) : ∀ others : Option Schema, ∀ s ∈ others.toList, P s
  | none => nofun
  | some s => List.forall_mem_singleton.2 (h.holds s)

end

end Hereditary

/-! ### Judges of lists -/

section Lists

variable (follow : String → Judge)

theorem keywordJudges_eq (keywords : List Keyword) :
    keywordJudges follow keywords = keywords.map (·.judge follow) := by
  induction keywords with
  | nil => rfl
  | cons k rest ih => rw [keywordJudges, ih, List.map_cons]

theorem judges_eq (schemas : List Schema) :
    judges follow schemas = schemas.map (·.judge follow) := by
  induction schemas with
  | nil => rfl
  | cons s rest ih => rw [judges, ih, List.map_cons]

theorem namedJudges_eq (known : List (String × Schema)) :
    namedJudges follow known = known.map fun p => (p.1, p.2.judge follow) := by
  induction known with
  | nil => rfl
  | cons p rest ih => rw [namedJudges, ih, List.map_cons]

theorem patternJudges_eq (patterns : List (Pattern.Node × Schema)) :
    patternJudges follow patterns = patterns.map fun p => (p.1, p.2.judge follow) := by
  induction patterns with
  | nil => rfl
  | cons p rest ih => rw [patternJudges, ih, List.map_cons]

theorem optionalJudge_eq (others : Option Schema) :
    optionalJudge follow others = others.map (·.judge follow) := by
  cases others <;> rfl

end Lists

/-! ### Agreement -/

theorem mem_of_findMember? {members : List (String × Json)} {key : String} {v : Json}
    (h : Json.findMember? key members = some v) : (key, v) ∈ members := by
  induction members with
  | nil => cases h
  | cons m rest ih =>
    rw [Json.findMember?] at h
    split at h
    · rename_i hkey
      obtain rfl := Option.some.inj h
      exact hkey ▸ List.mem_cons_self
    · exact List.mem_cons_of_mem _ (ih h)

/-- A set of values with their spots that holds with a value also its children. -/
structure Inward (R : Spot → Json → Prop) : Prop where
  member : ∀ {s members key v}, R s (.object members) → (key, v) ∈ members → R (s.child key) v
  item : ∀ {s items step v}, R s (.array items) → v ∈ items → R (s.child step) v

/-- Two judges agree on a set of values with their spots. -/
def AgreeOn (R : Spot → Json → Prop) (a b : Judge) : Prop := ∀ s v, R s v → a s v = b s v

namespace AgreeOn

variable {R : Spot → Json → Prop} {α κ : Type} {a b : α → Judge}

theorem refl (judge : Judge) : AgreeOn R judge judge := fun _ _ _ => rfl

theorem allOf {l : List α} (h : ∀ x ∈ l, AgreeOn R (a x) (b x)) :
    AgreeOn R (.allOf (l.map a)) (.allOf (l.map b)) := by
  intro s v hv
  simp only [Judge.allOf, List.flatMap_map]
  exact List.flatMap_congr fun x hx => h x hx s v hv

theorem map_allows {l : List α} (h : ∀ x ∈ l, AgreeOn R (a x) (b x)) {s : Spot} {v : Json}
    (hv : R s v) : (l.map a).map (·.allows s v) = (l.map b).map (·.allows s v) := by
  simp only [List.map_map]
  refine List.map_congr_left fun x hx => ?_
  simp only [Function.comp_apply, Judge.allows, h x hx s v hv]

theorem anyOf {l : List α} (h : ∀ x ∈ l, AgreeOn R (a x) (b x)) :
    AgreeOn R (.anyOf (l.map a)) (.anyOf (l.map b)) := by
  intro s v hv
  have hany : ∀ judges : List Judge,
      judges.any (·.allows s v) = (judges.map (·.allows s v)).any id := fun judges => by
    rw [List.any_map]
    rfl
  rw [Judge.anyOf, Judge.anyOf, hany, hany, map_allows h hv]

/-- One of several judges is decided by how many of them allow the value. -/
theorem oneOf_eq (judges : List Judge) (s : Spot) (v : Json) :
    Judge.oneOf judges s v = match (judges.map (·.allows s v)).count true with
      | 0 => s.fail (.oneOfNone v)
      | 1 => []
      | _ => s.fail (.oneOfMany v) := by
  have hcount : (judges.map (·.allows s v)).count true =
      (judges.filter (·.allows s v)).length := by
    rw [List.count, List.countP_map, List.countP_eq_length_filter]
    congr 2
    funext judge
    simp
  rw [Judge.oneOf, hcount]
  generalize judges.filter (·.allows s v) = allowing
  rcases allowing with - | ⟨first, - | ⟨second, rest⟩⟩ <;> rfl

theorem oneOf {l : List α} (h : ∀ x ∈ l, AgreeOn R (a x) (b x)) :
    AgreeOn R (.oneOf (l.map a)) (.oneOf (l.map b)) := by
  intro s v hv
  rw [oneOf_eq, oneOf_eq, map_allows h hv]

theorem not {j k : Judge} (h : AgreeOn R j k) (source : Json) :
    AgreeOn R (.not source j) (.not source k) := by
  intro s v hv
  rw [Judge.not, Judge.not, Judge.allows, Judge.allows, h s v hv]

theorem dependencies {l : List (String × α)} (h : ∀ p ∈ l, AgreeOn R (a p.2) (b p.2)) :
    AgreeOn R (.dependencies (l.map fun p => (p.1, a p.2)))
      (.dependencies (l.map fun p => (p.1, b p.2))) := by
  intro s v hv
  simp only [Judge.dependencies, List.flatMap_map]
  exact List.flatMap_congr fun p hp => by rw [h p hp s v hv]

theorem properties (hR : Inward R) {l : List (String × α)}
    (h : ∀ p ∈ l, AgreeOn R (a p.2) (b p.2)) :
    AgreeOn R (.properties (l.map fun p => (p.1, a p.2)))
      (.properties (l.map fun p => (p.1, b p.2))) := by
  intro s v hv
  simp only [Judge.properties, List.flatMap_map]
  refine List.flatMap_congr fun p hp => ?_
  cases hget : v.get? p.1 with
  | none => rfl
  | some child =>
    cases v with
    | object members => exact h p hp _ _ (hR.member hv (mem_of_findMember? hget))
    | _ => cases hget

theorem byPatterns {l : List (Pattern.Node × α)} (h : ∀ p ∈ l, AgreeOn R (a p.2) (b p.2))
    {s : Spot} {m : String × Json} (hm : R (s.child m.1) m.2) :
    Judge.byPatterns (l.map fun p => (p.1, a p.2)) s m =
      Judge.byPatterns (l.map fun p => (p.1, b p.2)) s m := by
  simp only [Judge.byPatterns, List.flatMap_map, Judge.member]
  exact List.flatMap_congr fun p hp => by rw [h p hp _ _ hm]

theorem patternProperties (hR : Inward R) {l : List (Pattern.Node × α)}
    (h : ∀ p ∈ l, AgreeOn R (a p.2) (b p.2)) :
    AgreeOn R (.patternProperties (l.map fun p => (p.1, a p.2)))
      (.patternProperties (l.map fun p => (p.1, b p.2))) := by
  intro s v hv
  simp only [Judge.patternProperties, List.flatMap_map]
  refine List.flatMap_congr fun p hp => ?_
  cases v with
  | object members =>
    exact List.flatMap_congr fun m hm => byPatterns (l := [p])
      (List.forall_mem_singleton.2 (h p hp)) (hR.member hv hm)
  | _ => rfl

theorem lookup_map {l : List (String × α)} (a : α → Judge) (key : String) :
    (l.map fun p => (p.1, a p.2)).lookup key = (l.lookup key).map a := by
  induction l with
  | nil => rfl
  | cons p rest ih =>
    rw [List.map_cons, List.lookup_cons, List.lookup_cons, ih]
    split <;> rfl

theorem mem_of_lookup {l : List (String × α)} {key : String} {x : α}
    (h : l.lookup key = some x) : (key, x) ∈ l := by
  obtain ⟨front, back, rfl, -⟩ := List.lookup_eq_some_iff.1 h
  exact List.mem_append_right _ List.mem_cons_self

theorem isKnown_map (known : List (String × α)) (patterns : List (Pattern.Node × κ))
    (a : α → Judge) (b : κ → Judge) (key : String) :
    Judge.isKnown (known.map fun p => (p.1, a p.2)) (patterns.map fun p => (p.1, b p.2)) key =
      ((known.lookup key).isSome || patterns.any fun p => p.1.foundIn key) := by
  rw [Judge.isKnown, lookup_map, Option.isSome_map, List.any_map]
  rfl

theorem onlyProperties (hR : Inward R) {known : List (String × α)}
    {patterns : List (Pattern.Node × α)} {others : Option α}
    (hknown : ∀ p ∈ known, AgreeOn R (a p.2) (b p.2))
    (hpatterns : ∀ p ∈ patterns, AgreeOn R (a p.2) (b p.2))
    (hothers : ∀ x ∈ others, AgreeOn R (a x) (b x)) :
    AgreeOn R
      (.onlyProperties (known.map fun p => (p.1, a p.2)) (patterns.map fun p => (p.1, a p.2))
        (others.map a))
      (.onlyProperties (known.map fun p => (p.1, b p.2)) (patterns.map fun p => (p.1, b p.2))
        (others.map b)) := by
  intro s v hv
  simp only [Judge.onlyProperties, isKnown_map, Judge.strangers, Option.isSome_map]
  congr 1
  refine List.flatMap_congr fun m hm => ?_
  have hchild : R (s.child m.1) m.2 := by
    cases v with
    | object members => exact hR.member hv hm
    | _ => cases hm
  unfold Judge.knownOrOther
  rw [byPatterns hpatterns hchild, lookup_map, lookup_map]
  simp only [isKnown_map]
  congr 1
  · cases hlookup : known.lookup m.1 with
    | none => rfl
    | some x => exact congrArg (· ++ _) (hknown _ (mem_of_lookup hlookup) _ _ hchild)
  · cases others with
    | none => rfl
    | some x =>
      have hx : (a x).member s m = (b x).member s m := hothers x rfl _ _ hchild
      simp only [Option.map_some, hx]

theorem itemsFrom {j k : Judge} (h : AgreeOn R j k) {s : Spot} {items : List Json}
    (hitems : ∀ x ∈ items, ∀ step, R (s.child step) x) (i : Nat) :
    j.itemsFrom s i items = k.itemsFrom s i items := by
  induction items generalizing i with
  | nil => rfl
  | cons x rest ih =>
    obtain ⟨hx, hrest⟩ := List.forall_mem_cons.1 hitems
    rw [Judge.itemsFrom, Judge.itemsFrom, h _ _ (hx _), ih hrest]

theorem items_inward (hR : Inward R) {s : Spot} {v : Json} (hv : R s v) :
    ∀ x ∈ v.array?.getD [], ∀ step, R (s.child step) x := by
  intro x hx step
  cases v with
  | array items => exact hR.item hv hx
  | _ => cases hx

theorem items (hR : Inward R) {j k : Judge} (h : AgreeOn R j k) :
    AgreeOn R (.items j) (.items k) :=
  fun _ _ hv => itemsFrom h (items_inward hR hv) 0

theorem leadingItems (hR : Inward R) {l : List α} (h : ∀ x ∈ l, AgreeOn R (a x) (b x)) :
    AgreeOn R (.leadingItems (l.map a)) (.leadingItems (l.map b)) := by
  intro s v hv
  simp only [Judge.leadingItems, List.zip_map_left, List.zipIdx_map, List.flatMap_map]
  refine List.flatMap_congr fun p hp => ?_
  have hpair := List.of_mem_zip (List.fst_mem_of_mem_zipIdx hp)
  exact h _ hpair.1 _ _ (items_inward hR hv _ hpair.2 _)

theorem furtherItems (hR : Inward R) (leading : Nat) {others : Option α}
    (h : ∀ x ∈ others, AgreeOn R (a x) (b x)) :
    AgreeOn R (.furtherItems leading (others.map a)) (.furtherItems leading (others.map b)) := by
  intro s v hv
  cases others with
  | none => rfl
  | some x =>
    exact itemsFrom (h x rfl) (fun y hy => items_inward hR hv y (List.mem_of_mem_drop hy)) leading

end AgreeOn

variable {R : Spot → Json → Prop} {f g : String → Judge}

/-- What a keyword means depends on what its parts mean. -/
theorem Keyword.judge_congr (hR : Inward R) {k : Keyword}
    (h : ∀ s ∈ k.parts, AgreeOn R (s.judge f) (s.judge g)) :
    AgreeOn R (k.judge f) (k.judge g) := by
  have hpairs : ∀ {α : Type} {l : List (α × Schema)},
      (∀ s ∈ l.map Prod.snd, AgreeOn R (s.judge f) (s.judge g)) →
      ∀ p ∈ l, AgreeOn R (p.2.judge f) (p.2.judge g) := fun hl p hp =>
    hl _ (List.mem_map_of_mem hp)
  cases k with
  | properties known =>
    simp only [Keyword.judge, namedJudges_eq]
    exact .properties hR (hpairs h)
  | patternProperties patterns =>
    simp only [Keyword.judge, patternJudges_eq]
    exact .patternProperties hR (hpairs h)
  | onlyProperties known patterns others =>
    obtain ⟨hboth, hothers⟩ := List.forall_mem_append.1 h
    obtain ⟨hknown, hpatterns⟩ := List.forall_mem_append.1 hboth
    simp only [Keyword.judge, namedJudges_eq, patternJudges_eq, optionalJudge_eq]
    exact .onlyProperties hR (hpairs hknown) (hpairs hpatterns)
      fun x hx => hothers x (Option.mem_toList.2 hx)
  | items each =>
    simp only [Keyword.judge]
    exact .items hR (h each List.mem_cons_self)
  | leadingItems schemas =>
    simp only [Keyword.judge, judges_eq]
    exact .leadingItems hR h
  | furtherItems leading others =>
    simp only [Keyword.judge, optionalJudge_eq]
    exact .furtherItems hR leading fun x hx => h x (Option.mem_toList.2 hx)
  | dependencies triggers =>
    simp only [Keyword.judge, namedJudges_eq]
    exact .dependencies (hpairs h)
  | allOf schemas =>
    simp only [Keyword.judge, judges_eq]
    exact .allOf h
  | anyOf schemas =>
    simp only [Keyword.judge, judges_eq]
    exact .anyOf h
  | oneOf schemas =>
    simp only [Keyword.judge, judges_eq]
    exact .oneOf h
  | not source schema =>
    simp only [Keyword.judge]
    exact .not (h schema List.mem_cons_self) source
  | _ =>
    simp only [Keyword.judge]
    exact .refl _

/-- What a schema means depends on what the references that it mentions mean. -/
theorem Schema.judge_congr (hR : Inward R) (s : Schema)
    (h : ∀ target, s.Mentions target → AgreeOn R (f target) (g target)) :
    AgreeOn R (s.judge f) (s.judge g) := by
  refine Hereditary.holds (P := fun s => (∀ target, s.Mentions target →
    AgreeOn R (f target) (g target)) → AgreeOn R (s.judge f) (s.judge g)) ⟨?_, ?_, ?_⟩ s h
  · rintro (- | -) -
    · exact .refl _
    · exact .refl _
  · exact fun target h => h target .here
  · intro keywords ih h
    simp only [Schema.judge, keywordJudges_eq]
    exact .allOf fun k hk => k.judge_congr hR fun s hs =>
      ih k hk s hs fun target hs' => h target (.part hk hs hs')

/-! ### Depth -/

theorem depth_lt_of_mem_items {items : List Json} {v : Json} (h : v ∈ items) :
    v.depth < (Json.array items).depth := by
  rw [Json.depth, Nat.lt_succ_iff]
  induction items with
  | nil => cases h
  | cons x rest ih =>
    rw [Json.depthItems]
    rcases List.mem_cons.1 h with rfl | h
    · exact Nat.le_max_left _ _
    · exact Nat.le_trans (ih h) (Nat.le_max_right _ _)

theorem depth_lt_of_mem_members {members : List (String × Json)} {key : String} {v : Json}
    (h : (key, v) ∈ members) : v.depth < (Json.object members).depth := by
  rw [Json.depth, Nat.lt_succ_iff]
  induction members with
  | nil => cases h
  | cons m rest ih =>
    obtain ⟨other, x⟩ := m
    rw [Json.depthMembers]
    rcases List.mem_cons.1 h with h | h
    · obtain ⟨-, rfl⟩ := Prod.mk.inj h
      exact Nat.le_max_left _ _
    · exact Nat.le_trans (ih h) (Nat.le_max_right _ _)

/-! ### References -/

/-- References mean what the schemas that they name mean, or nothing under themselves. -/
structure Means (named : List (String × Schema)) (meaning : String → Judge) : Prop where
  again : ∀ target s v, target ∈ s.entered → meaning target s v = []
  first : ∀ target schema s v, target ∉ s.entered → named.lookup target = some schema →
    meaning target s v = schema.judge meaning { s with entered := target :: s.entered } v

/-- The named schemas that are not being judged at a spot. -/
def unentered (named : List (String × Schema)) (s : Spot) : List (String × Schema) :=
  named.filter fun p => !s.entered.contains p.1

/-- More references than can be entered in a row from a value at a spot, in it or in its
children. -/
def reach (named : List (String × Schema)) (s : Spot) (v : Json) : Nat :=
  v.depth * (named.length + 1) + (unentered named s).length + 1

section Reach

variable {named : List (String × Schema)} {s : Spot} {v : Json}

theorem reach_child (step : String) {child : Json} (h : child.depth < v.depth) :
    reach named (s.child step) child < reach named s v := by
  have hunentered : (unentered named (s.child step)).length ≤ named.length :=
    List.length_filter_le _ _
  have hdepth : (child.depth + 1) * (named.length + 1) ≤ v.depth * (named.length + 1) :=
    Nat.mul_le_mul_right _ h
  rw [Nat.add_mul, Nat.one_mul] at hdepth
  rw [reach, reach]
  omega

theorem reach_enter {target : String} {schema : Schema} (hnew : target ∉ s.entered)
    (hnamed : named.lookup target = some schema) :
    reach named { s with entered := target :: s.entered } v < reach named s v := by
  have hfilter : unentered named { s with entered := target :: s.entered } =
      (unentered named s).filter (·.1 ≠ target) := by
    rw [unentered, unentered, List.filter_filter]
    refine List.filter_congr fun p _ => ?_
    by_cases hp : p.1 = target <;> simp [hp]
  have hmem : (target, schema) ∈ unentered named s :=
    List.mem_filter.2 ⟨AgreeOn.mem_of_lookup hnamed, by simpa using hnew⟩
  have hlt : ((unentered named s).filter (·.1 ≠ target)).length < (unentered named s).length :=
    List.length_filter_lt_length_iff_exists.2 ⟨_, hmem, by simp⟩
  rw [reach, reach, hfilter]
  omega

theorem inward_reach (n : Nat) : Inward fun s v => reach named s v < n where
  member hv hm := Nat.lt_trans (reach_child _ (depth_lt_of_mem_members hm)) hv
  item hv hx := Nat.lt_trans (reach_child _ (depth_lt_of_mem_items hx)) hv

end Reach

/-- A reference names a schema both here and there. -/
def NamesAlike (here there : List (String × Schema)) (target : String) (schema : Schema) : Prop :=
  here.lookup target = some schema ∧ there.lookup target = some schema

/-- References that name the same schemas, as do those that these mention, have no more than one
meaning. -/
theorem Means.unique {here there : List (String × Schema)} {a b : String → Judge}
    (ha : Means here a) (hb : Means there b)
    (hclosed : ∀ target schema, NamesAlike here there target schema →
      ∀ other, schema.Mentions other → ∃ schema', NamesAlike here there other schema')
    {target : String} {schema : Schema} (hnames : NamesAlike here there target schema)
    (s : Spot) (v : Json) :
    a target s v = b target s v := by
  induction hn : reach here s v using Nat.strongRecOn generalizing target schema s v with
  | ind n ih =>
    by_cases hentered : target ∈ s.entered
    · rw [ha.again _ _ _ hentered, hb.again _ _ _ hentered]
    · rw [ha.first _ _ _ _ hentered hnames.1, hb.first _ _ _ _ hentered hnames.2]
      refine Schema.judge_congr (inward_reach n) schema (fun other hother => ?_) _ _
        (hn ▸ reach_enter hentered hnames.1)
      intro s' v' hlt
      obtain ⟨schema', hnames'⟩ := hclosed _ _ hnames _ hother
      exact ih _ hlt hnames' s' v' rfl

namespace SchemaSet

variable (set : SchemaSet)

/-- Following references further than they reach changes nothing. -/
theorem follow_congr {n m : Nat} {target : String} {s : Spot} {v : Json}
    (hn : reach set.named s v ≤ n) (hm : reach set.named s v ≤ m) :
    set.follow n target s v = set.follow m target s v := by
  induction n generalizing m target s v with
  | zero => cases hn
  | succ n ih =>
    obtain ⟨m, rfl⟩ := Nat.exists_eq_succ_of_ne_zero (Nat.ne_zero_of_lt hm)
    rw [follow, follow]
    by_cases hentered : target ∈ s.entered
    · simp [hentered]
    · cases hschema : set.named.lookup target with
      | none => simp
      | some schema =>
        have hless := reach_enter (v := v) hentered hschema
        simp only [List.contains_iff_mem, hentered, if_false]
        refine Schema.judge_congr (inward_reach (reach set.named s v)) schema
          (fun other _ => ?_) _ _ hless
        intro s' v' hlt
        exact ih (by omega) (by omega)

/-- What references mean, followed as far as they reach. -/
def meaning : String → Judge := fun target s v => set.follow (reach set.named s v) target s v

theorem means_meaning : Means set.named set.meaning where
  again target s v h := by
    rw [meaning, reach, follow]
    simp [h]
  first target schema s v hnew hschema := by
    have hless := reach_enter (v := v) hnew hschema
    obtain ⟨n, hn⟩ : ∃ n, reach set.named s v = n + 1 := ⟨_, rfl⟩
    rw [meaning, hn, follow]
    simp only [List.contains_iff_mem, hnew, if_false, hschema]
    refine Schema.judge_congr (inward_reach (n + 1)) schema (fun other _ s' v' hlt => ?_) _ _
      (hn ▸ hless)
    rw [meaning]
    exact set.follow_congr (Nat.lt_succ_iff.1 hlt) (Nat.le_refl _)

/-- The failures of a value are those of the main schema, with references that mean what the schemas
that they name mean: the bound on their number is out of their reach. -/
theorem failures_eq (v : Json) : set.failures v = set.main.judge set.meaning .whole v := by
  have hwhole : reach set.named .whole v = (v.depth + 1) * (set.named.length + 1) := by
    have hunentered : unentered set.named .whole = set.named := by simp [unentered, Spot.whole]
    rw [reach, hunentered, Nat.add_mul, Nat.one_mul, Nat.add_assoc]
  rw [failures, ← hwhole]
  refine Schema.judge_congr (inward_reach (reach set.named .whole v + 1)) set.main
    (fun target _ s' v' hlt => ?_) _ _ (Nat.lt_succ_self _)
  rw [meaning]
  exact set.follow_congr (by omega) (Nat.le_refl _)

end SchemaSet

end ConformanceSuite.JsonSchema
