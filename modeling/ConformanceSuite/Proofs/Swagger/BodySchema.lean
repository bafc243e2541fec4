import ConformanceSuite.Proofs.Json.Leaves
import ConformanceSuite.Proofs.JsonSchema.Reading
import ConformanceSuite.Proofs.Text.Split
import ConformanceSuite.Swagger.Operation

/-!
# Schemas between definitions

The schema of a response is compiled together with the definitions of its document. A body is judged
by what the schema itself denotes, and its references mean what the definitions that they name
denote: `failures_of_compile`.
-/

namespace ConformanceSuite

namespace Text

theorem percentDecode_of_notMem {bytes : List UInt8} (h : 0x25 ∉ bytes) :
    percentDecode bytes = bytes := by
  induction bytes with
  | nil => rfl
  | cons b rest ih =>
    obtain ⟨hb, hrest⟩ : 0x25 ≠ b ∧ 0x25 ∉ rest := by simpa using h
    rw [percentDecode.eq_2 _ _ (by rintro _ _ _ rfl; exact absurd rfl hb), ih hrest]

theorem percentDecode_utf8 {cs : List Char} (h : '%' ∉ cs) :
    percentDecode (Json.utf8 cs) = Json.utf8 cs := by
  refine percentDecode_of_notMem fun hmem => ?_
  obtain ⟨c, hc, hbyte⟩ := List.mem_flatMap.1 hmem
  exact h (Json.eq_of_mem_utf8EncodeChar (by decide) hbyte ▸ hc)

end Text

namespace JsonSchema

theorem unescapeStep_of_notMem {cs : List Char} (h : '~' ∉ cs) : unescapeStep cs = cs := by
  induction cs with
  | nil => rfl
  | cons c rest ih =>
    obtain ⟨hc, hrest⟩ : '~' ≠ c ∧ '~' ∉ rest := by simpa using h
    rw [unescapeStep.eq_3 _ _ (by rintro _ rfl; exact absurd rfl hc)
      (by rintro _ rfl; exact absurd rfl hc), ih hrest]

theorem child?_object {members : List (String × Json)} {key : String} (h : '~' ∉ key.toList) :
    child? (.object members) key.toList = Json.findMember? key members := by
  rw [child?, unescapeStep_of_notMem h, String.ofList_toList]

/-- A reference to a definition names it, if no character of its name is written otherwise. -/
theorem resolve_definition {members definitions : List (String × Json)} {name : String}
    {value : Json} (hmember : Json.findMember? "definitions" members = some (.object definitions))
    (hplain : ∀ c ∈ ['/', '~', '%'], c ∉ name.toList)
    (h : resolve (.object members) ("#/definitions/" ++ name) = .ok value) :
    Json.findMember? name definitions = some value := by
  obtain ⟨hslash, htilde, hpercent⟩ : '/' ∉ name.toList ∧ '~' ∉ name.toList ∧ '%' ∉ name.toList :=
    ⟨hplain _ (by simp), hplain _ (by simp), hplain _ (by simp)⟩
  have hfragment : fragmentOf ("#/definitions/" ++ name) =
      '/' :: ("definitions".toList ++ '/' :: name.toList) := by
    rw [fragmentOf, String.toList_append]
    rfl
  have hdecoded : '%' ∉ "definitions".toList ++ '/' :: name.toList := by
    simp [hpercent]
  have hsteps : Text.splitAll '/' ("definitions".toList ++ '/' :: name.toList) =
      ["definitions".toList, name.toList] := by
    rw [Text.splitAll_append_cons, Text.splitAll_of_notMem hslash]
    rfl
  have htext := Json.textOfBytes?_utf8 ("definitions".toList ++ '/' :: name.toList)
  rw [Json.textOfBytes?] at htext
  simp only [resolve, hfragment, Json.bytesOf_ofList, Text.percentDecode_utf8 hdecoded, htext,
    String.toList_ofList, hsteps] at h
  have hdescend : descend? (.object members) ["definitions".toList, name.toList] =
      Json.findMember? name definitions := by
    simp only [descend?, child?_object (by decide : '~' ∉ "definitions".toList), hmember,
      child?_object htilde, Option.bind_some, Option.bind_fun_some]
  rw [hdescend] at h
  cases hfind : Json.findMember? name definitions with
  | none => simp [hfind] at h
  | some found =>
    simp only [hfind, Except.ok.injEq] at h
    rw [h]

end JsonSchema

namespace Swagger

open JsonSchema

/-- A value denotes a schema among definitions, with the schemas that its references name. A
reference to a definition names what that definition denotes. -/
structure DenotesAmong (definitions schema : Json) (main : Schema)
    (named : List (String × Schema)) : Prop where
  denotes : Denotes schema main
  resolved : Resolved (.object [("definitions", definitions), ("allOf", .array [schema])]) main
    named
  defined : ∀ members name s, definitions = .object members →
    (∀ c ∈ ['/', '~', '%'], c ∉ name.toList) → named.lookup ("#/definitions/" ++ name) = some s →
    ∃ value, Json.findMember? name members = some value ∧ Denotes value s

theorem readMember_definitions (parent : List (String × Json)) (definitions : Json) (p : Parts)
    (named : Named) :
    readMember skim parent "definitions" definitions p named = .ok (p, named) := by
  cases definitions with
  | bool b => cases b <;> simp [readMember, Parts.addSimple, simpleKeyword?]
  | _ => simp [readMember, ObjectUse.ofKey, listKeyword?, Parts.addSimple, simpleKeyword?]

theorem readSchema_schemaDocument (definitions schema : Json) (named : Named) :
    readSchema skim (schemaDocument definitions schema) named = (do
      let (s, named) ← readSchema skim schema named
      .ok (.all [.allOf [s]], named)) := by
  have hschema : ∀ s, (({} : Parts).add (.allOf [s])).schema = .all [.allOf [s]] := fun _ => rfl
  have hmember : ∀ parent, readMember skim parent "allOf" (.array [schema]) {} named = (do
      let (s, named) ← readSchema skim schema named
      .ok (({} : Parts).add (.allOf [s]), named)) := fun parent => by
    cases hread : readSchema skim schema named <;>
      simp [readMember, listKeyword?, readItems, hread, bind, Except.bind]
  simp only [schemaDocument, readSchema, schemaOfObject, Json.findMember?, readMembers,
    readMember_definitions, hmember, bind, Except.bind]
  cases readSchema skim schema named <;> simp [hschema]

/-- Between definitions a schema is the only one of an empty conjunction. -/
theorem denotes_schemaDocument {definitions schema : Json} {main : Schema}
    (h : Denotes (schemaDocument definitions schema) main) :
    ∃ s, Denotes schema s ∧ main = .all [.allOf [s]] := by
  have hread : ∀ named, ∃ s, readSchema skim schema named = .ok (s, named) ∧
      main = .all [.allOf [s]] := by
    intro named
    have hnamed := h named
    rw [readSchema_schemaDocument] at hnamed
    obtain ⟨⟨s, n₁⟩, hs, hok⟩ := bind_eq_ok hnamed
    obtain ⟨rfl, rfl⟩ := Prod.mk.inj (Except.ok.inj hok)
    exact ⟨s, hs, rfl⟩
  obtain ⟨s, -, rfl⟩ := hread []
  refine ⟨s, fun named => ?_, rfl⟩
  obtain ⟨other, hother, heq⟩ := hread named
  simp only [Schema.all.injEq, List.cons.injEq, Keyword.allOf.injEq, and_true] at heq
  rw [hother, heq]

theorem judge_conjunction (meaning : String → Judge) (s : Schema) :
    (Schema.all [.allOf [s]]).judge meaning = s.judge meaning := by
  funext spot value
  simp [Schema.judge, keywordJudges, Keyword.judge, judges, Judge.allOf]

/-- The failures of a body are those that it has by what the schema of the response denotes, where
the references mean what the values denote that they name among the definitions. -/
theorem failures_of_compile {definitions schema : Json} {set : SchemaSet}
    (h : SchemaSet.compile (schemaDocument definitions schema) = .ok set) :
    ∃ main named meaning, DenotesAmong definitions schema main named ∧ Means named meaning ∧
      ∀ body, set.failures body = main.judge meaning .whole body := by
  have hread : SchemaSet.ofDocument (schemaDocument definitions schema) = .ok set := by
    unfold SchemaSet.compile at h
    split at h
    · exact h
    · cases h
  obtain ⟨hdenotes, hresolved⟩ := resolved_of_ofDocument hread
  obtain ⟨main, hmain, hset⟩ := denotes_schemaDocument hdenotes
  refine ⟨main, set.named, set.meaning, ⟨hmain, ⟨hresolved.names, fun target ht => ?_,
    hresolved.closed⟩, ?_⟩, set.means_meaning, fun body => ?_⟩
  · refine hresolved.main target ?_
    rw [hset]
    exact .part List.mem_cons_self List.mem_cons_self ht
  · rintro members name s rfl hplain hlookup
    obtain ⟨value, hvalue, hs⟩ := hresolved.names _ (AgreeOn.mem_of_lookup hlookup)
    exact ⟨value, resolve_definition rfl hplain hvalue, hs⟩
  · rw [set.failures_eq, hset, judge_conjunction]

end Swagger

end ConformanceSuite
