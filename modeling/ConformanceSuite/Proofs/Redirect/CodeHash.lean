import ConformanceSuite.Redirect.IdToken

/-!
# The hash that binds a code

An algorithm is supported if its name is one of four families followed by the size of a digest, and
the hash of a code is the text of the left half of that digest: `codeHash?_eq_some_iff`. What a
token claims is a member of its payload, which need not be there and need not be a text.
-/

namespace ConformanceSuite

namespace Sha2

theorem length_toBytes (count n : Nat) : (toBytes count n).length = count := by
  induction count generalizing n with
  | zero => rfl
  | succ count ih => simp [toBytes, ih]

/-- A digest has the bytes of eight words. -/
theorem length_hash {w : Nat} (p : Parameters w) (initial : State w) (message : List UInt8) :
    (hash p initial message).length = 8 * (w / 8) := by
  simp only [hash, State.words, List.flatMap_cons, List.flatMap_nil, List.length_append,
    length_toBytes, List.length_nil]
  omega

end Sha2

namespace Json

/-- A text under a name is a member with that name that is a text. -/
theorem stringAt?_eq_some_iff {value : Json} {name text : String} :
    value.stringAt? name = some text ↔ value.get? name = some (.string text) := by
  unfold stringAt?
  cases value.get? name with
  | none => simp
  | some member => cases member <;> simp [string?]

end Json

namespace Redirect

/-- The families of signature algorithms. -/
def families : List String := ["HS", "RS", "ES", "PS"]

/-- The size of a digest in bits. -/
def Digest.bits : Digest → Nat
  | .sha256 => 256
  | .sha384 => 384
  | .sha512 => 512

/-- An algorithm is a family with a digest: its name is theirs, one behind the other. -/
def Supported (algorithm : String) (d : Digest) : Prop :=
  ∃ family ∈ families, algorithm = family ++ toString d.bits

/-- The text that binds a code: the left half of its digest in base64, URL-safe and unpadded. -/
def boundHash (d : Digest) (code : String) : String :=
  asciiText (Base64.encode .urlSafe false ((d.of (Json.bytesOf code)).take (d.bits / 16)))

/-- The member of a token's payload with a name, if the token has a payload with such a member. -/
def claim? (token name : String) : Option Json :=
  (segments? (Json.bytesOf token)).bind fun s =>
    (segmentObject .payload s.2).toOption.bind (·.get? name)

/-- A token claims the hash that binds a code. -/
def BindsCode (token code : String) (d : Digest) : Prop :=
  claim? token "c_hash" = some (.string (boundHash d code))

theorem Digest.length_of (d : Digest) (message : List UInt8) :
    (d.of message).length = d.bits / 8 := by
  cases d with
  | sha256 => exact Sha2.length_hash _ _ _
  | sha384 => simp [Digest.of, Sha2.sha384, Sha2.length_hash, bits]
  | sha512 => exact Sha2.length_hash _ _ _

/-- The table of algorithms has the supported ones and no other. -/
theorem lookup_algorithms_eq_some_iff {algorithm : String} {d : Digest} :
    algorithms.lookup algorithm = some d ↔ Supported algorithm d := by
  constructor
  · intro h
    obtain ⟨front, back, hsplit, -⟩ := List.lookup_eq_some_iff.1 h
    have hmem : (algorithm, d) ∈ algorithms := by simp [hsplit]
    simp only [algorithms, List.mem_cons, Prod.mk.injEq, List.not_mem_nil, or_false] at hmem
    unfold Supported families
    -- twelve rows, each a family with a size
    rcases hmem with ⟨rfl, rfl⟩ | ⟨rfl, rfl⟩ | ⟨rfl, rfl⟩ | ⟨rfl, rfl⟩ | ⟨rfl, rfl⟩ | ⟨rfl, rfl⟩ |
      ⟨rfl, rfl⟩ | ⟨rfl, rfl⟩ | ⟨rfl, rfl⟩ | ⟨rfl, rfl⟩ | ⟨rfl, rfl⟩ | ⟨rfl, rfl⟩ <;> decide
  · rintro ⟨family, hfamily, rfl⟩
    simp only [families, List.mem_cons, List.not_mem_nil, or_false] at hfamily
    rcases hfamily with rfl | rfl | rfl | rfl <;> cases d <;> decide

/-- The hash of a code under a supported algorithm. -/
theorem codeHash?_eq_some_iff {algorithm code hash : String} :
    codeHash? algorithm code = some hash ↔
      ∃ d, Supported algorithm d ∧ hash = boundHash d code := by
  have hhalf : ∀ d : Digest, leftHalf (d.of (Json.bytesOf code)) =
      (d.of (Json.bytesOf code)).take (d.bits / 16) := fun d => by
    rw [leftHalf, d.length_of, Nat.div_div_eq_div_mul]
  simp only [codeHash?, Option.map_eq_some_iff, lookup_algorithms_eq_some_iff, hhalf, boundHash]
  exact exists_congr fun d => and_congr_right fun _ => eq_comm

theorem codeHash?_eq_none_iff {algorithm code : String} :
    codeHash? algorithm code = none ↔ ∀ d, ¬ Supported algorithm d := by
  simp [Option.eq_none_iff_forall_ne_some, codeHash?, ← lookup_algorithms_eq_some_iff]

/-- A token can be read if its first two segments hold objects and the first names an algorithm. -/
theorem IdToken.ofString_eq_ok_iff {text : String} {token : IdToken} :
    IdToken.ofString text = .ok token ↔
      ∃ first second header payload, segments? (Json.bytesOf text) = some (first, second) ∧
        segmentObject .header first = .ok header ∧ segmentObject .payload second = .ok payload ∧
        header.stringAt? "alg" = some token.algorithm ∧
        token.codeHash = payload.stringAt? "c_hash" := by
  unfold IdToken.ofString
  constructor
  · intro h
    cases hs : segments? (Json.bytesOf text) with
    | none => simp [hs] at h
    | some segments =>
      obtain ⟨first, second⟩ := segments
      simp only [hs, bind, Except.bind] at h
      cases hheader : segmentObject .header first with
      | error e => simp [hheader] at h
      | ok header =>
        cases hpayload : segmentObject .payload second with
        | error e => simp [hheader, hpayload] at h
        | ok payload =>
          cases halg : header.stringAt? "alg" with
          | none => simp [hheader, hpayload, halg] at h
          | some algorithm =>
            simp only [hheader, hpayload, halg, Except.ok.injEq] at h
            subst h
            exact ⟨first, second, header, payload, rfl, hheader, hpayload, halg, rfl⟩
  · rintro ⟨first, second, header, payload, hs, hheader, hpayload, halg, hhash⟩
    obtain ⟨algorithm, codeHash⟩ := token
    subst hhash
    simp only [hs, hheader, hpayload, bind, Except.bind, halg]

/-- A token that can be read says what its payload claims, if that is a text. -/
theorem IdToken.codeHash_eq_some_iff {text hash : String} {token : IdToken}
    (h : IdToken.ofString text = .ok token) :
    token.codeHash = some hash ↔ claim? text "c_hash" = some (.string hash) := by
  obtain ⟨first, second, header, payload, hs, -, hpayload, -, hhash⟩ :=
    IdToken.ofString_eq_ok_iff.1 h
  have hclaim : claim? text "c_hash" = payload.get? "c_hash" := by
    simp [claim?, hs, hpayload, Except.toOption]
  rw [hhash, hclaim, Json.stringAt?_eq_some_iff]

/-- The hash of a code is a function of the algorithm. -/
theorem Supported.digest_unique {algorithm : String} {d d' : Digest} (h : Supported algorithm d)
    (h' : Supported algorithm d') : d = d' := by
  rw [← lookup_algorithms_eq_some_iff] at h h'
  exact Option.some.inj (h.symm.trans h')

end Redirect

end ConformanceSuite
