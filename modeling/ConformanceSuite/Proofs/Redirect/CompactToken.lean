import ConformanceSuite.Proofs.Base64
import ConformanceSuite.Proofs.Json.Leaves
import ConformanceSuite.Proofs.Json.Members
import ConformanceSuite.Proofs.Redirect.CodeHash
import ConformanceSuite.Proofs.Text.Split

/-!
# Compact tokens

A token is decoded by its first two segments. They have to be base64 of objects, in the one way in
which such bytes are written with padding or without, and the first has to name an algorithm. This
is all that is asked, `IdToken.ofString_iff_opened`, so that a text with more or with fewer than the
three segments of a compact token is decoded as well. What was encoded is decoded to what its
objects say, whichever way it is written: `IdToken.ofString_compact`.
-/

namespace ConformanceSuite.Redirect

/-! ### Segments -/

/-- The segments of a token. -/
def segmentsOf (token : String) : List String :=
  (Text.splitAll '.' token.toList).map String.ofList

theorem splitPoint_append {front : List UInt8} (h : 0x2e ∉ front) (back : List UInt8) :
    splitPoint (front ++ back) = (front ++ (splitPoint back).1, (splitPoint back).2) := by
  induction front with
  | nil => rfl
  | cons b rest ih =>
    obtain ⟨hb, hrest⟩ : 0x2e ≠ b ∧ 0x2e ∉ rest := by simpa using h
    rw [List.cons_append, splitPoint, if_neg (Ne.symm hb), ih hrest]
    rfl

/-- The byte of a point belongs to no other character. -/
theorem point_notMem_utf8EncodeChar {c : Char} (h : c ≠ '.') :
    0x2e ∉ String.utf8EncodeChar c :=
  fun hmem => h (Json.eq_of_mem_utf8EncodeChar (by decide) hmem)

theorem splitPoint_utf8 (cs : List Char) :
    splitPoint (Json.utf8 cs) =
      (Json.utf8 (Text.cut '.' cs).1, (Text.cut '.' cs).2.map Json.utf8) := by
  induction cs with
  | nil => rfl
  | cons c rest ih =>
    by_cases hc : c = '.'
    · subst hc
      have hpoint : String.utf8EncodeChar '.' = [0x2e] := by decide
      simp [hpoint, splitPoint, Text.cut]
    · rw [Json.utf8_cons, splitPoint_append (point_notMem_utf8EncodeChar hc), ih, Text.cut,
        if_neg hc]
      rfl

/-- A token has a header and a payload if it has two segments in front that are not empty. -/
theorem segments?_eq_some_iff {token : String} {first second : List UInt8} :
    segments? (Json.bytesOf token) = some (first, second) ↔
      ∃ header payload others, segmentsOf token = header :: payload :: others ∧
        header ≠ "" ∧ payload ≠ "" ∧ first = Json.bytesOf header ∧
        second = Json.bytesOf payload := by
  unfold segmentsOf segments?
  -- both sides cut the characters twice: at the first point, and behind it
  rw [Json.bytesOf_eq_utf8, splitPoint_utf8, Text.splitAll_eq_cut]
  obtain ⟨header, after⟩ := Text.cut '.' token.toList
  cases after with
  | none => simp
  | some rest =>
    simp only [Option.map_some, Option.getD_some, splitPoint_utf8, Text.splitAll_eq_cut '.' rest,
      List.map_cons, List.cons.injEq]
    constructor
    · intro h
      split_ifs at h with hempty
      simp only [Bool.or_eq_true, List.isEmpty_iff, Json.utf8_eq_nil_iff, not_or] at hempty
      obtain ⟨rfl, rfl⟩ := Prod.mk.inj (Option.some.inj h)
      refine ⟨_, _, _, ⟨rfl, rfl, rfl⟩, ?_, ?_, ?_, ?_⟩
      · simpa using hempty.1
      · simpa using hempty.2
      · rw [Json.bytesOf_ofList]
      · rw [Json.bytesOf_ofList]
    · rintro ⟨_, _, _, ⟨rfl, rfl, -⟩, hheader, hpayload, rfl, rfl⟩
      have hempty : ¬ ((Json.utf8 header).isEmpty ||
          (Json.utf8 (Text.cut '.' rest).1).isEmpty) = true := by
        simp only [Bool.or_eq_true, List.isEmpty_iff, Json.utf8_eq_nil_iff, not_or]
        exact ⟨by simpa using hheader, by simpa using hpayload⟩
      rw [if_neg hempty, Json.bytesOf_ofList, Json.bytesOf_ofList]

/-! ### Objects in segments -/

/-- The text of bytes, with the URL-safe alphabet. -/
def base64Text (padded : Bool) (bytes : List UInt8) : String :=
  asciiText (Base64.encode .urlSafe padded bytes)

/-- A segment is the text of an object's bytes, padded or not. -/
def HoldsObject (segment : String) (members : List (String × Json)) : Prop :=
  segment ≠ "" ∧ ∃ padded bytes, segment = base64Text padded bytes ∧
    Json.parse bytes = .ok (.object members)

theorem toNat_symbol_lt {n : Nat} (h : n < 64) : (Base64.symbol .urlSafe n).toNat < 128 := by
  revert n
  decide

theorem bytesOf_base64Text (padded : Bool) (bytes : List UInt8) :
    Json.bytesOf (base64Text padded bytes) = Base64.encode .urlSafe padded bytes := by
  rw [base64Text, asciiText, Json.bytesOf_ofList]
  refine Json.utf8_map_ofNat fun b hb => ?_
  rcases Base64.of_mem_encode hb with ⟨n, hn, rfl⟩ | ⟨-, rfl⟩
  · exact toNat_symbol_lt hn
  · decide

/-- A segment is read if it is written in one of the two ways; as no text is written in both of
different bytes, it does not matter which is tried first. -/
theorem segmentBytes_eq_ok_iff {segment bytes : List UInt8} :
    segmentBytes segment = .ok bytes ↔
      ∃ padded, segment = Base64.encode .urlSafe padded bytes := by
  unfold segmentBytes
  constructor
  · intro h
    cases hplain : Base64.decode .urlSafe false segment with
    | ok found =>
      rw [hplain] at h
      obtain rfl := Except.ok.inj h
      exact ⟨false, Base64.decode_eq_ok_iff.1 hplain⟩
    | error e =>
      rw [hplain] at h
      exact ⟨true, Base64.decode_eq_ok_iff.1 h⟩
  · rintro ⟨padded, hsegment⟩
    cases hplain : Base64.decode .urlSafe false segment with
    | ok found =>
      -- what is read without padding is what was written, even if that was with padding
      have hfound := Base64.decode_eq_ok_iff.1 hplain
      rw [hsegment] at hfound
      rw [Base64.encode_inj hfound]
    | error e =>
      cases padded with
      | false =>
        rw [Base64.decode_eq_ok_iff.2 hsegment] at hplain
        cases hplain
      | true => exact Base64.decode_eq_ok_iff.2 hsegment

theorem segmentObject_eq_ok_iff {which : Segment} {segment : List UInt8} {value : Json} :
    segmentObject which segment = .ok value ↔
      ∃ bytes members, segmentBytes segment = .ok bytes ∧
        Json.parse bytes = .ok (.object members) ∧ value = .object members := by
  unfold segmentObject
  cases segmentBytes segment with
  | error e => simp
  | ok bytes =>
    cases hparse : Json.parse bytes with
    | error e => simp [hparse]
    | ok found =>
      cases found <;> simp [hparse, eq_comm]

/-- The objects of segments are those that the decoder finds in them. -/
theorem segmentObject_bytesOf {which : Segment} {segment : String} {value : Json}
    (h : segment ≠ "") : segmentObject which (Json.bytesOf segment) = .ok value ↔
      ∃ members, HoldsObject segment members ∧ value = .object members := by
  rw [segmentObject_eq_ok_iff]
  constructor
  · rintro ⟨bytes, members, hbytes, hparse, rfl⟩
    obtain ⟨padded, hsegment⟩ := segmentBytes_eq_ok_iff.1 hbytes
    -- texts with the same bytes are the same
    rw [← bytesOf_base64Text, Json.bytesOf_eq_utf8, Json.bytesOf_eq_utf8] at hsegment
    have hsame : segment = base64Text padded bytes := String.toList_inj.1 (Json.utf8_inj hsegment)
    exact ⟨members, ⟨h, padded, bytes, hsame, hparse⟩, rfl⟩
  · rintro ⟨members, ⟨-, padded, bytes, rfl, hparse⟩, rfl⟩
    rw [bytesOf_base64Text]
    exact ⟨bytes, members, segmentBytes_eq_ok_iff.2 ⟨padded, rfl⟩, hparse, rfl⟩

/-! ### Which texts are decoded -/

/-- Two segments hold objects, of which the first names the algorithm of a token and the second
makes its claim. -/
def Opens (header payload : String) (token : IdToken) : Prop :=
  ∃ fields claims, HoldsObject header fields ∧ HoldsObject payload claims ∧
    (Json.object fields).get? "alg" = some (.string token.algorithm) ∧
    token.codeHash = (Json.object claims).stringAt? "c_hash"

/-- A compact token: a header, a payload and a signature. -/
def IsCompact (text : String) : Prop :=
  ∃ header payload signature token,
    segmentsOf text = [header, payload, signature] ∧ Opens header payload token

theorem IdToken.ofString_eq_ok_iff_opens {text : String} {token : IdToken} :
    IdToken.ofString text = .ok token ↔
      ∃ header payload others, segmentsOf text = header :: payload :: others ∧
        Opens header payload token := by
  rw [IdToken.ofString_eq_ok_iff]
  constructor
  · rintro ⟨first, second, found, claimed, hs, hheader, hpayload, halg, hhash⟩
    obtain ⟨header, payload, others, hsegments, hne, hne', rfl, rfl⟩ := segments?_eq_some_iff.1 hs
    obtain ⟨fields, hfields, rfl⟩ := (segmentObject_bytesOf hne).1 hheader
    obtain ⟨claims, hclaims, rfl⟩ := (segmentObject_bytesOf hne').1 hpayload
    exact ⟨header, payload, others, hsegments, fields, claims, hfields, hclaims,
      Json.stringAt?_eq_some_iff.1 halg, hhash⟩
  · rintro ⟨header, payload, others, hsegments, fields, claims, hfields, hclaims, halg, hhash⟩
    refine ⟨Json.bytesOf header, Json.bytesOf payload, .object fields, .object claims, ?_, ?_, ?_,
      Json.stringAt?_eq_some_iff.2 halg, hhash⟩
    · exact segments?_eq_some_iff.2
        ⟨header, payload, others, hsegments, hfields.1, hclaims.1, rfl, rfl⟩
    · exact (segmentObject_bytesOf hfields.1).2 ⟨fields, hfields, rfl⟩
    · exact (segmentObject_bytesOf hclaims.1).2 ⟨claims, hclaims, rfl⟩

/-- A text is decoded exactly if two segments in front open it, whatever follows them, and fails to
be decoded otherwise. Among the texts of three segments these are the compact tokens. -/
theorem IdToken.ofString_iff_opened (text : String) :
    (∀ token, IdToken.ofString text = .ok token ↔
      ∃ header payload others, segmentsOf text = header :: payload :: others ∧
        Opens header payload token) ∧
    (IsCompact text ↔
      (segmentsOf text).length = 3 ∧ ∃ token, IdToken.ofString text = .ok token) ∧
    ((∃ fault, IdToken.ofString text = .error fault) ↔
      ¬ ∃ header payload others token, segmentsOf text = header :: payload :: others ∧
        Opens header payload token) := by
  refine ⟨fun token => IdToken.ofString_eq_ok_iff_opens, ?_, ?_⟩
  · constructor
    · rintro ⟨header, payload, signature, token, hsegments, hopens⟩
      have htoken := IdToken.ofString_eq_ok_iff_opens.2 ⟨header, payload, _, hsegments, hopens⟩
      exact ⟨congrArg List.length hsegments, token, htoken⟩
    · rintro ⟨hlength, token, htoken⟩
      obtain ⟨header, payload, others, hsegments, hopens⟩ :=
        IdToken.ofString_eq_ok_iff_opens.1 htoken
      obtain ⟨signature, rfl⟩ : ∃ signature, others = [signature] := by
        rw [hsegments] at hlength
        exact List.length_eq_one_iff.1 (by simpa using hlength)
      exact ⟨header, payload, signature, token, hsegments, hopens⟩
  · constructor
    · rintro ⟨fault, hfault⟩ ⟨header, payload, others, token, hopens⟩
      rw [IdToken.ofString_eq_ok_iff_opens.2 ⟨header, payload, others, hopens⟩] at hfault
      cases hfault
    · intro hnone
      cases hread : IdToken.ofString text with
      | error fault => exact ⟨fault, rfl⟩
      | ok token =>
        obtain ⟨header, payload, others, hopens⟩ := IdToken.ofString_eq_ok_iff_opens.1 hread
        exact absurd ⟨header, payload, others, token, hopens⟩ hnone

/-- A header and a payload are decoded without a signature, though they are no compact token. -/
theorem decoded_not_compact :
    ¬ ∀ text, (∃ token, IdToken.ofString text = .ok token) ↔ IsCompact text := by
  intro h
  have hread : IdToken.ofString "eyJhbGciOiJFUzI1NiJ9.e30" = .ok ⟨"ES256", none⟩ := rfl
  obtain ⟨header, payload, signature, token, hsegments, -⟩ := (h _).1 ⟨_, hread⟩
  have hlength := congrArg List.length hsegments
  have hpoints : "eyJhbGciOiJFUzI1NiJ9.e30".toList.count '.' = 1 := by decide
  rw [segmentsOf, List.length_map, Text.length_splitAll, hpoints] at hlength
  cases hlength

/-! ### Decoding what was encoded -/

/-- A token of a header, a payload and a signature, each of the first two padded or not. -/
def compact (padded padded' : Bool) (header payload : List UInt8) (signature : String) : String :=
  base64Text padded header ++ "." ++ base64Text padded' payload ++ "." ++ signature

theorem point_notMem_base64Text (padded : Bool) (bytes : List UInt8) :
    '.' ∉ (base64Text padded bytes).toList := by
  have hsymbol : ∀ n < 64, Char.ofNat (Base64.symbol .urlSafe n).toNat ≠ '.' := by decide
  intro hmem
  rw [base64Text, asciiText, String.toList_ofList] at hmem
  obtain ⟨b, hb, hpoint⟩ := List.mem_map.1 hmem
  rcases Base64.of_mem_encode hb with ⟨n, hn, rfl⟩ | ⟨-, rfl⟩
  · exact hsymbol n hn hpoint
  · exact absurd hpoint (by decide)

theorem segmentsOf_append {segment : String} (h : '.' ∉ segment.toList) (rest : String) :
    segmentsOf (segment ++ "." ++ rest) = segment :: segmentsOf rest := by
  have hpoint : ".".toList = ['.'] := rfl
  rw [segmentsOf, String.toList_append, String.toList_append, hpoint, List.append_assoc,
    List.singleton_append, Text.splitAll_eq_splitOn, List.splitOn_append_cons_self_of_not_mem h,
    List.map_cons, String.ofList_toList, segmentsOf, Text.splitAll_eq_splitOn]

theorem segmentsOf_compact (padded padded' : Bool) (header payload : List UInt8)
    (signature : String) : segmentsOf (compact padded padded' header payload signature) =
      base64Text padded header :: base64Text padded' payload :: segmentsOf signature := by
  have hfirst := segmentsOf_append (point_notMem_base64Text padded header)
    (base64Text padded' payload ++ "." ++ signature)
  rw [segmentsOf_append (point_notMem_base64Text padded' payload)] at hfirst
  rw [← hfirst, compact]
  simp only [String.append_assoc]

/-- The bytes of an object are not empty, so that their text is a segment. -/
theorem holdsObject_base64Text {bytes : List UInt8} {members : List (String × Json)}
    (h : Json.parse bytes = .ok (.object members)) (padded : Bool) :
    HoldsObject (base64Text padded bytes) members := by
  refine ⟨fun hempty => ?_, padded, bytes, rfl, h⟩
  have hencode := bytesOf_base64Text padded bytes
  rw [hempty] at hencode
  have hnil : Base64.encode .urlSafe padded bytes = Base64.encode .urlSafe padded [] := by
    rw [← hencode, Json.bytesOf_eq_utf8]
    rfl
  rw [Base64.encode_inj hnil] at h
  cases h

theorem ofString_compact_of_parse {header payload : List UInt8}
    {fields claims : List (String × Json)} {algorithm : String}
    (hheader : Json.parse header = .ok (.object fields))
    (hpayload : Json.parse payload = .ok (.object claims))
    (halg : (Json.object fields).get? "alg" = some (.string algorithm)) (padded padded' : Bool)
    (signature : String) :
    IdToken.ofString (compact padded padded' header payload signature) =
      .ok ⟨algorithm, (Json.object claims).stringAt? "c_hash"⟩ := by
  have hopens : Opens (base64Text padded header) (base64Text padded' payload)
      ⟨algorithm, (Json.object claims).stringAt? "c_hash"⟩ :=
    ⟨fields, claims, holdsObject_base64Text hheader padded,
      holdsObject_base64Text hpayload padded', halg, rfl⟩
  have hsegments := segmentsOf_compact padded padded' header payload signature
  exact IdToken.ofString_eq_ok_iff_opens.2 ⟨_, _, _, hsegments, hopens⟩

/-- What was encoded is decoded: the last algorithm that the header's text names, and the last hash
that the payload's text claims if it is a text. Nothing else in the texts makes a difference, nor
does the padding or the signature. -/
theorem IdToken.ofString_compact {header payload : List UInt8}
    {fields claims : List (String × Json)} {algorithm : String}
    (hheader : Json.parse header = .ok (.object fields))
    (hpayload : Json.parse payload = .ok (.object claims))
    (halg : (Json.object fields).get? "alg" = some (.string algorithm)) :
    (∃ named claimed, Json.Spells header named ∧ Json.Spells payload claimed ∧
      Json.lastMember? "alg" named = some (.string algorithm) ∧
      ∀ padded padded' signature,
        IdToken.ofString (compact padded padded' header payload signature) =
          .ok ⟨algorithm, (Json.lastMember? "c_hash" claimed).bind Json.string?⟩) ∧
    ∀ header' payload' fields' claims',
      Json.parse header' = .ok (.object fields') → Json.parse payload' = .ok (.object claims') →
      (Json.object fields').get? "alg" = (Json.object fields).get? "alg" →
      (Json.object claims').stringAt? "c_hash" = (Json.object claims).stringAt? "c_hash" →
      ∀ p q r t signature signature',
        IdToken.ofString (compact p q header payload signature) =
          IdToken.ofString (compact r t header' payload' signature') := by
  constructor
  · obtain ⟨named, hnamed, rfl⟩ := Json.exists_spells hheader
    obtain ⟨claimed, hclaimed, rfl⟩ := Json.exists_spells hpayload
    refine ⟨named, claimed, hnamed, hclaimed, ?_, fun padded padded' signature => ?_⟩
    · rw [← Json.findMember?_membersOf]
      exact halg
    · rw [ofString_compact_of_parse hheader hpayload halg, Json.stringAt?, Json.get?_object,
        Json.findMember?_membersOf]
  · intro header' payload' fields' claims' hheader' hpayload' hfields hclaims p q r t s s'
    rw [ofString_compact_of_parse hheader hpayload halg,
      ofString_compact_of_parse hheader' hpayload' (hfields.trans halg), hclaims]

/-- A header that names two algorithms and a payload that claims a hash and then none are decoded
as others that have those last members, in other segments and behind another signature. -/
theorem IdToken.ofString_compact_repeated :
    IdToken.ofString (compact true false
        (Json.bytesOf "\x7b\"alg\":\"none\",\"alg\":\"ES256\"\x7d")
        (Json.bytesOf "\x7b\"c_hash\":\"x\",\"c_hash\":null\x7d") "a.b") =
      IdToken.ofString (compact false true
        (Json.bytesOf "\x7b\"typ\":\"JWT\",\"alg\":\"ES256\"\x7d")
        (Json.bytesOf "\x7b\"sub\":\"7\"\x7d") "") := by
  have hheader : Json.parse (Json.bytesOf "\x7b\"alg\":\"none\",\"alg\":\"ES256\"\x7d") =
      .ok (.object [("alg", .string "ES256")]) := rfl
  have hpayload : Json.parse (Json.bytesOf "\x7b\"c_hash\":\"x\",\"c_hash\":null\x7d") =
      .ok (.object [("c_hash", .null)]) := rfl
  have hheader' : Json.parse (Json.bytesOf "\x7b\"typ\":\"JWT\",\"alg\":\"ES256\"\x7d") =
      .ok (.object [("typ", .string "JWT"), ("alg", .string "ES256")]) := rfl
  have hpayload' : Json.parse (Json.bytesOf "\x7b\"sub\":\"7\"\x7d") =
      .ok (.object [("sub", .string "7")]) := rfl
  exact (IdToken.ofString_compact hheader hpayload rfl).2 _ _ _ _ hheader' hpayload' rfl rfl
    true false false true "a.b" ""

end ConformanceSuite.Redirect
