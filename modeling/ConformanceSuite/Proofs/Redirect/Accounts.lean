import ConformanceSuite.Proofs.Json.Reparsed
import ConformanceSuite.Proofs.Redirect.Answered
import ConformanceSuite.Proofs.Redirect.Receive

/-!
# Accounts of a redirect

Three accounts are given of a redirect that bears a code: the answer to the client, the event in the
audit and what is left in the stores. They are one account, as each of them is read off the course
that the redirect takes: it is rejected for one of four causes, its code is not bound, one of the
stores is poisoned, or it is accepted (`exists_course`). So each of them can be told from the
others: `accounts_agree`.
-/

namespace ConformanceSuite.Api

open Redirect

/-- The state that a body bears, if it can be read as a redirect with a code. -/
def stateOf (body : List UInt8) : Option String :=
  (Json.decodeText CodePayload.decoder body).toOption.map (·.state)

/-- A body is rejected without regard to the stores, under a kind and with a message. -/
inductive Rejected (body : List UInt8) : (kind message : String) → Prop
  | malformed {e : Json.Error} (read : Json.decodeText CodePayload.decoder body = .error e) :
      Rejected body "malformed_payload" e.message
  | missingState {p : CodePayload} (read : Json.decodeText CodePayload.decoder body = .ok p)
      (state : p.state = "") :
      Rejected body "missing_state" "state missing from redirect"
  | undecoded {p : CodePayload} {fault : TokenFault}
      (read : Json.decodeText CodePayload.decoder body = .ok p) (state : p.state ≠ "")
      (decoded : IdToken.ofString p.idToken = .error fault) :
      Rejected body "id_token_decode" ("id_token decode error: " ++ fault.message)
  | unsupported {p : CodePayload} {token : IdToken}
      (read : Json.decodeText CodePayload.decoder body = .ok p) (state : p.state ≠ "")
      (decoded : IdToken.ofString p.idToken = .ok token)
      (algorithm : ∀ d, ¬ Supported token.algorithm d) :
      Rejected body "unsupported_algorithm" (token.algorithm ++ " algorithm not supported")

/-- What comes of a redirect: the answer, the outcome and the kind of error that are recorded, and
the stores behind it. -/
structure Account where
  reply : Reply
  outcome : AuditOutcome
  kind : Option String
  stores : Stores

/-- The courses that a redirect can take, each with what comes of it. -/
inductive Course (body : List UInt8) (stores : Stores) : Account → Prop
  | rejected {kind message : String} (cause : Rejected body kind message) :
      Course body stores ⟨.error 400 message, .rejected, some kind, stores⟩
  | unbound {p : CodePayload} (read : Json.decodeText CodePayload.decoder body = .ok p)
      (judged : p.judge = .ok .codeHashInvalid) :
      Course body stores ⟨.error 400 "c_hash invalid", .codeHashInvalid, none, stores⟩
  | contextPoisoned {p : CodePayload} (read : Json.decodeText CodePayload.decoder body = .ok p)
      (judged : p.judge = .ok .accepted) (context : stores.context.poisoned = true) :
      Course body stores
        ⟨.error 500 "context lock poisoned", .rejected, some "context_store", stores⟩
  | tokensPoisoned {p : CodePayload} (read : Json.decodeText CodePayload.decoder body = .ok p)
      (judged : p.judge = .ok .accepted) (context : stores.context.poisoned = false)
      (tokens : stores.tokens.poisoned = true) :
      Course body stores ⟨.error 500 "token collector lock poisoned", .rejected,
        some "token_store", { stores with context := p.boundIn stores.context }⟩
  | accepted {p : CodePayload} (read : Json.decodeText CodePayload.decoder body = .ok p)
      (judged : p.judge = .ok .accepted) (context : stores.context.poisoned = false)
      (tokens : stores.tokens.poisoned = false) :
      Course body stores ⟨.json 200 .null, .accepted, none,
        ⟨p.boundIn stores.context, p.suppliedTo stores.tokens⟩⟩

/-- The kind of error that is recorded of a redirect. -/
def kindOf : Except Redirect.Error Outcome → Option String
  | .ok _ => none
  | .error e => some (errorKind e)

/-- The account of a redirect that is received with a result. -/
def Account.ofReceived (received : Except Redirect.Error Outcome × Stores) : Account :=
  ⟨judgedReply received.1, auditOutcome received.1, kindOf received.1, received.2⟩

/-- The event of an account. -/
def Account.event (a : Account) (channel : Channel) (body : List UInt8) : AuditEvent :=
  ⟨channel, a.outcome, (stateOf body).bind nonEmpty?, none, a.kind⟩

/-- A redirect is taken as an account tells. -/
def Account.Tells (a : Account) (body : List UInt8) (s : State) : Prop :=
  ∀ channel, takeCode channel body s = (a.reply, ⟨a.stores, s.audit ++ [a.event channel body]⟩)

/-! ### The course of a redirect -/

section Courses

variable {body : List UInt8} {s : State} {p : CodePayload}

/-- A redirect is taken once: there is one account of it. -/
theorem Account.Tells.unique {a a' : Account} (h : a.Tells body s) (h' : a'.Tells body s) :
    a = a' := by
  have hsame := (h .query).symm.trans (h' .query)
  obtain ⟨reply, outcome, kind, stores⟩ := a
  obtain ⟨reply', outcome', kind', stores'⟩ := a'
  simp only [event, Prod.mk.injEq, State.mk.injEq, List.append_cancel_left_eq, List.cons.injEq,
    AuditEvent.mk.injEq, true_and, and_true] at hsame
  obtain ⟨rfl, rfl, rfl, rfl⟩ := hsame
  rfl

theorem stateOf_of_read (read : Json.decodeText CodePayload.decoder body = .ok p) :
    stateOf body = some p.state := by
  rw [stateOf, read]
  rfl

theorem takeCode_of_read (read : Json.decodeText CodePayload.decoder body = .ok p)
    (channel : Channel) :
    takeCode channel body s =
      (judgedReply (receive p s.stores).1, ⟨(receive p s.stores).2,
        s.audit ++ [judgedEvent channel p.state (receive p s.stores).1]⟩) := by
  rw [takeCode, read]
  rfl

/-- A redirect that is read is accounted for by what it is received as. -/
theorem tells_of_receive (read : Json.decodeText CodePayload.decoder body = .ok p)
    {received : Except Redirect.Error Outcome × Stores} (h : receive p s.stores = received) :
    (Account.ofReceived received).Tells body s := by
  intro channel
  have hevent : (Account.ofReceived received).event channel body =
      judgedEvent channel p.state received.1 := by
    obtain ⟨_ | _, _⟩ := received
    · rw [Account.event, stateOf_of_read read]
      rfl
    · rw [Account.event, stateOf_of_read read]
      rfl
  rw [takeCode_of_read read, h, hevent]
  rfl

/-- A redirect that is not judged acceptable leaves the stores alone. -/
theorem tells_of_judge (read : Json.decodeText CodePayload.decoder body = .ok p)
    {result : Except Redirect.Error Outcome} (judged : p.judge = result)
    (hne : result ≠ .ok .accepted) : (Account.ofReceived (result, s.stores)).Tells body s := by
  have hreceived : receive p s.stores = (result, s.stores) := by
    rw [receive_of_judge_ne s.stores (judged ▸ hne), judged]
  exact tells_of_receive read hreceived

theorem tells_of_rejected {kind message : String} (h : Rejected body kind message) :
    Account.Tells ⟨.error 400 message, .rejected, some kind, s.stores⟩ body s := by
  cases h with
  | malformed read =>
    intro channel
    have hnone : stateOf body = none := by
      rw [stateOf, read]
      rfl
    rw [takeCode, read, Account.event, hnone]
    rfl
  | @missingState p read state =>
    exact tells_of_judge read ((judge_decided p).missingState.2 state) (fun h => by cases h)
  | @undecoded p fault read state decoded =>
    have hjudged := ((judge_decided p).undecoded fault).2 ⟨state, decoded⟩
    exact tells_of_judge read hjudged (fun h => by cases h)
  | @unsupported p token read state decoded algorithm =>
    have hjudged := ((judge_decided p).unsupported token.algorithm).2
      ⟨state, token, decoded, rfl, algorithm⟩
    exact tells_of_judge read hjudged (fun h => by cases h)

theorem tells_of_accepted (read : Json.decodeText CodePayload.decoder body = .ok p)
    (judged : p.judge = .ok .accepted) (hcontext : s.stores.context.poisoned = false)
    (htokens : s.stores.tokens.poisoned = false) :
    Account.Tells ⟨.json 200 .null, .accepted, none,
      ⟨p.boundIn s.stores.context, p.suppliedTo s.stores.tokens⟩⟩ body s := by
  have hreceived := receive_of_judge s.stores judged
  rw [hcontext, htokens, if_neg (by decide), if_neg (by decide)] at hreceived
  exact tells_of_receive read hreceived

/-- What can be wrong before the stores are looked at is wrong with the redirect. -/
theorem errorStatus_of_judge {e : Redirect.Error} (judged : p.judge = .error e) :
    errorStatus e = 400 := by
  unfold CodePayload.judge at judged
  split at judged
  · cases judged
    rfl
  · split at judged
    · cases judged
      rfl
    · split at judged
      · cases judged
        rfl
      · cases judged

/-- Every redirect takes a course, and is taken as the account of that course tells. -/
theorem exists_course (body : List UInt8) (s : State) :
    ∃ a, Course body s.stores a ∧ a.Tells body s := by
  cases read : Json.decodeText CodePayload.decoder body with
  | error e => exact ⟨_, .rejected (.malformed read), tells_of_rejected (.malformed read)⟩
  | ok p =>
    have hdecided := judge_decided p
    cases judged : p.judge with
    | error e =>
      rw [judged] at hdecided
      cases e with
      | missingState =>
        have hcause := Rejected.missingState read (hdecided.missingState.1 rfl)
        exact ⟨_, .rejected hcause, tells_of_rejected hcause⟩
      | decode fault =>
        obtain ⟨hstate, hdecoded⟩ := (hdecided.undecoded fault).1 rfl
        have hcause := Rejected.undecoded read hstate hdecoded
        exact ⟨_, .rejected hcause, tells_of_rejected hcause⟩
      | unsupportedAlgorithm algorithm =>
        obtain ⟨hstate, token, hdecoded, rfl, hnone⟩ := (hdecided.unsupported algorithm).1 rfl
        have hcause := Rejected.unsupported read hstate hdecoded hnone
        exact ⟨_, .rejected hcause, tells_of_rejected hcause⟩
      | context e => exact absurd (errorStatus_of_judge judged) (by decide : (500 : UInt16) ≠ 400)
      | tokens e => exact absurd (errorStatus_of_judge judged) (by decide : (500 : UInt16) ≠ 400)
    | ok outcome =>
      cases outcome with
      | codeHashInvalid =>
        exact ⟨_, .unbound read judged, tells_of_judge read judged (fun h => by cases h)⟩
      | accepted =>
        have hreceived := receive_of_judge s.stores judged
        cases hcontext : s.stores.context.poisoned with
        | true =>
          rw [hcontext, if_pos rfl] at hreceived
          exact ⟨_, .contextPoisoned read judged hcontext, tells_of_receive read hreceived⟩
        | false =>
          cases htokens : s.stores.tokens.poisoned with
          | true =>
            rw [hcontext, htokens, if_neg (by decide), if_pos rfl] at hreceived
            exact ⟨_, .tokensPoisoned read judged hcontext htokens,
              tells_of_receive read hreceived⟩
          | false =>
            exact ⟨_, .accepted read judged hcontext htokens,
              tells_of_accepted read judged hcontext htokens⟩

end Courses

/-! ### Messages -/

/-- What is wrong with a text is said with its place. -/
theorem length_message_of_decodeText {α : Type} {read : Json.Decoder α} {text : List UInt8}
    {e : Json.Error} (h : Json.decodeText read text = .error e) : 14 < e.message.length := by
  obtain ⟨cause, position, rfl⟩ : ∃ cause position, e = ⟨cause, some position⟩ := by
    unfold Json.decodeText at h
    cases hread : read (Json.Source.ofText text).1 with
    | error p =>
      simp only [hread] at h
      cases h
      exact ⟨_, _, rfl⟩
    | ok a =>
      simp only [hread] at h
      split at h
      · cases h
      · split at h
        · cases h
        · cases h
          exact ⟨_, _, rfl⟩
  have hline : (toString " at line ").length = 9 := rfl
  have hcolumn : (toString " column ").length = 8 := rfl
  simp only [Json.Error.message, String.length_append, hline, hcolumn]
  omega

/-- Every message of a rejection is longer than that of a code that is not bound. -/
theorem length_message_of_rejected {body : List UInt8} {kind message : String}
    (h : Rejected body kind message) : "c_hash invalid".length < message.length := by
  have hunbound : "c_hash invalid".length = 14 := rfl
  rw [hunbound]
  cases h with
  | malformed read => exact length_message_of_decodeText read
  | missingState => decide
  | undecoded =>
    have hprefix : "id_token decode error: ".length = 23 := rfl
    rw [String.length_append]
    omega
  | unsupported =>
    have hsuffix : " algorithm not supported".length = 24 := rfl
    rw [String.length_append]
    omega

/-- The message of an error can be told from its answer. -/
theorem message_of_body {status status' : UInt16} {message message' : String}
    (h : (Reply.error status message).body = (Reply.error status' message').body) :
    message = message' := by
  have hread : ∀ (status : UInt16) (message : String),
      Json.parse (Json.bytesOf (Reply.error status message).body) =
        .ok (.object [("error", .string message)]) := fun _ message =>
    Json.parse_render (.object (List.forall_mem_singleton.2 (.string 0 message))) (by decide)
      (.object (by simp) (List.forall_mem_singleton.2 (.string message)))
  have hsame := (hread status message).symm.trans (h ▸ hread status' message')
  cases hsame
  rfl

/-! ### Agreement -/

/-- The body of the answer to a code that is not bound. -/
def unboundBody : String := "\x7b\"error\":\"c_hash invalid\"\x7d"

/-- The answer to a redirect, its event and the stores before and behind it agree. -/
structure Agrees (channel : Channel) (body : List UInt8) (before : Stores) (e : AuditEvent)
    (reply : Reply) (after : Stores) : Prop where
  event : e = ⟨channel, e.outcome, (stateOf body).bind nonEmpty?, none, e.errorKind⟩
  accepted : reply.status = 200 ∧ reply.body = "null" ↔ e.outcome = .accepted
  decided : e.outcome = .accepted ↔ ∃ p, Json.decodeText CodePayload.decoder body = .ok p ∧
    p.state ≠ "" ∧ p.Bound ∧ before.context.poisoned = false ∧ before.tokens.poisoned = false
  stored : e.outcome = .accepted → ∃ p, Json.decodeText CodePayload.decoder body = .ok p ∧
    after.context.entries.get? p.state = some (.string p.code) ∧ Stored p before after
  unbound : reply.status = 400 ∧ reply.body = unboundBody ↔ e.outcome = .codeHashInvalid
  failed : reply.status = 500 → before.context.poisoned = true ∨ before.tokens.poisoned = true
  otherwise : ¬ (reply.status = 200 ∧ reply.body = "null") →
    ¬ (reply.status = 400 ∧ reply.body = unboundBody) → reply.status ≠ 500 →
    reply.status = 400 ∧ e.outcome = .rejected ∧
      ∃ kind message, Rejected body kind message ∧ e.errorKind = some kind
  rejected : ∀ kind message, Rejected body kind message →
    reply = .error 400 message ∧ e.outcome = .rejected ∧ e.errorKind = some kind
  unchanged : reply.status = 400 → after = before

section Agreement

variable {body : List UInt8} {s : State} {a : Account}

theorem body_unbound (status : UInt16) :
    (Reply.error status "c_hash invalid").body = unboundBody := rfl

/-- No rejection is answered as a code that is not bound. -/
theorem body_ne_unbound {kind message : String} (h : Rejected body kind message)
    (status : UInt16) : (Reply.error status message).body ≠ unboundBody := by
  intro hbody
  have hmessage : message = "c_hash invalid" :=
    message_of_body (hbody.trans (body_unbound status).symm)
  have hlength := length_message_of_rejected h
  rw [hmessage] at hlength
  exact absurd hlength (Nat.lt_irrefl _)

theorem Course.accepted_iff (h : Course body s.stores a) :
    a.reply.status = 200 ∧ a.reply.body = "null" ↔ a.outcome = .accepted := by
  cases h with
  | accepted => exact ⟨fun _ => rfl, fun _ => ⟨rfl, rfl⟩⟩
  | rejected | unbound =>
    exact ⟨fun h => absurd h.1 (by decide : (400 : UInt16) ≠ 200), fun h => (by cases h)⟩
  | contextPoisoned | tokensPoisoned =>
    exact ⟨fun h => absurd h.1 (by decide : (500 : UInt16) ≠ 200), fun h => (by cases h)⟩

theorem Course.unbound_iff (h : Course body s.stores a) :
    a.reply.status = 400 ∧ a.reply.body = unboundBody ↔ a.outcome = .codeHashInvalid := by
  cases h with
  | unbound => exact ⟨fun _ => rfl, fun _ => ⟨rfl, body_unbound 400⟩⟩
  | rejected cause => exact ⟨fun h => absurd h.2 (body_ne_unbound cause 400), fun h => (by cases h)⟩
  | accepted =>
    exact ⟨fun h => absurd h.1 (by decide : (200 : UInt16) ≠ 400), fun h => (by cases h)⟩
  | contextPoisoned | tokensPoisoned =>
    exact ⟨fun h => absurd h.1 (by decide : (500 : UInt16) ≠ 400), fun h => (by cases h)⟩

/-- A redirect is told as accepted exactly if its code is bound and the stores can take it. -/
theorem Course.decided (h : Course body s.stores a) (htells : a.Tells body s) :
    a.outcome = .accepted ↔ ∃ p, Json.decodeText CodePayload.decoder body = .ok p ∧
      p.state ≠ "" ∧ p.Bound ∧ s.stores.context.poisoned = false ∧
      s.stores.tokens.poisoned = false := by
  constructor
  · intro houtcome
    cases h with
    | rejected | unbound | contextPoisoned | tokensPoisoned => cases houtcome
    | @accepted p read judged context tokens =>
      obtain ⟨hstate, hbound⟩ := judge_eq_accepted_iff.1 judged
      exact ⟨p, read, hstate, hbound, context, tokens⟩
  · rintro ⟨p, read, hstate, hbound, hcontext, htokens⟩
    have judged := judge_eq_accepted_iff.2 ⟨hstate, hbound⟩
    rw [htells.unique (tells_of_accepted read judged hcontext htokens)]

/-- A redirect that is told as accepted has been stored. -/
theorem Course.stored (h : Course body s.stores a) (houtcome : a.outcome = .accepted) :
    ∃ p, Json.decodeText CodePayload.decoder body = .ok p ∧
      a.stores.context.entries.get? p.state = some (.string p.code) ∧
      Stored p s.stores a.stores := by
  cases h with
  | rejected | unbound | contextPoisoned | tokensPoisoned => cases houtcome
  | @accepted p read =>
    have hstored := p.stored s.stores
    refine ⟨p, read, ?_, hstored⟩
    have hkey : p.state ≠ p.state ++ "_id_token" := (idTokenKey_ne p.state).symm
    have hentry := hstored.entries p.state
    rwa [if_neg hkey, if_pos rfl] at hentry

/-- Only a poisoned store is blamed on the server. -/
theorem Course.failed (h : Course body s.stores a) (hstatus : a.reply.status = 500) :
    s.stores.context.poisoned = true ∨ s.stores.tokens.poisoned = true := by
  cases h with
  | contextPoisoned _ _ context => exact .inl context
  | tokensPoisoned _ _ _ tokens => exact .inr tokens
  | rejected | unbound => exact absurd hstatus (by decide : (400 : UInt16) ≠ 500)
  | accepted => exact absurd hstatus (by decide : (200 : UInt16) ≠ 500)

theorem Course.unchanged (h : Course body s.stores a) (hstatus : a.reply.status = 400) :
    a.stores = s.stores := by
  cases h with
  | rejected | unbound => rfl
  | contextPoisoned | tokensPoisoned => exact absurd hstatus (by decide : (500 : UInt16) ≠ 400)
  | accepted => exact absurd hstatus (by decide : (200 : UInt16) ≠ 400)

/-- A course is told as it is to the client, to the audit and to the stores. -/
theorem Course.agrees (h : Course body s.stores a) (htells : a.Tells body s) (channel : Channel) :
    Agrees channel body s.stores (a.event channel body) a.reply a.stores where
  event := rfl
  accepted := h.accepted_iff
  decided := h.decided htells
  stored := h.stored
  unbound := h.unbound_iff
  failed := h.failed
  otherwise := by
    intro hnotAccepted hnotUnbound hnotFailed
    cases h with
    | rejected cause => exact ⟨rfl, rfl, _, _, cause, rfl⟩
    | accepted => exact absurd ⟨rfl, rfl⟩ hnotAccepted
    | unbound => exact absurd ⟨rfl, body_unbound 400⟩ hnotUnbound
    | contextPoisoned | tokensPoisoned => exact absurd rfl hnotFailed
  rejected := by
    intro kind message cause
    rw [htells.unique (tells_of_rejected cause)]
    exact ⟨rfl, rfl, rfl⟩
  unchanged := h.unchanged

end Agreement

/-! ### Routes -/

/-- Two redirects come to the same, but for the channel of what is added to the audit. -/
structure SameButChannel (s : State) (fragment query : Reply × State) : Prop where
  reply : query.1 = fragment.1
  stores : query.2.stores = fragment.2.stores
  audit : ∃ added : List AuditEvent, fragment.2.audit = s.audit ++ added ∧
    query.2.audit = s.audit ++ added.map (fun e => { e with channel := .query }) ∧
    ∀ e ∈ added, e.channel = .fragment

theorem answer_sameButChannel (checker : Conditionality) (maxBodyBytes : Nat) (body : List UInt8)
    (s : State) :
    SameButChannel s (answer checker maxBodyBytes "POST" (redirectPath .fragment) body s)
      (answer checker maxBodyBytes "POST" (redirectPath .query) body s) := by
  have hfragment : pathOf (redirectPath .fragment) = redirectPath .fragment := by decide
  have hquery : pathOf (redirectPath .query) = redirectPath .query := by decide
  rw [answer_redirect hfragment, answer_redirect hquery]
  by_cases hlength : maxBodyBytes < body.length
  · rw [if_pos hlength, if_pos hlength]
    exact ⟨rfl, rfl, [], by simp⟩
  · rw [if_neg hlength, if_neg hlength]
    obtain ⟨a, -, htells⟩ := exists_course body s
    have hfirst : (redirectRoute .fragment).take checker body s =
        (a.reply, ⟨a.stores, s.audit ++ [a.event .fragment body]⟩) := htells .fragment
    have hsecond : (redirectRoute .query).take checker body s =
        (a.reply, ⟨a.stores, s.audit ++ [a.event .query body]⟩) := htells .query
    rw [hfirst, hsecond]
    exact ⟨rfl, rfl, [a.event .fragment body], rfl, rfl, by simp [Account.event]⟩

/-- The answer to a redirect that bears a code, its event and the stores agree, for every body and
all stores. The event holds nothing of the code, the token and the scope: it is the same for any two
redirects on one channel with the same state, outcome and kind of error. The two routes differ in
the channel that is recorded and in nothing else. -/
theorem accounts_agree (checker : Conditionality) (maxBodyBytes : Nat) :
    (∀ channel body s, ∃ e, (takeCode channel body s).2.audit = s.audit ++ [e] ∧
      Agrees channel body s.stores e (takeCode channel body s).1
        (takeCode channel body s).2.stores) ∧
    (∀ channel body body' s s' e e', (takeCode channel body s).2.audit = s.audit ++ [e] →
      (takeCode channel body' s').2.audit = s'.audit ++ [e'] → stateOf body = stateOf body' →
      e.outcome = e'.outcome → e.errorKind = e'.errorKind → e = e') ∧
    (∀ body s, SameButChannel s
      (answer checker maxBodyBytes "POST" (redirectPath .fragment) body s)
      (answer checker maxBodyBytes "POST" (redirectPath .query) body s)) := by
  have hone : ∀ channel body s, ∃ e, (takeCode channel body s).2.audit = s.audit ++ [e] ∧
      Agrees channel body s.stores e (takeCode channel body s).1
        (takeCode channel body s).2.stores := by
    intro channel body s
    obtain ⟨a, hcourse, htells⟩ := exists_course body s
    rw [htells channel]
    exact ⟨a.event channel body, rfl, hcourse.agrees htells channel⟩
  refine ⟨hone, ?_, answer_sameButChannel checker maxBodyBytes⟩
  intro channel body body' s s' e e' he he' hstate houtcome hkind
  obtain ⟨first, hfirst, hagrees⟩ := hone channel body s
  obtain ⟨second, hsecond, hagrees'⟩ := hone channel body' s'
  obtain rfl : e = first := by
    rw [he] at hfirst
    exact List.singleton_inj.1 (List.append_cancel_left hfirst)
  obtain rfl : e' = second := by
    rw [he'] at hsecond
    exact List.singleton_inj.1 (List.append_cancel_left hsecond)
  rw [hagrees.event, hagrees'.event, hstate, houtcome, hkind]

end ConformanceSuite.Api
