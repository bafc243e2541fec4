import ConformanceSuite.Api
import ConformanceSuite.Proofs.Json.Grammar

/-!
# Redirects that are answered

A redirect that reaches its route is answered in JSON and leaves one event of its channel in the
audit, whatever its body and whatever the state of the stores. One with a body above the limit does
not reach its route: it is answered in plain text and leaves nothing. So a redirect is answered as
it should be exactly if its body is within the limit: `answered_iff`.
-/

namespace ConformanceSuite.Api

open Redirect

/-- The path to which the redirects of a channel are posted. -/
def redirectPath : Channel → String
  | .fragment => "/api/redirect/fragment/ok"
  | .query => "/api/redirect/query/ok"
  | .error => "/api/redirect/error"

/-- The route of a channel. -/
def redirectRoute : Channel → Route
  | .fragment => .code .fragment
  | .query => .code .query
  | .error => .error

theorem lookup_redirectPath (channel : Channel) :
    routes.lookup (redirectPath channel) = some (redirectRoute channel) := by
  cases channel <;> decide

/-- An answer in JSON: by its content type, and by its body. -/
structure Reply.InJson (r : Reply) : Prop where
  contentType : r.contentType = some "application/json; charset=UTF-8"
  body : Json.IsDocument r.body

/-- An answer in JSON, and one event of a channel at the end of the audit. -/
structure Answered (channel : Channel) (s : State) (taken : Reply × State) : Prop where
  reply : taken.1.InJson
  event : ∃ e : AuditEvent, e.channel = channel ∧ taken.2.audit = s.audit ++ [e]

/-! ### Answers of the routes -/

theorem Reply.inJson_json (status : UInt16) (value : Json) : (Reply.json status value).InJson :=
  ⟨rfl, Json.isDocument_render value⟩

theorem inJson_judgedReply (result : Except Redirect.Error Outcome) :
    (judgedReply result).InJson := by
  obtain _ | _ | _ := result
  · exact Reply.inJson_json _ _
  · exact Reply.inJson_json _ _
  · exact Reply.inJson_json _ _

theorem channel_judgedEvent (channel : Channel) (state : String)
    (result : Except Redirect.Error Outcome) :
    (judgedEvent channel state result).channel = channel := by
  cases result <;> rfl

theorem takeCode_answered (channel : Channel) (body : List UInt8) (s : State) :
    Answered channel s (takeCode channel body s) := by
  unfold takeCode
  cases Json.decodeText CodePayload.decoder body with
  | error e => exact ⟨Reply.inJson_json _ _, malformedEvent channel, rfl, rfl⟩
  | ok payload =>
    exact ⟨inJson_judgedReply _, _, channel_judgedEvent channel payload.state _, rfl⟩

theorem takeError_answered (body : List UInt8) (s : State) :
    Answered .error s (takeError body s) := by
  unfold takeError
  cases readError body with
  | error e => exact ⟨Reply.inJson_json _ _, malformedEvent .error, rfl, rfl⟩
  | ok read => exact ⟨Reply.inJson_json _ _, _, rfl, rfl⟩

theorem take_redirectRoute_answered (checker : Conditionality) (channel : Channel)
    (body : List UInt8) (s : State) :
    Answered channel s ((redirectRoute channel).take checker body s) := by
  cases channel with
  | fragment => exact takeCode_answered .fragment body s
  | query => exact takeCode_answered .query body s
  | error => exact takeError_answered body s

/-! ### Requests -/

section Requests

variable {channel : Channel} {target : String}

/-- What becomes of a redirect is decided by the length of its body. -/
theorem answer_redirect (h : pathOf target = redirectPath channel) (checker : Conditionality)
    (maxBodyBytes : Nat) (body : List UInt8) (s : State) :
    answer checker maxBodyBytes "POST" target body s =
      if maxBodyBytes < body.length then (.tooLarge, s)
      else (redirectRoute channel).take checker body s := by
  rw [answer, h, lookup_redirectPath]
  simp

/-- The answer to a body above the limit is no JSON, neither by its content type nor by its body. -/
theorem tooLarge_not_json :
    Reply.tooLarge.contentType ≠ some "application/json; charset=UTF-8" ∧
      ¬ Json.IsDocument Reply.tooLarge.body := by
  constructor
  · intro h
    exact absurd (Option.some.inj h) (by decide)
  · -- the body begins with a letter that begins no value
    exact Json.Grammar.not_isItem_cons (by decide) (by decide) (by decide) _

theorem not_answered_tooLarge (channel : Channel) (s s' : State) :
    ¬ Answered channel s (.tooLarge, s') := by
  intro h
  exact tooLarge_not_json.1 h.reply.contentType

/-- A redirect is answered in JSON and audited exactly if its body is within the limit; if it is
not, the answer is in plain text and nothing changes. -/
theorem answered_iff (checker : Conditionality) (maxBodyBytes : Nat) (body : List UInt8)
    (s : State) (h : pathOf target = redirectPath channel) :
    (Answered channel s (answer checker maxBodyBytes "POST" target body s) ↔
        body.length ≤ maxBodyBytes) ∧
      (maxBodyBytes < body.length →
        answer checker maxBodyBytes "POST" target body s = (.tooLarge, s)) := by
  rw [answer_redirect h]
  by_cases hlength : maxBodyBytes < body.length
  · rw [if_pos hlength]
    refine ⟨⟨fun hanswered => ?_, fun hle => ?_⟩, fun _ => rfl⟩
    · exact absurd hanswered (not_answered_tooLarge channel s s)
    · exact absurd hle (Nat.not_le.2 hlength)
  · rw [if_neg hlength]
    refine ⟨⟨fun _ => Nat.not_lt.1 hlength, fun _ => ?_⟩, fun hlong => absurd hlong hlength⟩
    exact take_redirectRoute_answered checker channel body s

end Requests

/-- A server that knows no specification. -/
def idleChecker : Conditionality where
  isPresent _ _ _ := .error "not found"
  missingMandatory _ _ := .error "not found"

/-- Stores without entries, and nothing audited. -/
def freshState : State := ⟨⟨.empty, .empty⟩, []⟩

/-- A target on the query channel. -/
def queryTarget : String := "/api/redirect/query/ok?state=s"

/-- A body of four bytes that bears no code. -/
def nullBody : List UInt8 := Json.bytesOf "null"

/-- A body as long as the limit is answered, and one that is a byte longer is not. -/
theorem answered_iff_null :
    pathOf queryTarget = redirectPath .query ∧
      Answered .query freshState
        (answer idleChecker 4 "POST" queryTarget nullBody freshState) ∧
      answer idleChecker 3 "POST" queryTarget nullBody freshState = (.tooLarge, freshState) := by
  have hpath : pathOf queryTarget = redirectPath .query := by decide
  have hshort : nullBody.length ≤ 4 := by decide
  have hlong : 3 < nullBody.length := by decide
  exact ⟨hpath, (answered_iff idleChecker 4 nullBody freshState hpath).1.2 hshort,
    (answered_iff idleChecker 3 nullBody freshState hpath).2 hlong⟩

/-- It is not so that every redirect is answered in JSON and audited: one that is longer than the
limit is not. -/
theorem redirect_not_answered :
    ¬ ∀ (checker : Conditionality) (maxBodyBytes : Nat) (channel : Channel) (body : List UInt8)
      (s : State),
      Answered channel s
        (answer checker maxBodyBytes "POST" (redirectPath channel) body s) := by
  intro h
  have hanswered := h idleChecker 3 .query nullBody freshState
  have hpath : pathOf (redirectPath .query) = redirectPath .query := by decide
  have hlong : 3 < nullBody.length := by decide
  rw [answer_redirect hpath, if_pos hlong] at hanswered
  exact not_answered_tooLarge .query freshState freshState hanswered

end ConformanceSuite.Api
