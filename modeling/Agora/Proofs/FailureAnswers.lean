import Agora.Proofs.Concealment
import Agora.Proofs.RequestTally

set_option autoImplicit false

namespace Agora.Service

open Http (Request Response)
open Time (Span)

/-- An answer that shows a message and nothing else. -/
def shows (status : Nat) (message : String) : Response :=
  .ofJson status (.object [("error", .string message)])

section

variable {env : Env} {q : Request} {s : State}

/-- Only for want of admission does a request end at admission. -/
theorem admission_halted {cutoff : Option Span} {why : Halt} {after : State}
    (ended : (admission env q).run env cutoff s = (.halted why, after)) :
    ∃ wait, why = .failed (.rateLimited wait) := by
  by_cases enabled : env.config.rateLimit.enabled = true
  · rw [run_admission enabled] at ended
    split at ended
    · cases ended
    · rename_i wait limiter _
      cases ended
      exact ⟨wait, rfl⟩
  · rw [admission, if_neg enabled] at ended
    cases ended

/-- A request ends early for a reason that fits its resource, or because its client is not
admitted. -/
theorem planRun_halted {why : Halt} {after : State} (ended : planRun env q s = (.halted why, after)) :
    (∃ r, resource? env.config q = some r ∧ why.Fits r.asks) ∨
      ∃ wait, why = .failed (.rateLimited wait) := by
  rw [planRun] at ended
  cases found : resource? env.config q with
  | none =>
    rw [plan_of_nothing found, Plan.run_then] at ended
    split at ended
    · cases ended
    · rename_i admits
      cases ended
      exact .inr (admission_halted admits)
    · cases ended
  | some r =>
    rw [plan_of_resource found, Plan.run_then] at ended
    split at ended
    · exact .inl ⟨r, rfl, (serve_conforms r).of_halted ended⟩
    · rename_i admits
      cases ended
      exact .inr (admission_halted admits)
    · cases ended

/-- An answer of a plan that comes to its end has neither of the two statuses. -/
theorem unfailing_of_done {response : Response}
    (ended : Concluded response ∨ response.status = 404) :
    response.status ≠ 401 ∧ response.status ≠ 500 := by
  rcases ended with (success | served) | missing
  · have range : 200 ≤ response.status ∧ response.status < 300 := by
      simpa [Succeeds, Http.isSuccess] using success
    omega
  · omega
  · omega

/-- Answers of these two statuses come from requests that end early. -/
theorem halted_of_status
    (status : (respond env q s).1.status = 401 ∨ (respond env q s).1.status = 500) :
    ∃ (r : Resource) (why : Halt), resource? env.config q = some r ∧ why.Fits r.asks ∧
      why.response.status = (respond env q s).1.status ∧
      (respond env q s).1 = finish env q why.response := by
  by_cases ready : started env q
  · have answered : (respond env q s).1 = finish env q (planRun env q s).1.response := by
      rw [respond_eq, answer_of_run ready]
    rw [answered, finish_status] at status ⊢
    cases ran : planRun env q s with
    | mk ending after =>
      rw [ran] at status
      cases ending with
      | cutOff => rcases status with impossible | impossible <;> cases impossible
      | done response =>
        have other := unfailing_of_done (planRun_done ran)
        rcases status with refused | failed
        · exact absurd refused other.1
        · exact absurd failed other.2
      | halted why =>
        rcases planRun_halted ran with ⟨r, found, fits⟩ | ⟨wait, rfl⟩
        · exact ⟨r, why, found, fits, rfl, rfl⟩
        · rcases status with impossible | impossible <;> cases impossible
  · obtain ⟨refused, _⟩ := respond_of_refused (s := s) ready
    omega

theorem Halt.of_unauthorized {why : Halt} (status : why.response.status = 401) :
    why = .failed .unauthorized ∨ why = .failed .operatorUnauthorized := by
  cases why with
  | invalidPath parameter => cases status
  | failed failure =>
    rw [response, Failure.response_status] at status
    cases failure with
    | unauthorized => exact .inl rfl
    | operatorUnauthorized => exact .inr rfl
    | _ => cases status

theorem Halt.of_internal {why : Halt} (status : why.response.status = 500) :
    why.response = shows 500 Failure.concealed := by
  cases why with
  | invalidPath parameter => cases status
  | failed failure =>
    rw [response, Failure.response_status] at status
    cases failure with
    | internal breakdown => rfl
    | _ => cases status

theorem Resource.member_of_asks {r : Resource} (asks : r.asks = .member) :
    r.access = .member ∨ r = .login := by
  cases r <;> first | exact .inr rfl | exact .inl asks

theorem Resource.operator_of_asks {r : Resource} (asks : r.asks = .operator) :
    r.access = .operator := by
  cases r <;> first | exact asks | cases asks

theorem Resource.serves_head (r : Resource) : r.serves .head = r.serves .get := by
  cases r <;> rfl

/-- The answer to a request for the head alone is that to the request for the whole, without its
body. -/
theorem finish_head (response : Response) (head : q.method = .head) :
    finish env q response = (finish env { q with method := .get } response).withoutBody := by
  have told : tellMethods env.config q response =
      tellMethods env.config { q with method := .get } response := by
    have same : resource? env.config { q with method := .get } = resource? env.config q := rfl
    rw [tellMethods, tellMethods, same]
    cases resource? env.config q with
    | none => rfl
    | some r =>
      dsimp only
      rw [head, r.serves_head]
  unfold finish
  rw [told, if_pos head]
  rfl

/-- An answer that shows a message has the message as its only content, which a request for the head
alone is not shown. -/
theorem body_of_shows (n : Nat) (message : String) :
    (finish env q (shows n message)).body =
      shownBody q (.json (.object [("error", .string message)])) := finish_body _

def challenge : Bytes := Bytes.ofString "Basic realm=\"restricted\", charset=\"UTF-8\""

/-- Where callers are refused, and what they are told: the same words everywhere, but that operators
are told how to present themselves. Nothing else goes into the answer. -/
inductive Refused (env : Env) (q : Request) (told : Response) : Prop where
  | member (r : Resource) (found : resource? env.config q = some r)
      (asks : r.access = .member ∨ r = .login)
      (words : told = finish env q (shows 401 "invalid authorization"))
      (body : told.body =
        shownBody q (.json (.object [("error", .string "invalid authorization")])))
      (plain : told.headers.first? "www-authenticate" = none)
  | operator (r : Resource) (found : resource? env.config q = some r) (asks : r.access = .operator)
      (words : told = finish env q
        ((shows 401 "invalid authorization").withHeader "www-authenticate" challenge))
      (body : told.body =
        shownBody q (.json (.object [("error", .string "invalid authorization")])))
      (challenged : told.headers.first? "www-authenticate" = some challenge)

structure Concealed (env : Env) (q : Request) (told : Response) : Prop where
  words : told = finish env q (shows 500 Failure.concealed)
  body : told.body = shownBody q (.json (.object [("error", .string
    "the server encountered a problem and could not process your request")]))

/-- Callers who are refused are told no more than that. -/
theorem refused_of_status (status : (respond env q s).1.status = 401) :
    Refused env q (respond env q s).1 := by
  obtain ⟨r, why, found, fits, same, answered⟩ := halted_of_status (.inl status)
  rcases Halt.of_unauthorized (same.trans status) with rfl | rfl
  · have words : (respond env q s).1 = finish env q (shows 401 "invalid authorization") := answered
    refine .member r found (Resource.member_of_asks fits) words ?_ ?_
    · rw [words, body_of_shows]
    · rw [words, finish_header _ (by decide) (by decide)]
      rfl
  · refine .operator r found (Resource.operator_of_asks fits) answered ?_ ?_
    · rw [answered]
      exact finish_body _
    · rw [answered, finish_header _ (by decide) (by decide)]
      rfl

/-- What has gone wrong inside the service is not told. -/
theorem concealed_of_status (status : (respond env q s).1.status = 500) :
    Concealed env q (respond env q s).1 := by
  obtain ⟨r, why, _, _, same, answered⟩ := halted_of_status (.inr status)
  have words : (respond env q s).1 = finish env q (shows 500 Failure.concealed) := by
    rw [answered, Halt.of_internal (same.trans status)]
  refine ⟨words, ?_⟩
  rw [words]
  exact body_of_shows 500 Failure.concealed

end

end Agora.Service
