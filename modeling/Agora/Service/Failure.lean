import Agora.Credential.Password
import Agora.Feed.Query
import Agora.Http.Response
import Agora.Json.Lexeme
import Agora.Store.Error
import Agora.Text.Numeral

/-!
Failures of requests. A failure is a cause; its status and its words follow from it in one place
each. What went wrong inside the service is never shown: all such failures have one answer.
-/

set_option autoImplicit false

namespace Agora.Service

open Http (Response)

inductive BodyFault where
  | notJson
  | tooLong
  | content (fault : Json.Fault)
  deriving DecidableEq, Repr

def BodyFault.message : BodyFault → String
  | .notJson => "Expected request with `Content-Type: application/json`"
  | .tooLong => "Failed to buffer the request body: length limit exceeded"
  | .content .malformed => "Failed to parse the request body as JSON"
  | .content .mismatched => "Failed to deserialize the JSON body into the target type"

inductive QueryFault where
  | number (field : String) (fault : Text.Numeral.Fault)
  | repeated (field : String)
  deriving DecidableEq, Repr

def numeralMessage : Text.Numeral.Fault → String
  | .empty => "cannot parse integer from empty string"
  | .invalidDigit => "invalid digit found in string"
  | .tooLarge => "number too large to fit in target type"
  | .tooSmall => "number too small to fit in target type"

def QueryFault.message : QueryFault → String
  | .number field fault =>
    s!"Failed to deserialize query string: {field}: {numeralMessage fault}"
  | .repeated field => s!"Failed to deserialize query string: duplicate field `{field}`"

inductive Complaint where
  | invalidId (raw : String)
  | required (field : String)
  | tooShort (field : String) (least : Nat)
  | tooLong (field : String) (most : Nat)
  | notAnAddress
  | nothingToChange
  | postIdNotPositive
  | selfFollow
  | missingToken
  | feed (refusal : Feed.Refusal)
  | body (fault : BodyFault)
  | query (fault : QueryFault)
  | store (error : Store.Error)
  | other (text : String)
  deriving DecidableEq, Repr

def Complaint.message : Complaint → String
  | .invalidId raw => s!"invalid id '{raw}'"
  | .required field => s!"{field} is required"
  | .tooShort field least => s!"{field} must be at least {least} characters"
  | .tooLong field most => s!"{field} must be at most {most} characters"
  | .notAnAddress => "email must be a valid address"
  | .nothingToChange => "at least one of title or content is required"
  | .postIdNotPositive => "post_id must be positive"
  | .selfFollow => "you cannot follow yourself"
  | .missingToken => "missing token"
  | .feed refusal => refusal.message
  | .body fault => fault.message
  | .query fault => fault.message
  | .store error => error.message
  | .other text => text

/-- What went wrong inside the service. -/
inductive Breakdown where
  | store (error : Store.Error)
  | hashing (fault : Credential.HashFault)
  | invitationTtl (seconds : Nat)
  | other (text : String)
  deriving DecidableEq, Repr

/-- The words for what went wrong inside, which no answer shows. -/
def Breakdown.message : Breakdown → String
  | .store error => error.message
  | .hashing fault => s!"password hashing failed: {fault.message}"
  | .invitationTtl seconds => s!"invitation ttl {seconds}s out of range"
  | .other text => text

/-- Why a request fails. -/
inductive Failure where
  | badRequest (complaint : Complaint)
  | unauthorized
  /-- The operator's credentials are wanted. -/
  | operatorUnauthorized
  | forbidden
  | notFound
  | conflict
  | rateLimited (retryAfter : Time.Span)
  | internal (breakdown : Breakdown)
  deriving DecidableEq, Repr

namespace Failure

/-- The failure that an error of the store makes of a request. -/
def ofStore : Store.Error → Failure
  | .notFound => .notFound
  | .duplicateEmail => .badRequest (.store .duplicateEmail)
  | .duplicateUsername => .badRequest (.store .duplicateUsername)
  | .invalidToken => .badRequest (.store .invalidToken)
  | .unknownRole name => .internal (.store (.unknownRole name))
  | .unavailable outage => .internal (.store (.unavailable outage))

def status : Failure → Nat
  | .badRequest _ => 400
  | .unauthorized | .operatorUnauthorized => 401
  | .forbidden => 403
  | .notFound => 404
  | .conflict => 409
  | .rateLimited _ => 429
  | .internal _ => 500

def message : Failure → String
  | .badRequest complaint => complaint.message
  | .unauthorized | .operatorUnauthorized => "invalid authorization"
  | .forbidden => "not permitted"
  | .notFound => "resource not found"
  | .conflict => "edit conflict: the resource changed, reload and try again"
  | .rateLimited _ => "rate limit exceeded"
  | .internal breakdown => s!"internal error: {breakdown.message}"

/-- The words that every failure inside the service shows. -/
def concealed : String :=
  "the server encountered a problem and could not process your request"

def shown : Failure → String
  | .internal _ => concealed
  | f => f.message

def challenge : String := "Basic realm=\"restricted\", charset=\"UTF-8\""

def response (f : Failure) : Response :=
  let r := Response.ofJson f.status (.object [("error", .string f.shown)])
  match f with
  | .rateLimited retryAfter =>
    r.withHeader "retry-after" (Bytes.ofString (toString retryAfter.coveringSeconds))
  | .operatorUnauthorized => r.withHeader "www-authenticate" (Bytes.ofString challenge)
  | _ => r

end Failure

end Agora.Service
