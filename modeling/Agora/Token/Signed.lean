import Agora.Base64
import Agora.Digest.Hmac
import Agora.Text.Numeral
import Agora.Token.Claims
import Agora.Token.Header

/-!
Signed tokens. A token is a head, claims and a signature in base 64 with dots between them; the
signature is the digest of head and claims under the secret. Verifying goes from the form of the
token over its head and signature to the claims, and the first fault decides.
-/

set_option autoImplicit false

namespace Agora.Token

inductive Rejection where
  | notThreeParts
  | notBase64
  | notJson
  | otherAlgorithm
  | wrongSignature
  | missingClaim
  | expired
  | immature
  | otherIssuer
  | otherAudience
  deriving DecidableEq, Repr

inductive Fault where
  | rejected (r : Rejection)
  /-- The token is sound, and its subject is no number of a user. -/
  | subjectNotNumber
  deriving DecidableEq, Repr

def part (b : Bytes) : List Char := Base64.urlSafe.encode b

def signature (secret : String) (message : List Char) : Bytes :=
  Digest.Hmac.sign (Bytes.ofString secret) (Bytes.ofString (String.ofList message))

def message (claims : Claims) : List Char :=
  part (Bytes.ofString Header.issued.render) ++ '.' :: part (Bytes.ofString claims.toJson.render)

/-- Sign claims. -/
def sign (config : Config.Token) (claims : Claims) : String :=
  let signed := message claims
  String.ofList (signed ++ '.' :: part (signature config.secret signed))

/-- Issue a token to a user. -/
def issue (config : Config.Token) (now userId : Int) : String :=
  sign config (.issue config now userId)

/-- A text before and after its last dot. -/
def splitLast? (cs : List Char) : Option (List Char × List Char) :=
  let after := cs.reverse.takeWhile (· ≠ '.')
  if after.length < cs.length then
    some (cs.take (cs.length - after.length - 1), after.reverse)
  else none

def octets (cs : List Char) : Except Rejection Bytes :=
  match Base64.urlSafe.decode? cs with
  | some b => .ok b
  | none => .error .notBase64

def readable {α : Type} (value : Option α) : Except Rejection α :=
  match value with
  | some a => .ok a
  | none => .error .notJson

def demand (holds : Bool) (otherwise : Rejection) : Except Rejection Unit :=
  if holds then .ok () else .error otherwise

/-- A number of 64 bits without a sign, whatever lies outside their range being taken around it. -/
def wrapWord (n : Int) : Int := n % 2 ^ 64

namespace Claims

def check (config : Config.Token) (now : Int) (c : Claims) : Except Rejection Unit := do
  demand (0 ≤ c.expires && 0 ≤ c.notBefore) .missingClaim
  demand (wrapWord (now - config.leeway) ≤ c.expires) .expired
  demand (c.notBefore ≤ wrapWord (now + config.leeway)) .immature
  demand (c.issuer = config.issuer) .otherIssuer
  demand (c.audience = config.audience) .otherAudience

end Claims

/-- The claims of a token that is sound at a time. -/
def claims (config : Config.Token) (now : Int) (token : String) : Except Rejection Claims := do
  let some (message, signed) := splitLast? token.toList | .error .notThreeParts
  let some (head, payload) := splitLast? message | .error .notThreeParts
  let algorithm ← readable (Header.parse? (← octets head))
  demand (algorithm = Header.accepted) .otherAlgorithm
  let given ← octets signed
  demand (given = signature config.secret message) .wrongSignature
  let c ← readable (Claims.parse? (← octets payload))
  c.check config now
  return c

/-- The user whom a token was issued to, if it is sound at a time. -/
def verify (config : Config.Token) (now : Int) (token : String) : Except Fault Int :=
  match claims config now token with
  | .error r => .error (.rejected r)
  | .ok c =>
    match Text.Numeral.int64 c.subject with
    | .ok id => .ok id
    | .error _ => .error .subjectNotNumber

end Agora.Token
