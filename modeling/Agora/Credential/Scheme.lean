import Agora.Config.Basic
import Agora.Base64
import Agora.Digest.Sha256
import Agora.Http.Headers
import Agora.Store.Error
import Agora.Text.Blank
import Agora.Token.Signed

set_option autoImplicit false

namespace Agora.Credential

inductive Refusal where
  | missingHeader
  | malformedHeader
  | wrongScheme
  | token (fault : Token.Fault)
  /-- The user of a sound token could not be loaded. -/
  | identity (error : Store.Error)
  | badCredentials
  deriving DecidableEq, Repr

inductive Stage where
  | header
  | token
  | subject
  | identity
  | basic
  deriving DecidableEq, Repr

def Stage.name : Stage → String
  | .header => "header"
  | .token => "token"
  | .subject => "subject"
  | .identity => "identity"
  | .basic => "basic"

def Refusal.stage : Refusal → Stage
  | .missingHeader | .malformedHeader | .wrongScheme => .header
  | .token (.rejected _) => .token
  | .token .subjectNotNumber => .subject
  | .identity _ => .identity
  | .badCredentials => .basic

def Refusal.message : Refusal → String
  | .missingHeader => "authorization header missing"
  | .malformedHeader => "authorization header malformed"
  | .wrongScheme => "unexpected authorization scheme"
  | .token (.rejected _) => "token rejected"
  | .token .subjectNotNumber => "token subject is not a user id"
  | .identity error => s!"identity lookup failed: {error.message}"
  | .badCredentials => "basic credentials do not match"

/-- The text before the first of a character, and the text after it. -/
def splitFirst? (c : Char) (cs : List Char) : Option (List Char × List Char) :=
  let before := cs.takeWhile (· ≠ c)
  if before.length < cs.length then some (before, cs.drop (before.length + 1)) else none

def ofHeaders (scheme : String) (headers : Http.Headers) : Except Refusal (List Char) := do
  let some value := headers.first? "authorization" | .error .missingHeader
  let some text := Http.Headers.text? value | .error .malformedHeader
  let some (given, rest) := splitFirst? ' ' text.toList | .error .malformedHeader
  if given ≠ scheme.toList then .error .wrongScheme
  let rest := Text.trim rest
  if rest.isEmpty then .error .malformedHeader
  return rest

def bearer (config : Config.Token) (now : Int) (headers : Http.Headers) : Except Refusal Int := do
  let token ← ofHeaders "Bearer" headers
  (Token.verify config now (String.ofList token)).mapError .token

/-- Two texts have one digest. -/
def sameDigest (given expected : String) : Bool :=
  Digest.Sha256.hash (Bytes.ofString given) = Digest.Sha256.hash (Bytes.ofString expected)

def basicPair (credential : List Char) : Except Refusal (String × String) := do
  let some octets := Base64.standard.decode? credential | .error .malformedHeader
  let some text := Bytes.toString? octets | .error .malformedHeader
  let some (username, password) := splitFirst? ':' text.toList | .error .malformedHeader
  return (String.ofList username, String.ofList password)

/-- Whether a request carries the operator's credentials. -/
def operator (expected : Config.Operator) (headers : Http.Headers) : Except Refusal Unit := do
  let (username, password) ← basicPair (← ofHeaders "Basic" headers)
  if sameDigest username expected.username && sameDigest password expected.password then .ok ()
  else .error .badCredentials

end Agora.Credential
