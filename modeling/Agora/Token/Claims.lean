import Agora.Config.Basic
import Agora.Json.Reader

set_option autoImplicit false

namespace Agora.Token

open Schema (Shape Fields)

structure Claims where
  subject : String
  issuedAt : Int
  notBefore : Int
  expires : Int
  issuer : String
  audience : String
  deriving DecidableEq, Repr

namespace Claims

def toJson (c : Claims) : Json.Value :=
  .object [
    ("sub", .string c.subject),
    ("iat", .whole c.issuedAt),
    ("nbf", .whole c.notBefore),
    ("exp", .whole c.expires),
    ("iss", .string c.issuer),
    ("aud", .string c.audience)]

abbrev fields : Fields :=
  .cons "sub" .required .text <| .cons "iat" .required .int64 <| .cons "nbf" .required .int64 <|
    .cons "exp" .required .int64 <| .cons "iss" .required .text <|
    .cons "aud" .required .text .nil

def ofFields : fields.Value → Claims
  | (subject, issuedAt, notBefore, expires, issuer, audience, ()) =>
    ⟨subject, issuedAt, notBefore, expires, issuer, audience⟩

/-- Read claims; they are an object and never a list. -/
def parse? (text : Bytes) : Option Claims :=
  match Json.Lexeme.skipSpace text with
  | 0x7B :: _ => (Json.read (.record .ignored fields) text).toOption.map ofFields
  | _ => none

/-- A number of 64 bits with a sign, whatever lies outside their range being taken around it. -/
def wrap (n : Int) : Int := n.bmod (2 ^ 64)

def issue (config : Config.Token) (now : Int) (userId : Int) : Claims where
  subject := toString userId
  issuedAt := now
  notBefore := now
  expires := wrap (now + wrap config.expiry)
  issuer := config.issuer
  audience := config.audience

end Claims

end Agora.Token
