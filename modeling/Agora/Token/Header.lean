import Agora.Json.Reader

set_option autoImplicit false

namespace Agora.Token.Header

open Schema (Shape Fields)
open Json (Value)

def issued : Value := .object [("typ", .string "JWT"), ("alg", .string "HS256")]

def algorithms : List String :=
  ["HS256", "HS384", "HS512", "ES256", "ES384", "RS256", "RS384", "RS512", "PS256", "PS384",
   "PS512", "EdDSA"]

def accepted : String := "HS256"

abbrev text (name : String) (rest : Fields) : Fields := .cons name .required (.optional .text) rest

abbrev texts (name : String) (rest : Fields) : Fields :=
  .cons name .required (.optional (.list .text)) rest

abbrev fields : Fields :=
  .cons "alg" .required .document <| .cons "jwk" .required (.optional .document) <|
    text "typ" <| text "cty" <| text "jku" <| text "kid" <| text "x5u" <| texts "x5c" <|
    text "x5t" <| text "x5t#S256" <| texts "crit" <| text "enc" <| text "zip" <| text "url" <|
    text "nonce" .nil

/-- The name that a value gives, one of some: as text, or as an object of the name and null. -/
def nameOf? (names : List String) (v : Value) : Option String :=
  let name := match v with
    | .string s => some s
    | .object [(s, .null)] => some s
    | _ => none
  name.filter names.contains

abbrev Members := List (String × Value)

/-- There is one member of the name, and it is as wanted. -/
def Members.has (members : Members) (name : String) (wanted : Value → Bool) : Bool :=
  match members.filter (·.1 = name) with
  | [(_, v)] => wanted v
  | _ => false

/-- There is at most one member of the name, and it is null or as wanted. -/
def Members.mayHave (members : Members) (name : String) (wanted : Value → Bool) : Bool :=
  match members.filter (·.1 = name) with
  | [] => true
  | [(_, .null)] => true
  | [(_, v)] => wanted v
  | _ => false

def isText : Value → Bool
  | .string _ => true
  | _ => false

def isTexts : Value → Bool
  | .array items => items.all isText
  | _ => false

def isNameIn (names : List String) (v : Value) : Bool := (nameOf? names v).isSome

/-- The value may say what a key is used for: any name will do, as text or as an object of the name
and nothing. -/
def isUsage : Value → Bool
  | .string _ => true
  | .object [(_, .null)] => true
  | .object [(_, .object [])] => true
  | _ => false

def curves : List String := ["P-256", "P-384", "P-521", "Ed25519"]

def Members.areSound (members : Members) : Bool :=
  ["use", "kid", "x5u", "x5t", "x5t#S256"].all (members.mayHave · isText) &&
    ["key_ops", "x5c"].all (members.mayHave · isTexts) && members.mayHave "alg" isUsage

def Members.fitKind (members : Members) : Bool :=
  let kind name := members.has "kty" (isNameIn [name])
  let curve := members.has "crv" (isNameIn curves)
  let texts names := names.all (members.has · isText)
  (kind "EC" && curve && texts ["x", "y"]) || (kind "RSA" && texts ["n", "e"]) ||
    (kind "oct" && texts ["k"]) || (kind "OKP" && curve && texts ["x"])

/-- The value describes a key. -/
def isKey : Value → Bool
  | .object members => Members.areSound members && Members.fitKind members
  | _ => false

def ofFields : fields.Value → Option String
  | (algorithm, key, _) =>
    if key.all isKey then nameOf? algorithms algorithm else none

def parse? (text : Bytes) : Option String :=
  (Json.read (.record .texts fields) text).toOption.bind ofFields

end Agora.Token.Header
