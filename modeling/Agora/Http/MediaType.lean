import Agora.Http.Headers

set_option autoImplicit false

namespace Agora.Http

/-- A media type without its parameters, in lower case. -/
structure MediaType where
  type : List Char
  subtype : List Char
  suffix : Option (List Char)
  deriving DecidableEq, Repr

namespace MediaType

def isToken (c : Char) : Bool := c.isAlphanum || "!#$%&'*+-.^_`|~".toList.contains c

/-- A character between quotes. There are no escapes: a backslash stands for itself. -/
def isQuotable (c : Char) : Bool := 32 ≤ c.toNat && c.toNat ≠ 127

inductive Position where
  /-- Before a parameter, where spaces may stand. -/
  | outside
  | name
  | valueStart
  | value
  /-- Behind the opening quote; a quote here does not close the value. -/
  | quoteStart
  | quoted
  /-- Behind the closing quote, where spaces may stand. -/
  | closed
  deriving DecidableEq, Repr

/-- Read one character of the parameters. -/
def Position.after (p : Position) (c : Char) : Option Position :=
  match p with
  | .outside => if c = ' ' then some .outside else if isToken c then some .name else none
  | .name => if c = '=' then some .valueStart else if isToken c then some .name else none
  | .valueStart => if c = '"' then some .quoteStart else if isToken c then some .value else none
  | .value => if c = ';' then some .outside else if isToken c then some .value else none
  | .quoteStart => if isQuotable c then some .quoted else none
  | .quoted => if c = '"' then some .closed else if isQuotable c then some .quoted else none
  | .closed => if c = ';' then some .outside else if c = ' ' then some .closed else none

/-- Parameters may end here. -/
def Position.mayEnd : Position → Bool
  | .outside | .valueStart | .value | .closed => true
  | .name | .quoteStart | .quoted => false

def wellFormed (params : List Char) : Bool :=
  (params.foldlM Position.after .outside).any Position.mayEnd

/-- Divide a subtype at its last plus sign, which must not begin it. -/
def divide (subtype : List Char) : List Char × Option (List Char) :=
  let suffix := (subtype.reverse.takeWhile (· ≠ '+')).reverse
  let before := subtype.length - suffix.length
  if 2 ≤ before then (subtype.take (before - 1), some suffix) else (subtype, none)

/-- Read a media type. -/
def parse? (text : String) : Option MediaType :=
  let cs := text.toList.map Char.toLower
  let type := cs.takeWhile isToken
  match cs.dropWhile isToken with
  | '/' :: rest =>
    let subtype := rest.takeWhile isToken
    let params := rest.dropWhile isToken
    let (subtype, suffix) := divide subtype
    let sound := match params with
      | [] => true
      | c :: params => c = ';' && !subtype.isEmpty && wellFormed params
    if !type.isEmpty && sound then some ⟨type, subtype, suffix⟩ else none
  | _ => none

/-- The media type is that of JSON, or of a format that is written in it. -/
def isJson (m : MediaType) : Bool :=
  m.type = "application".toList &&
    (m.subtype = "json".toList || m.suffix = some "json".toList)

end MediaType

def Headers.saysJson (hs : Headers) : Bool :=
  ((hs.firstText? "content-type").bind MediaType.parse?).any MediaType.isJson

end Agora.Http
