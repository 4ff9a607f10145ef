import Agora.Http.Request
import Agora.Json.Reader
import Agora.Service.Failure

set_option autoImplicit false

namespace Agora.Service

open Http (Request)
open Schema (Shape Fields)

/-- The most octets of a body that are read as a document, whatever the configuration allows. -/
def longestDocument : Nat := 2097152

/-- The most octets of the body that are read. -/
def bodyLimit (most : Nat) (q : Request) : Nat :=
  min longestDocument (min most (q.declaredLength.getD most))

def readBody (most : Nat) (fields : Fields) (q : Request) : Except Complaint fields.Value :=
  if !q.headers.saysJson then .error (.body .notJson)
  else if bodyLimit most q < q.body.length then .error (.body .tooLong)
  else (Json.read (.record .ignored fields) q.body).mapError fun fault => .body (.content fault)

def checkLength (field text : String) (least most : Nat) : Except Complaint Unit :=
  if text.length < least then
    .error (if least = 1 then .required field else .tooShort field least)
  else if most < text.length then .error (.tooLong field most)
  else .ok ()

def demand (holds : Bool) (otherwise : Complaint) : Except Complaint Unit :=
  if holds then .ok () else .error otherwise

def checkEmail (email : String) : Except Complaint Unit := checkLength "email" email 1 255

def checkPassword (password : String) : Except Complaint Unit :=
  checkLength "password" password 8 50

structure Registration where
  username : String
  email : String
  password : String
  deriving DecidableEq, Repr

namespace Registration

abbrev fields : Fields :=
  .cons "username" .required .text <| .cons "email" .required .text <|
    .cons "password" .required .text .nil

def ofFields : fields.Value → Registration
  | (username, email, password, ()) => ⟨username, email, password⟩

def check (r : Registration) : Except Complaint Unit := do
  checkEmail r.email
  demand (r.email.toList.contains '@') .notAnAddress
  checkLength "username" r.username 8 20
  checkPassword r.password

def ofRequest (most : Nat) (q : Request) : Except Complaint Registration := do
  let r := ofFields (← readBody most fields q)
  r.check
  return r

end Registration

structure Login where
  email : String
  password : String
  deriving DecidableEq, Repr

namespace Login

abbrev fields : Fields := .cons "email" .required .text <| .cons "password" .required .text .nil

def ofFields : fields.Value → Login
  | (email, password, ()) => ⟨email, password⟩

def ofRequest (most : Nat) (q : Request) : Except Complaint Login := do
  let l := ofFields (← readBody most fields q)
  checkEmail l.email
  checkPassword l.password
  return l

end Login

def checkTitle (title : String) : Except Complaint Unit := checkLength "title" title 1 100

def checkContent (content : String) : Except Complaint Unit :=
  checkLength "content" content 1 1000

structure Draft where
  title : String
  content : String
  tags : List String
  deriving DecidableEq, Repr

namespace Draft

abbrev fields : Fields :=
  .cons "title" .required .text <| .cons "content" .required .text <|
    .cons "tags" .free (.list .text) .nil

/-- The post of its fields; without tags it has none. -/
def ofFields : fields.Value → Draft
  | (title, content, tags, ()) => ⟨title, content, tags.getD []⟩

def ofRequest (most : Nat) (q : Request) : Except Complaint Draft := do
  let d := ofFields (← readBody most fields q)
  checkTitle d.title
  checkContent d.content
  return d

end Draft

structure Revision where
  title : Option String
  content : Option String
  version : Option Int
  deriving DecidableEq, Repr

namespace Revision

abbrev fields : Fields :=
  .cons "title" .required (.optional .text) <| .cons "content" .required (.optional .text) <|
    .cons "version" .required (.optional .int64) .nil

def ofFields : fields.Value → Revision
  | (title, content, version, ()) => ⟨title, content, version⟩

/-- Demand that a change changes something and keeps within the limits. -/
def check (r : Revision) : Except Complaint Unit := do
  demand (r.title.isSome || r.content.isSome) .nothingToChange
  r.title.forM checkTitle
  r.content.forM checkContent

def ofRequest (most : Nat) (q : Request) : Except Complaint Revision := do
  let r := ofFields (← readBody most fields q)
  r.check
  return r

end Revision

structure Reply where
  postId : Int
  text : String
  deriving DecidableEq, Repr

namespace Reply

abbrev fields : Fields := .cons "post_id" .required .int64 <| .cons "comment" .required .text .nil

def ofFields : fields.Value → Reply
  | (postId, text, ()) => ⟨postId, text⟩

def ofRequest (most : Nat) (q : Request) : Except Complaint Reply := do
  let r := ofFields (← readBody most fields q)
  demand (0 < r.postId) .postIdNotPositive
  checkLength "comment" r.text 1 100
  return r

end Reply

def readNumber (field text : String) : Except Complaint Int :=
  (Text.Numeral.int64 text).mapError fun fault => .query (.number field fault)

/-- Fill a place that is still free. -/
def fill {α : Type} (name : String) (place : Option α) (value : Except Complaint α) :
    Except Complaint (Option α) :=
  if place.isSome then .error (.query (.repeated name)) else value.map some

/-- Take in one more parameter of a feed; those of other names are passed over. -/
def takeParameter (p : Feed.Params) (parameter : String × String) :
    Except Complaint Feed.Params := do
  let (name, text) := parameter
  if name = "limit" then
    return { p with limit := ← fill name p.limit (readNumber name text) }
  else if name = "offset" then
    return { p with offset := ← fill name p.offset (readNumber name text) }
  else if name = "sort" then return { p with sort := ← fill name p.sort (.ok text) }
  else if name = "tags" then return { p with tags := ← fill name p.tags (.ok text) }
  else if name = "search" then return { p with search := ← fill name p.search (.ok text) }
  else return p

/-- Read what is asked of a feed. -/
def readQuery (q : Request) : Except Complaint Feed.Query := do
  let params ← q.parameters.foldlM takeParameter {}
  params.query.mapError .feed

end Agora.Service
