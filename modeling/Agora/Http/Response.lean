import Agora.Http.Headers
import Agora.Json.Value

set_option autoImplicit false

namespace Agora.Http

inductive Body where
  | empty
  | json (v : Json.Value)
  | text (s : String)
  deriving Repr

structure Response where
  status : Nat
  headers : Headers := []
  body : Body := .empty
  deriving Repr

def isSuccess (status : Nat) : Bool := 200 ≤ status && status < 300

namespace Response

def ofStatus (status : Nat) : Response := { status }

def ofJson (status : Nat) (v : Json.Value) : Response where
  status
  headers := [.ofText "content-type" "application/json"]
  body := .json v

def ofText (status : Nat) (s : String) : Response where
  status
  headers := [.ofText "content-type" "text/plain; charset=utf-8"]
  body := .text s

def withHeader (r : Response) (name : String) (value : Bytes) : Response :=
  { r with headers := r.headers ++ [⟨name, value⟩] }

/-- The answer with its body left out; its headers stay. -/
def withoutBody (r : Response) : Response := { r with body := .empty }

def data (status : Nat) (v : Json.Value) : Response := ofJson status (.object [("data", v)])

end Response

end Agora.Http
