import Agora.Address.Endpoint
import Agora.Http.Headers
import Agora.Text.Blank

set_option autoImplicit false

namespace Agora.Admission.Client

open Address (Ip Endpoint)

/-- The text in which a proxy reports the client: the one real address, or else the first of the
addresses that the request passed. -/
def reported? (headers : Http.Headers) : Option String :=
  match headers.firstText? "x-real-ip" with
  | some text => some text
  | none =>
    (headers.firstText? "x-forwarded-for").map fun text =>
      String.ofList (text.toList.takeWhile (· ≠ ','))

/-- The address that a proxy reports, if its text is one. -/
def forwarded? (headers : Http.Headers) : Option Ip :=
  (reported? headers).bind fun text => Ip.parse? (String.ofList (Text.trim text.toList))

def address? (trusted : Bool) (headers : Http.Headers) (peer : Option Endpoint) : Option Ip :=
  (if trusted then forwarded? headers else none).or (peer.map (·.ip))

def unknown : String := "unknown"

/-- The key of the client: the text of its address. -/
def key (trusted : Bool) (headers : Http.Headers) (peer : Option Endpoint) : String :=
  ((address? trusted headers peer).map Ip.render).getD unknown

end Agora.Admission.Client
