import Agora.Address.Endpoint
import Agora.Http.MediaType
import Agora.Http.Method
import Agora.Text.Numeral
import Agora.Text.Percent

/-!
Requests. The target is a path, and behind a question mark parameters in the form of named values;
what follows a number sign is not part of either. A scheme and a host may stand before the path, and
a path that is left out behind them is a single slash.
-/

set_option autoImplicit false

namespace Agora.Http

/-- A request, with the endpoint that it came from if that is known. -/
structure Request where
  method : Method
  target : String
  headers : Headers := []
  body : Bytes := []
  peer : Option Address.Endpoint := none

def isScheme (c : Char) : Bool := c.isAlphanum || c = '+' || c = '-' || c = '.'

/-- A target without the scheme and the host before its path. -/
def withoutHost (target : List Char) : List Char :=
  match target.dropWhile isScheme with
  | ':' :: '/' :: '/' :: rest =>
    let rest := rest.dropWhile fun c => c ≠ '/' && c ≠ '?'
    if rest.head? = some '/' then rest else '/' :: rest
  | _ => target

namespace Request

def resource (q : Request) : List Char := withoutHost (q.target.toList.takeWhile (· ≠ '#'))

def path (q : Request) : List Char := q.resource.takeWhile (· ≠ '?')

/-- The pieces of the path between slashes; the first is empty. -/
def segments (q : Request) : List String := (q.path.splitOn '/').map String.ofList

def parameters (q : Request) : List (String × String) :=
  Text.Percent.formPairs <|
    Bytes.ofString (String.ofList ((q.resource.dropWhile (· ≠ '?')).drop 1))

/-- The length of the body that the headers declare, if they declare one. -/
def declaredLength (q : Request) : Option Nat :=
  (q.headers.firstText? "content-length").bind fun text =>
    (Text.Numeral.word64 text).toOption

end Request

/-- The text of a piece of a path, its escapes replaced; none if that is no text. -/
def pathText? (segment : String) : Option String :=
  Bytes.toString? (Text.Percent.decode (Bytes.ofString segment))

end Agora.Http
