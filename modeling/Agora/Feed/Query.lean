import Agora.Text.Blank

set_option autoImplicit false

namespace Agora.Feed

inductive Order where
  | ascending
  | descending
  deriving DecidableEq, Repr

/-- A page of the posts that carry all tags and contain the searched text. -/
structure Query where
  limit : Nat := 20
  offset : Nat := 0
  order : Order := .descending
  tags : List String := []
  search : String := ""
  deriving DecidableEq, Repr

structure Params where
  limit : Option Int := none
  offset : Option Int := none
  sort : Option String := none
  tags : Option String := none
  search : Option String := none
  deriving DecidableEq, Repr

inductive Refusal where
  | limitOutOfRange
  | negativeOffset
  | unknownSort (text : String)
  | tooManyTags
  | searchTooLong
  deriving DecidableEq, Repr

def mostPosts : Nat := 100

def mostTags : Nat := 5

def longestSearch : Nat := 100

def Refusal.message : Refusal → String
  | .limitOutOfRange => s!"limit must be between 1 and {mostPosts}"
  | .negativeOffset => "offset must not be negative"
  | .unknownSort text => s!"sort must be 'asc' or 'desc', got '{text}'"
  | .tooManyTags => s!"at most {mostTags} tags are allowed"
  | .searchTooLong => s!"search must be at most {longestSearch} characters"

namespace Params

def limit? : Option Int → Except Refusal Nat
  | none => .ok 20
  | some n => if 1 ≤ n ∧ n ≤ mostPosts then .ok n.toNat else .error .limitOutOfRange

def offset? : Option Int → Except Refusal Nat
  | none => .ok 0
  | some n => if 0 ≤ n then .ok n.toNat else .error .negativeOffset

def order? : Option String → Except Refusal Order
  | none => .ok .descending
  | some text =>
    if text = "desc" then .ok .descending
    else if text = "asc" then .ok .ascending
    else .error (.unknownSort text)

/-- The parts between commas without the blanks around them, empty ones left out. -/
def splitTags (text : String) : List String :=
  ((text.toList.splitOn ',').map Text.trim |>.filter (!·.isEmpty)).map String.ofList

def tags? : Option String → Except Refusal (List String)
  | none => .ok []
  | some text =>
    let tags := splitTags text
    if tags.length ≤ mostTags then .ok tags else .error .tooManyTags

def search? : Option String → Except Refusal String
  | none => .ok ""
  | some text => if text.length ≤ longestSearch then .ok text else .error .searchTooLong

/-- The query of the parameters. -/
def query (p : Params) : Except Refusal Query := do
  let limit ← limit? p.limit
  let offset ← offset? p.offset
  let order ← order? p.sort
  let tags ← tags? p.tags
  let search ← search? p.search
  return ⟨limit, offset, order, tags, search⟩

end Params

end Agora.Feed
