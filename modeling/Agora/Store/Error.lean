import Agora.Time.Span

set_option autoImplicit false

namespace Agora.Store

inductive Outage where
  | offline
  /-- The answer did not come within the deadline. -/
  | overdue (deadline : Time.Span)
  | other (detail : String)
  deriving DecidableEq, Repr

inductive Error where
  | notFound
  | duplicateEmail
  | duplicateUsername
  | invalidToken
  | unknownRole (name : String)
  | unavailable (outage : Outage)
  deriving DecidableEq, Repr

def overdueText (deadline : Time.Span) : String := s!"deadline of {deadline.text} exceeded"

def Outage.message : Outage → String
  | .offline => "memory store offline"
  | .overdue deadline => overdueText deadline
  | .other detail => detail

def Error.message : Error → String
  | .notFound => "resource not found"
  | .duplicateEmail => "a user with that email already exists"
  | .duplicateUsername => "a user with that username already exists"
  | .invalidToken => "invalid or expired token"
  | .unknownRole name => s!"unknown role '{name}'"
  | .unavailable outage => s!"store unavailable: {outage.message}"

end Agora.Store
