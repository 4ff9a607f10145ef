import Agora.Store.Entity
import Agora.Store.Error
import Agora.Table.Directory

set_option autoImplicit false

namespace Agora.Store

open Table (Directory Ledger)

/-- The roles of a new store with their levels, the lowest first. -/
def startingRoles : List (String × Int) := [("user", 1), ("moderator", 2), ("admin", 3)]

structure Tables where
  accounts : Ledger Account := .empty
  /-- Invitations by the digest of their token. -/
  invitations : Directory String Invitation := .empty
  roles : Directory String Int := .ofList startingRoles
  posts : Ledger Post := .empty
  comments : Ledger Remark := .empty
  /-- Who follows whom. -/
  follows : List (Int × Int) := []
  deriving DecidableEq

/-- The answer of an operation and the tables after it, or why it fails. -/
abbrev Outcome (α : Type) := Except Error (α × Tables)

namespace Tables

/-- The name of a user; none is empty. -/
def usernameOf (t : Tables) (id : Int) : String :=
  ((t.accounts.get? id).map (·.user.username)).getD ""

def answer {α : Type} (t : Tables) (found : Option α) (missing : Error) : Outcome α :=
  match found with
  | some a => .ok (a, t)
  | none => .error missing

end Tables

end Agora.Store
