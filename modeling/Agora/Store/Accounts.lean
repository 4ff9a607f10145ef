import Agora.Store.Tables

set_option autoImplicit false

namespace Agora.Store.Tables

open Time (Stamp)

/-- Add an account without asking whether its email or name is taken. -/
def seedUser (now : Stamp) (new : NewUser) (active : Bool) (t : Tables) : Outcome User :=
  if t.roles.contains new.role then
    let make (id : Int) : Account :=
      ⟨⟨id, new.username, new.email, now, active, new.role⟩, new.passwordHash⟩
    .ok ((make t.accounts.next).user, { t with accounts := t.accounts.add make })
  else .error (.unknownRole new.role)

def emailTaken (t : Tables) (email : String) : Bool :=
  t.accounts.rows.any fun a => a.user.email = email

def usernameTaken (t : Tables) (username : String) : Bool :=
  t.accounts.rows.any fun a => a.user.username = username

/-- Register an account and file its invitation. -/
def createAndInvite (now : Stamp) (new : NewUser) (digest : String) (expires : Stamp)
    (t : Tables) : Outcome User :=
  if t.emailTaken new.email then .error .duplicateEmail
  else if t.usernameTaken new.username then .error .duplicateUsername
  else
    match t.seedUser now new false with
    | .ok (user, t) =>
      .ok (user, { t with invitations := t.invitations.set digest ⟨user.id, expires⟩ })
    | .error e => .error e

def user (id : Int) (t : Tables) : Outcome User :=
  t.answer ((t.accounts.get? id).map (·.user)) .notFound

/-- The first account with an email. -/
def credentials (email : String) (t : Tables) : Outcome Account :=
  t.answer (t.accounts.rows.find? fun a => a.user.email = email) .notFound

def activated (a : Account) : Account := { a with user := { a.user with isActive := true } }

def withdraw (t : Tables) (id : Int) : Table.Directory String Invitation :=
  t.invitations.filter fun _ i => i.userId ≠ id

/-- Activate the account that an open invitation belongs to. -/
def activate (now : Stamp) (digest : String) (t : Tables) : Outcome Int :=
  match t.invitations.get? digest with
  | some i =>
    if now.before i.expires && t.accounts.contains i.userId then
      .ok (i.userId, { t with
        accounts := t.accounts.modify i.userId activated
        invitations := t.withdraw i.userId })
    else .error .invalidToken
  | none => .error .invalidToken

/-- Take an account out, with its invitations and all that follows it or that it follows. -/
def deleteUser (id : Int) (t : Tables) : Outcome Unit :=
  if t.accounts.contains id then
    .ok ((), { t with
      accounts := t.accounts.remove id
      invitations := t.withdraw id
      follows := t.follows.filter fun pair => pair.1 ≠ id && pair.2 ≠ id })
  else .error .notFound

/-- Add a role or change its level. -/
def putRole (name : String) (level : Int) (t : Tables) : Outcome Unit :=
  .ok ((), { t with roles := t.roles.set name level })

def levelOf (name : String) (t : Tables) : Outcome Int :=
  t.answer (t.roles.get? name) (.unknownRole name)

end Agora.Store.Tables
