import Agora.Credential.Invitation
import Agora.Service.Gate
import Agora.Service.Payload

set_option autoImplicit false

namespace Agora.Service

open Http (Request Response)
open Json (Value)

def newcomerRole : String := "user"

/-- Pause for a computation on passwords, and go on only with its value. -/
def hashed {α : Type} (outcome : Except Credential.HashFault α) : Plan α := do
  Plan.ask .pause
  match outcome with
  | .ok value => return value
  | .error fault => Plan.fail (.internal (.hashing fault))

def invitationExpiry (env : Env) : Plan Time.Stamp :=
  let ttl := env.config.auth.invitationTtl
  let expires := env.now.plus ttl
  if expires.representable then .done expires else Plan.fail (.internal (.invitationTtl ttl))

/-- Register a person, and give out an invitation. -/
def register (env : Env) (q : Request) : Plan Response := do
  let r ← Plan.accept (Registration.ofRequest env.config.listener.maxBodySize q)
  let hash ← hashed (env.hasher.hash r.password env.config.auth.passwordCost env.draws.salt)
  let invitation := Credential.Invitation.ofDraw env.draws.invitation
  let expires ← invitationExpiry env
  let user ← Plan.call (.createAndInvite ⟨r.username, r.email, hash, newcomerRole⟩
    invitation.digest expires)
  return .data 201 (.object (user.members ++ [("token", .string invitation.token)]))

def activate (segment : String) : Plan Response := do
  let token ← pathText "token" segment
  Plan.accept (demand (!(Text.trim token.toList).isEmpty) .missingToken)
  let id ← Plan.call (.activate (Credential.hashToken token))
  Plan.ask (.evict id)
  return .data 200 (.string "user activated")

def logInAs (env : Env) (l : Login) : Plan Store.User := do
  match ← Plan.ask (.call (.credentials l.email)) with
  | .error .notFound => Plan.fail .unauthorized
  | .error error => Plan.fail (.ofStore error)
  | .ok account =>
    if !(← hashed (env.hasher.verify l.password account.passwordHash)) then
      Plan.fail .unauthorized
    else if !account.user.isActive then Plan.fail .unauthorized
    else return account.user

/-- Log in, for a token. -/
def logIn (env : Env) (q : Request) : Plan Response :=
  match Login.ofRequest env.config.listener.maxBodySize q with
  | .error _ => Plan.fail .unauthorized
  | .ok l => do
    let user ← logInAs env l
    return .data 201 (.string (Token.issue env.config.auth.token env.now.second user.id))

end Agora.Service
