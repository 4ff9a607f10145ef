import Agora.Admission.Client
import Agora.Service.Id
import Agora.Service.Plan
import Agora.Service.Resource

/-!
The gates that a request passes before it is served: admission, the credentials that the resource
asks for, what its path names, and for a post the right to use it. Each gate ends the request with
an answer of its own.
-/

set_option autoImplicit false

namespace Agora.Service

open Credential (Refusal)
open Http (Method Request)
open Store (User Post)

def admission (env : Env) (q : Request) : Plan Unit :=
  if env.config.rateLimit.enabled then do
    let client := Admission.Client.key env.config.listener.trustForwarded q.headers q.peer
    match ← Plan.ask (.allow client) with
    | .allowed => return ()
    | .limited retryAfter =>
      Plan.ask (.count .rateLimited)
      Plan.fail (.rateLimited retryAfter)
  else .done ()

/-- Find a user in the cache or else in the store, from where it is kept. -/
def resolve (id : Int) : Plan (Except Store.Error User) := do
  match ← Plan.ask (.lookUp id) with
  | some user => return .ok user
  | none =>
    match ← Plan.ask (.call (.user id)) with
    | .ok user =>
      Plan.ask (.keep user)
      return .ok user
    | .error error => return .error error

/-- The user whose token a request carries. -/
def authenticate (env : Env) (headers : Http.Headers) : Plan (Except Refusal User) := do
  match Credential.bearer env.config.auth.token env.now.second headers with
  | .ok id => return (← resolve id).mapError .identity
  | .error refusal => return .error refusal

/-- Refuse a caller, whom only the count tells why. -/
def refuse {α : Type} (refusal : Refusal) (failure : Failure) : Plan α := do
  Plan.ask (.count (.rejection refusal.stage))
  Plan.fail failure

/-- The member who calls. -/
def member (env : Env) (q : Request) : Plan User := do
  match ← authenticate env q.headers with
  | .ok user => return user
  | .error refusal => refuse refusal .unauthorized

def operator (env : Env) (q : Request) : Plan Unit :=
  match Credential.operator env.config.auth.operator q.headers with
  | .ok () => .done ()
  | .error refusal => refuse refusal .operatorUnauthorized

def pathText (parameter segment : String) : Plan String :=
  match Http.pathText? segment with
  | some text => .done text
  | none => .halt (.invalidPath parameter)

def pathId (segment : String) : Plan Int := do
  Plan.accept (parseId (← pathText "id" segment))

def loadPost (segment : String) : Plan Post := do Plan.call (.post (← pathId segment))

def loadUser (segment : String) : Plan User := do Plan.call (.user (← pathId segment))

/-- The role that someone else than the author needs for a method. -/
def requiredRole (c : Config.Authorization) : Method → String
  | .delete => c.deleteRole
  | .get | .head => c.readRole
  | _ => c.updateRole

/-- Whether a user may use what an owner has made: the owner, and all whose role has the level of
the required one. Levels are looked up anew each time, and a role without one is an error. -/
def mayUse (user : User) (owner : Int) (required : String) : Plan (Except Store.Error Bool) := do
  if user.id = owner then return .ok true
  match ← Plan.ask (.call (.levelOf required)) with
  | .error error => return .error error
  | .ok least =>
    match ← Plan.ask (.call (.levelOf user.role)) with
    | .error error => return .error error
    | .ok held => return .ok (least ≤ held)

/-- Demand the right to use a post. -/
def authorize (env : Env) (m : Method) (user : User) (post : Post) : Plan Unit := do
  match ← mayUse user post.userId (requiredRole env.config.authorization m) with
  | .ok true => return ()
  | .ok false =>
    Plan.ask (.count .denial)
    Plan.fail .forbidden
  | .error error => Plan.fail (.ofStore error)

/-- What the gates of a resource establish: the caller, and what the path names. -/
@[reducible] def Resource.Context : Resource → Type
  | .health | .registration | .activation _ | .login => Unit
  | .posts | .comments | .feed => User
  | .post _ => User × Post
  | .person _ | .following _ | .unfollowing _ => User × User
  | .status | .limiter | .identities | .account _ => Unit

/-- Pass a member, and load the user whom the path names. -/
def memberAndUser (env : Env) (q : Request) (segment : String) : Plan (User × User) := do
  let caller ← member env q
  return (caller, ← loadUser segment)

/-- Pass the gates of a resource. -/
def enter (env : Env) (q : Request) : (r : Resource) → Plan r.Context
  | .health | .registration | .activation _ | .login => .done ()
  | .posts | .comments | .feed => member env q
  | .post segment => do
    let caller ← member env q
    let post ← loadPost segment
    authorize env q.method caller post
    return (caller, post)
  | .person segment | .following segment | .unfollowing segment => memberAndUser env q segment
  | .status | .limiter | .identities | .account _ => operator env q

end Agora.Service
