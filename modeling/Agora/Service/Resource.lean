import Agora.Http.Request

/-!
The resources of the service: what each path names, and the methods that it serves. A path that is
written out goes before one with a variable piece, which must not be empty at the end of the path.
The resources of operators are there only if the configuration has them.
-/

set_option autoImplicit false

namespace Agora.Service

open Http (Method)

/-- What a path names, with the piece of the path that varies. -/
inductive Resource where
  | health
  | registration
  | activation (token : String)
  | login
  | posts
  | comments
  | feed
  | post (id : String)
  | person (id : String)
  | following (id : String)
  | unfollowing (id : String)
  | status
  | limiter
  | identities
  | account (id : String)
  deriving DecidableEq, Repr

inductive Access where
  | anyone
  | member
  | operator
  deriving DecidableEq, Repr

namespace Resource

def access : Resource → Access
  | .health | .registration | .activation _ | .login => .anyone
  | .posts | .comments | .feed | .post _ | .person _ | .following _ | .unfollowing _ => .member
  | .status | .limiter | .identities | .account _ => .operator

def ofSegments : List String → Option Resource
  | ["", "v1", "health"] => some .health
  | ["", "v1", "authentication", "user"] => some .registration
  | ["", "v1", "authentication", "activate", token] =>
    if token.isEmpty then none else some (.activation token)
  | ["", "v1", "authentication", "login"] => some .login
  | ["", "v1", "posts"] => some .posts
  | ["", "v1", "comments"] => some .comments
  | ["", "v1", "users", "feed"] => some .feed
  | ["", "v1", "posts", id] => if id.isEmpty then none else some (.post id)
  | ["", "v1", "users", id] => if id.isEmpty then none else some (.person id)
  | ["", "v1", "users", id, "follow"] => some (.following id)
  | ["", "v1", "users", id, "unfollow"] => some (.unfollowing id)
  | ["", "v1", "admin", "status"] => some .status
  | ["", "v1", "admin", "limiter"] => some .limiter
  | ["", "v1", "admin", "cache"] => some .identities
  | ["", "v1", "admin", "users", id] => if id.isEmpty then none else some (.account id)
  | _ => none

/-- The resource that a path names. -/
def find? (operators : Bool) (segments : List String) : Option Resource :=
  (ofSegments segments).filter fun r => operators || r.access ≠ .operator

/-- The methods that the resource serves; what can be got can be asked for its head alone. -/
def methods : Resource → List Method
  | .health | .feed | .person _ | .status | .limiter => [.get, .head]
  | .registration | .login | .posts | .comments => [.post]
  | .activation _ | .following _ | .unfollowing _ => [.put]
  | .post _ => [.get, .head, .patch, .delete]
  | .identities => [.get, .head, .delete]
  | .account _ => [.delete]

def serves (r : Resource) (m : Method) : Bool := r.methods.contains m

def allowed (r : Resource) : String := ",".intercalate (r.methods.map Method.name)

end Resource

end Agora.Service
