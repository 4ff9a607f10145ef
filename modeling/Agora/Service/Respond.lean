import Agora.Service.Operating
import Agora.Service.Posting
import Agora.Service.Registering

/-!
Answering requests. A request that may take no time at all is cut off at once, and one that declares
too long a body is refused; all others run their plan: admission, the gates of the resource, and
what the resource does for the method. Every answer carries the identifier of its request; where the
resource does not serve the method, it tells which methods are served; and an answer to a request
for the head alone has no body.
-/

set_option autoImplicit false

namespace Agora.Service

open Http (Method Request Response)
open Time (Span)

def notServed : Plan Response := return .ofStatus 405

/-- What a resource does for a method, behind its gates. -/
def handle (env : Env) (q : Request) : (r : Resource) → r.Context → Plan Response
  | .health, () => showHealth env
  | .registration, () => register env q
  | .activation segment, () => activate segment
  | .login, () => logIn env q
  | .posts, caller => createPost env q caller
  | .comments, caller => createComment env q caller
  | .feed, caller => showFeed q caller
  | .post _, (_, post) =>
    match q.method with
    | .patch => editPost env q post
    | .delete => deletePost post
    | _ => showPost post
  | .person _, (_, person) => showPerson person
  | .following _, (caller, person) => follow caller person
  | .unfollowing _, (caller, person) => unfollow caller person
  | .status, () => showStatus env
  | .limiter, () => showLimiter env
  | .identities, () =>
    match q.method with
    | .delete => flushCache
    | _ => showCache
  | .account segment, () => deleteAccount segment

def resource? (c : Config) (q : Request) : Option Resource :=
  Resource.find? c.admin.enabled q.segments

/-- Serve a request at a resource: its gates come before the question whether it serves the
method. -/
def serve (env : Env) (q : Request) (r : Resource) : Plan Response := do
  let context ← enter env q r
  if r.serves q.method then handle env q r context else notServed

/-- All that a request does. -/
def plan (env : Env) (q : Request) : Plan Response := do
  admission env q
  match resource? env.config q with
  | some r => serve env q r
  | none => return .ofStatus 404

def tooLate : Response := .ofStatus 408

def tooLarge : Response := .ofText 413 "length limit exceeded"

/-- Run the plan of a request, which is counted by its answer unless it is cut off. -/
def runPlan (env : Env) (q : Request) (cutoff : Span) (s : State) : Response × State :=
  let counted (r : Response) (s : State) := (r, s.count (.request q.method.name r.status))
  match (plan env q).run env (some cutoff) s with
  | (.done response, s) => counted response s
  | (.halted why, s) => counted why.response s
  | (.cutOff, s) => (tooLate, s)

/-- The answer to a request before it is finished off, and the state after it. -/
def answer (env : Env) (q : Request) (s : State) : Response × State :=
  let span := Span.ofSeconds env.config.timeouts.request
  if span = 0 then (tooLate, s)
  else if q.declaredLength.any (env.config.listener.maxBodySize < ·) then (tooLarge, s)
  else runPlan env q (Time.cutoff s.clock span) s

/-- The identifier of a request: the one it carries, or else a new one. -/
def requestId (env : Env) (q : Request) : Bytes :=
  (q.headers.first? "x-request-id").getD
    (Bytes.ofString (Credential.identifier env.draws.requestId))

/-- Tell which methods are served if the method of the request is not. -/
def tellMethods (c : Config) (q : Request) (response : Response) : Response :=
  match resource? c q with
  | some r =>
    if r.serves q.method then response
    else response.withHeader "allow" (Bytes.ofString r.allowed)
  | none => response

def finish (env : Env) (q : Request) (response : Response) : Response :=
  let response := tellMethods env.config q response
  let response := response.withHeader "x-request-id" (requestId env q)
  if q.method = .head then response.withoutBody else response

/-- Answer a request. -/
def respond (env : Env) (q : Request) (s : State) : Response × State :=
  let (response, s) := answer env q s
  (finish env q response, s)

end Agora.Service
