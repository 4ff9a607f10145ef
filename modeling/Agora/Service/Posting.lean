import Agora.Service.Edit
import Agora.Service.Gate
import Agora.Service.Payload

set_option autoImplicit false

namespace Agora.Service

open Http (Request Response)
open Json (Value)
open Store (Comment Post PostUpdate User)

def createPost (env : Env) (q : Request) (caller : User) : Plan Response := do
  let d ← Plan.accept (Draft.ofRequest env.config.listener.maxBodySize q)
  let post ← Plan.call (.createPost caller.id d.title d.content d.tags)
  return .data 201 post.toJson

def withComments (post : Post) (comments : List Comment) : Value :=
  .object (post.members ++ [("comments", .array (comments.map Comment.toJson))])

def showPost (post : Post) : Plan Response := do
  let comments ← Plan.call (.commentsOn post.id)
  return .data 200 (withComments post comments)

/-- Change a post that stands at the version of the change. -/
def applyUpdate (update : PostUpdate) : Plan (Except EditError Post) := do
  match ← Plan.ask (.call (.updatePost update)) with
  | .ok post => return .ok post
  | .error .notFound =>
    Plan.ask (.count .conflict)
    return .error (.conflict update.id update.version)
  | .error error => return .error (.store error)

/-- Change a post; a change that names no version is one of the version that was loaded. -/
def editPost (env : Env) (q : Request) (post : Post) : Plan Response := do
  let r ← Plan.accept (Revision.ofRequest env.config.listener.maxBodySize q)
  match ← applyUpdate ⟨post.id, r.version.getD post.version, r.title, r.content⟩ with
  | .ok post => return .data 200 post.toJson
  | .error error => Plan.fail error.failure

/-- Delete a post, its comments first. -/
def deletePost (post : Post) : Plan Response := do
  Plan.call (.deleteCommentsOn post.id)
  let _ ← Plan.call (.deletePost post.id)
  return .ofStatus 204

def createComment (env : Env) (q : Request) (caller : User) : Plan Response := do
  let r ← Plan.accept (Reply.ofRequest env.config.listener.maxBodySize q)
  let comment ← Plan.call (.createComment r.postId caller.id r.text)
  return .data 201 comment.toJson

def showFeed (q : Request) (caller : User) : Plan Response := do
  let query ← Plan.accept (readQuery q)
  let items ← Plan.call (.feed caller.id query)
  return .data 200 (.array (items.map Store.FeedItem.toJson))

def showPerson (person : User) : Plan Response := return .data 200 person.toJson

def follow (caller person : User) : Plan Response := do
  Plan.accept (demand (caller.id ≠ person.id) .selfFollow)
  Plan.call (.follow caller.id person.id)
  return .ofStatus 204

def unfollow (caller person : User) : Plan Response := do
  Plan.call (.unfollow caller.id person.id)
  return .ofStatus 204

end Agora.Service
