import Agora.Store.Accounts
import Agora.Store.Feed
import Agora.Store.Posts

/-!
The operations of the store as data, so that histories of them can be spoken of. Each is one atomic
step. While the store is offline every operation fails; an operation that fails changes nothing.
-/

set_option autoImplicit false

namespace Agora

open Time (Stamp)

namespace Store

inductive Call where
  | seedUser (new : NewUser) (active : Bool)
  | putRole (name : String) (level : Int)
  | levelOf (name : String)
  | createAndInvite (new : NewUser) (digest : String) (expires : Stamp)
  | user (id : Int)
  | credentials (email : String)
  | activate (digest : String)
  | deleteUser (id : Int)
  | createPost (userId : Int) (title content : String) (tags : List String)
  | post (id : Int)
  | updatePost (update : PostUpdate)
  | deletePost (id : Int)
  | feed (viewer : Int) (query : Feed.Query)
  | createComment (postId userId : Int) (text : String)
  | commentsOn (postId : Int)
  | deleteCommentsOn (postId : Int)
  | follow (follower followee : Int)
  | unfollow (follower followee : Int)
  deriving DecidableEq, Repr

@[reducible] def Call.Answer : Call → Type
  | .seedUser .. => User
  | .putRole .. => Unit
  | .levelOf .. => Int
  | .createAndInvite .. => User
  | .user .. => User
  | .credentials .. => Account
  | .activate .. => Int
  | .deleteUser .. => Unit
  | .createPost .. => Post
  | .post .. => Post
  | .updatePost .. => Post
  | .deletePost .. => Post
  | .feed .. => List FeedItem
  | .createComment .. => Comment
  | .commentsOn .. => List Comment
  | .deleteCommentsOn .. => Unit
  | .follow .. => Unit
  | .unfollow .. => Unit

/-- What an operation does to the tables. -/
def Tables.apply (now : Stamp) (t : Tables) : (c : Call) → Outcome c.Answer
  | .seedUser new active => t.seedUser now new active
  | .putRole name level => t.putRole name level
  | .levelOf name => t.levelOf name
  | .createAndInvite new digest expires => t.createAndInvite now new digest expires
  | .user id => t.user id
  | .credentials email => t.credentials email
  | .activate digest => t.activate now digest
  | .deleteUser id => t.deleteUser id
  | .createPost userId title content tags => t.createPost now userId title content tags
  | .post id => t.post id
  | .updatePost update => t.updatePost now update
  | .deletePost id => t.deletePost id
  | .feed viewer query => t.feed viewer query
  | .createComment postId userId text => t.createComment now postId userId text
  | .commentsOn postId => t.commentsOn postId
  | .deleteCommentsOn postId => t.deleteCommentsOn postId
  | .follow follower followee => t.follow follower followee
  | .unfollow follower followee => t.unfollow follower followee

end Store

/-- The store: its tables, and whether it answers. -/
structure Store where
  tables : Store.Tables := {}
  available : Bool := true
  deriving DecidableEq

namespace Store

/-- Perform an operation. -/
def perform (now : Stamp) (s : Store) (c : Call) : Except Error c.Answer × Store :=
  if s.available then
    match s.tables.apply now c with
    | .ok (a, t) => (.ok a, { s with tables := t })
    | .error e => (.error e, s)
  else (.error (.unavailable .offline), s)

end Store

end Agora
