import Agora.Feed.Query
import Agora.Store.Tables
import Agora.Text.LowerCase

set_option autoImplicit false

namespace Agora.Store.Tables

open Feed (Query Order)

/-- Follow a user who exists; to follow twice changes nothing. -/
def follow (follower followee : Int) (t : Tables) : Outcome Unit :=
  if t.accounts.contains followee then
    .ok ((), { t with follows := t.follows.insert (follower, followee) })
  else .error .notFound

def unfollow (follower followee : Int) (t : Tables) : Outcome Unit :=
  .ok ((), { t with follows := t.follows.filter (· ≠ (follower, followee)) })

/-- A text occurs in another as consecutive characters. -/
def occurs (needle : List Char) : List Char → Bool
  | [] => needle.isEmpty
  | c :: rest => needle.isPrefixOf (c :: rest) || occurs needle rest

/-- The post is the viewer's, or of someone whom the viewer follows. -/
def visible (t : Tables) (viewer : Int) (p : Post) : Bool :=
  p.userId = viewer || t.follows.contains (viewer, p.userId)

/-- The lower-case text occurs in the post's title or content. -/
def matchesSearch (needle : List Char) (p : Post) : Bool :=
  needle.isEmpty || occurs needle (Text.lower p.title) || occurs needle (Text.lower p.content)

def carries (tags : List String) (p : Post) : Bool := tags.all fun tag => p.tags.contains tag

/-- The posts that a query is about, whatever its page. -/
def selected (t : Tables) (viewer : Int) (q : Query) : List Post :=
  let needle := Text.lower q.search
  t.posts.rows.filter fun p => t.visible viewer p && matchesSearch needle p && carries q.tags p

/-- One post is older than another; of two made at once the lower number counts. -/
def older (a b : Post) : Bool :=
  a.createdAt.before b.createdAt || (a.createdAt == b.createdAt && a.id < b.id)

def insertOldest (p : Post) : List Post → List Post
  | [] => [p]
  | q :: rest => if older p q then p :: q :: rest else q :: insertOldest p rest

def oldestFirst (posts : List Post) : List Post := posts.foldr insertOldest []

def arrange : Order → List Post → List Post
  | .ascending, posts => oldestFirst posts
  | .descending, posts => (oldestFirst posts).reverse

def feedItem (t : Tables) (p : Post) : FeedItem :=
  ⟨p, t.usernameOf p.userId, t.comments.rows.countP (·.postId = p.id)⟩

/-- A page of the viewer's feed. -/
def feed (viewer : Int) (q : Query) (t : Tables) : Outcome (List FeedItem) :=
  .ok (((arrange q.order (t.selected viewer q)).drop q.offset).take q.limit |>.map t.feedItem, t)

end Agora.Store.Tables
