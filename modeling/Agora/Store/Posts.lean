import Agora.Store.Tables

set_option autoImplicit false

namespace Agora.Store.Tables

open Time (Stamp)

def createPost (now : Stamp) (userId : Int) (title content : String) (tags : List String)
    (t : Tables) : Outcome Post :=
  let make (id : Int) : Post := ⟨id, 0, userId, title, content, tags, now, now⟩
  .ok (make t.posts.next, { t with posts := t.posts.add make })

def post (id : Int) (t : Tables) : Outcome Post := t.answer (t.posts.get? id) .notFound

def changed (now : Stamp) (u : PostUpdate) (p : Post) : Post :=
  { p with
    title := u.title.getD p.title
    content := u.content.getD p.content
    version := p.version + 1
    updatedAt := now }

/-- Change a post that stands at the version of the change. -/
def updatePost (now : Stamp) (u : PostUpdate) (t : Tables) : Outcome Post :=
  match t.posts.get? u.id with
  | some p =>
    if p.version = u.version then
      .ok (changed now u p, { t with posts := t.posts.modify u.id (changed now u) })
    else .error .notFound
  | none => .error .notFound

/-- Take a post out. -/
def deletePost (id : Int) (t : Tables) : Outcome Post :=
  match t.posts.get? id with
  | some p => .ok (p, { t with posts := t.posts.remove id })
  | none => .error .notFound

/-- A comment with the present name of its author. -/
def view (t : Tables) (r : Remark) : Comment := ⟨r, t.usernameOf r.userId⟩

def createComment (now : Stamp) (postId userId : Int) (text : String) (t : Tables) :
    Outcome Comment :=
  if t.posts.contains postId then
    let make (id : Int) : Remark := ⟨id, postId, userId, text, now⟩
    .ok (t.view (make t.comments.next), { t with comments := t.comments.add make })
  else .error .notFound

/-- One comment was made later than another; of two made at once the later number counts. -/
def later (a b : Remark) : Bool :=
  b.createdAt.before a.createdAt || (a.createdAt == b.createdAt && b.id < a.id)

def insertByAge (r : Remark) : List Remark → List Remark
  | [] => [r]
  | s :: rest => if later r s then r :: s :: rest else s :: insertByAge r rest

/-- The comments on a post, the latest first. -/
def remarksOn (postId : Int) (t : Tables) : List Remark :=
  (t.comments.rows.filter (·.postId = postId)).foldr insertByAge []

def commentsOn (postId : Int) (t : Tables) : Outcome (List Comment) :=
  .ok ((t.remarksOn postId).map t.view, t)

def deleteCommentsOn (postId : Int) (t : Tables) : Outcome Unit :=
  .ok ((), { t with comments := t.comments.filter (·.postId ≠ postId) })

end Agora.Store.Tables
