import Agora.Json.Reader
import Agora.Store.Entity

set_option autoImplicit false

namespace Agora.Store

open Json (Value)
open Schema (Shape Fields)

namespace User

def members (u : User) : List (String × Value) :=
  [("id", .whole u.id), ("username", .string u.username), ("email", .string u.email),
   ("created_at", .string u.createdAt.render), ("is_active", .bool u.isActive),
   ("role", .string u.role)]

def toJson (u : User) : Value := .object u.members

abbrev fields : Fields :=
  .cons "id" .required .int64 <| .cons "username" .required .text <|
    .cons "email" .required .text <| .cons "created_at" .required .moment <|
    .cons "is_active" .required .flag <| .cons "role" .required .text .nil

def ofFields : fields.Value → User
  | (id, username, email, createdAt, isActive, role, ()) =>
    ⟨id, username, email, createdAt, isActive, role⟩

def encode (u : User) : Bytes := Bytes.ofString u.toJson.render

def decode? (b : Bytes) : Option User :=
  (Json.read (.record .ignored fields) b).toOption.map ofFields

end User

def Post.members (p : Post) : List (String × Value) :=
  [("id", .whole p.id), ("version", .whole p.version), ("user_id", .whole p.userId),
   ("title", .string p.title), ("content", .string p.content),
   ("tags", .array (p.tags.map .string)), ("created_at", .string p.createdAt.render),
   ("updated_at", .string p.updatedAt.render)]

def Post.toJson (p : Post) : Value := .object p.members

def Comment.toJson (c : Comment) : Value :=
  .object [("id", .whole c.remark.id), ("post_id", .whole c.remark.postId),
    ("user_id", .whole c.remark.userId), ("username", .string c.username),
    ("comment", .string c.remark.text), ("created_at", .string c.remark.createdAt.render)]

def FeedItem.toJson (f : FeedItem) : Value :=
  .object (f.post.members ++
    [("username", .string f.username), ("comment_count", .whole f.commentCount)])

end Agora.Store
