import Agora.Table.Ledger
import Agora.Time.Stamp

set_option autoImplicit false

namespace Agora.Store

open Time (Stamp)
open Table (Numbered)

/-- A registered person, as others see it. -/
structure User where
  id : Int
  username : String
  email : String
  createdAt : Stamp
  isActive : Bool
  role : String
  deriving DecidableEq, Repr

structure Account where
  user : User
  passwordHash : String
  deriving DecidableEq, Repr

instance : Numbered Account := ⟨fun a => a.user.id⟩

structure NewUser where
  username : String
  email : String
  passwordHash : String
  role : String
  deriving DecidableEq, Repr

/-- A way to activate an account, open until it expires. -/
structure Invitation where
  userId : Int
  expires : Stamp
  deriving DecidableEq, Repr

/-- A post. Its version grows by one with every change. -/
structure Post where
  id : Int
  version : Int
  userId : Int
  title : String
  content : String
  tags : List String
  createdAt : Stamp
  updatedAt : Stamp
  deriving DecidableEq, Repr

instance : Numbered Post := ⟨Post.id⟩

/-- A change of a post that stands at a version; what is not given stays as it is. -/
structure PostUpdate where
  id : Int
  version : Int
  title : Option String
  content : Option String
  deriving DecidableEq, Repr

structure Remark where
  id : Int
  postId : Int
  userId : Int
  text : String
  createdAt : Stamp
  deriving DecidableEq, Repr

instance : Numbered Remark := ⟨Remark.id⟩

structure Comment where
  remark : Remark
  username : String
  deriving DecidableEq, Repr

/-- A post in a feed, with the name of its author and the number of its comments. -/
structure FeedItem where
  post : Post
  username : String
  commentCount : Nat
  deriving DecidableEq, Repr

end Agora.Store
