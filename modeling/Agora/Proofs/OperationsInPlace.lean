import Agora.Proofs.AccountOperations
import Agora.Proofs.PostOperations

/-!
The operations of the store, worked out step by step on tables that change in place. Nothing is
undone when an operation fails: what has been written by then stays. Each operation asks whether the
store answers, looks for what it needs and only then writes, or it takes a row out and fails if
there was none to be taken. So what fails has written nothing, and step by step or at one go, every
operation comes to the same.
-/

set_option autoImplicit false

namespace Agora

namespace Table.Ledger

variable {α : Type} [Numbered α]

theorem remove_of_missing {l : Ledger α} {id : Int} (missing : l.get? id = none) :
    l.remove id = l := by
  have others : ∀ row ∈ l.rows, decide (number row ≠ id) = true := by
    intro row inside
    have apart := List.find?_eq_none.1 missing row inside
    simpa using apart
  exact Ledger.ext rfl (List.filter_eq_self.2 others)

theorem modify_modify (l : Ledger α) (id : Int) (first second : α → α)
    (keeps : ∀ row, number (first row) = number row)
    (keeps' : ∀ row, number (second row) = number row) :
    (l.modify id first keeps).modify id second keeps' =
      l.modify id (fun row => second (first row)) fun row => (keeps' _).trans (keeps row) := by
  refine Ledger.ext rfl ?_
  simp only [modify, List.map_map]
  refine List.map_congr_left fun row _ => ?_
  by_cases own : number row = id
  · simp only [Function.comp_apply, own, keeps, ↓reduceIte]
  · simp only [Function.comp_apply, own, ↓reduceIte]

end Table.Ledger

namespace Store

open Time (Stamp)

/-- Work on the store in place. What has been written when it fails, stays. -/
abbrev InPlace (α : Type) := ExceptT Error (StateM Store) α

namespace InPlace

variable {α β : Type}

/-- The outcome of some work, and the store that it leaves. -/
def on (work : InPlace α) (s : Store) : Except Error α × Store := work.run.run s

/-- Open the tables of a store that answers. -/
def tables : InPlace Tables := do
  let s ← get
  if s.available then return s.tables else throw (.unavailable .offline)

def write (change : Tables → Tables) : InPlace Unit :=
  modify fun s => { s with tables := change s.tables }

def found (result : Option α) (missing : Error) : InPlace α :=
  match result with
  | some a => return a
  | none => throw missing

def ensure (holds : Bool) (otherwise : Error) : InPlace Unit :=
  if holds then return () else throw otherwise

section

variable (s : Store)

@[simp] theorem on_bind (work : InPlace α) (next : α → InPlace β) :
    (work >>= next).on s =
      match work.on s with
      | (.ok a, t) => (next a).on t
      | (.error e, t) => (.error e, t) := by
  simp only [on, ExceptT.run_bind, StateT.run_bind]
  cases work.run.run s with
  | mk answer t => cases answer <;> rfl

@[simp] theorem on_tables :
    tables.on s = (if s.available then .ok s.tables else .error (.unavailable .offline), s) := by
  obtain ⟨t, available⟩ := s
  cases available <;> rfl

@[simp] theorem on_write (change : Tables → Tables) :
    (write change).on s = (.ok (), { s with tables := change s.tables }) := rfl

@[simp] theorem on_found (result : Option α) (missing : Error) :
    (found result missing).on s = (result.elim (.error missing) .ok, s) := by
  cases result <;> rfl

@[simp] theorem on_ensure (holds : Bool) (otherwise : Error) :
    (ensure holds otherwise).on s = (if holds then .ok () else .error otherwise, s) := by
  cases holds <;> rfl

end

def look (view : Tables → Outcome α) : InPlace α := do
  match view (← tables) with
  | .ok (a, _) => return a
  | .error e => throw e

def enlist (now : Stamp) (new : NewUser) (active : Bool) (id : Int) : InPlace User := do
  write fun t => { t with accounts := t.enlisted now new active }
  return (newAccount now new active id).user

def seedUser (now : Stamp) (new : NewUser) (active : Bool) : InPlace User := do
  let t ← tables
  ensure (t.roles.contains new.role) (.unknownRole new.role)
  enlist now new active t.accounts.next

def putRole (name : String) (level : Int) : InPlace Unit := do
  let _ ← tables
  write fun t => { t with roles := t.roles.set name level }

def createAndInvite (now : Stamp) (new : NewUser) (digest : String) (expires : Stamp) :
    InPlace User := do
  let t ← tables
  ensure (!t.emailTaken new.email) .duplicateEmail
  ensure (!t.usernameTaken new.username) .duplicateUsername
  ensure (t.roles.contains new.role) (.unknownRole new.role)
  let user ← enlist now new false t.accounts.next
  write fun t => { t with invitations := t.invitations.set digest ⟨user.id, expires⟩ }
  return user

def activate (now : Stamp) (digest : String) : InPlace Int := do
  let t ← tables
  let i ← found ((t.invitations.get? digest).filter fun i => now.before i.expires) .invalidToken
  ensure (t.accounts.contains i.userId) .invalidToken
  write fun t =>
    { t with accounts := t.accounts.modify i.userId Tables.activated Tables.number_activated }
  write fun t => { t with invitations := t.withdraw i.userId }
  return i.userId

/-- The account is taken out before anything is known of it. -/
def deleteUser (id : Int) : InPlace Unit := do
  let t ← tables
  write fun t => { t with accounts := t.accounts.remove id }
  let _ ← found (t.accounts.get? id) .notFound
  write fun t => { t with invitations := t.withdraw id }
  write fun t => { t with follows := t.follows.filter fun pair => pair.1 ≠ id && pair.2 ≠ id }

def newPost (now : Stamp) (userId : Int) (title content : String) (tags : List String) (id : Int) :
    Post := ⟨id, 0, userId, title, content, tags, now, now⟩

theorem number_newPost (now : Stamp) (userId : Int) (title content : String) (tags : List String)
    (id : Int) : Table.number (newPost now userId title content tags id) = id := rfl

def createPost (now : Stamp) (userId : Int) (title content : String) (tags : List String) :
    InPlace Post := do
  let t ← tables
  let make := newPost now userId title content tags
  write fun t =>
    { t with posts := t.posts.add make (number_newPost now userId title content tags) }
  return make t.posts.next

def edit (id : Int) (change : Post → Post) (keeps : ∀ p, (change p).id = p.id := by intro; rfl) :
    InPlace Unit :=
  write fun t => { t with posts := t.posts.modify id change keeps }

/-- The fields of the post are written one after the other. -/
def updatePost (now : Stamp) (u : PostUpdate) : InPlace Post := do
  let t ← tables
  let _ ← found ((t.posts.get? u.id).filter fun p => p.version = u.version) .notFound
  edit u.id fun p => { p with title := u.title.getD p.title }
  edit u.id fun p => { p with content := u.content.getD p.content }
  edit u.id fun p => { p with version := p.version + 1 }
  edit u.id fun p => { p with updatedAt := now }
  found ((← tables).posts.get? u.id) .notFound

/-- The post is taken out before anything is known of it. -/
def deletePost (id : Int) : InPlace Post := do
  let t ← tables
  write fun t => { t with posts := t.posts.remove id }
  found (t.posts.get? id) .notFound

def newRemark (now : Stamp) (postId userId : Int) (text : String) (id : Int) : Remark :=
  ⟨id, postId, userId, text, now⟩

theorem number_newRemark (now : Stamp) (postId userId : Int) (text : String) (id : Int) :
    Table.number (newRemark now postId userId text id) = id := rfl

def createComment (now : Stamp) (postId userId : Int) (text : String) : InPlace Comment := do
  let t ← tables
  ensure (t.posts.contains postId) .notFound
  let make := newRemark now postId userId text
  write fun t =>
    { t with comments := t.comments.add make (number_newRemark now postId userId text) }
  return t.view (make t.comments.next)

def deleteCommentsOn (postId : Int) : InPlace Unit := do
  let _ ← tables
  write fun t => { t with comments := t.comments.filter (·.postId ≠ postId) }

def follow (follower followee : Int) : InPlace Unit := do
  let t ← tables
  ensure (t.accounts.contains followee) .notFound
  write fun t => { t with follows := t.follows.insert (follower, followee) }

def unfollow (follower followee : Int) : InPlace Unit := do
  let _ ← tables
  write fun t => { t with follows := t.follows.filter (· ≠ (follower, followee)) }

end InPlace

def Call.inPlace (now : Stamp) : (c : Call) → InPlace c.Answer
  | .seedUser new active => InPlace.seedUser now new active
  | .putRole name level => InPlace.putRole name level
  | .levelOf name => InPlace.look fun t => t.levelOf name
  | .createAndInvite new digest expires => InPlace.createAndInvite now new digest expires
  | .user id => InPlace.look fun t => t.user id
  | .credentials email => InPlace.look fun t => t.credentials email
  | .activate digest => InPlace.activate now digest
  | .deleteUser id => InPlace.deleteUser id
  | .createPost userId title content tags => InPlace.createPost now userId title content tags
  | .post id => InPlace.look fun t => t.post id
  | .updatePost update => InPlace.updatePost now update
  | .deletePost id => InPlace.deletePost id
  | .feed viewer query => InPlace.look fun t => t.feed viewer query
  | .createComment postId userId text => InPlace.createComment now postId userId text
  | .commentsOn postId => InPlace.look fun t => t.commentsOn postId
  | .deleteCommentsOn postId => InPlace.deleteCommentsOn postId
  | .follow follower followee => InPlace.follow follower followee
  | .unfollow follower followee => InPlace.unfollow follower followee

/-- An outcome on a store that answers: the tables after it, or those before it if it fails. -/
def Tables.settle {α : Type} (t : Tables) : Outcome α → Except Error α × Store
  | .ok (a, after) => (.ok a, ⟨after, true⟩)
  | .error e => (.error e, ⟨t, true⟩)

namespace InPlace

section

variable {α : Type} (now : Stamp) (t : Tables)

theorem on_look (view : Tables → Outcome α)
    (reads : ∀ t a after, view t = .ok (a, after) → after = t) :
    (look view).on ⟨t, true⟩ = t.settle (view t) := by
  simp only [look, on_bind, on_tables, ↓reduceIte]
  cases seen : view t with
  | error e => rfl
  | ok done =>
    obtain ⟨a, after⟩ := done
    cases reads t a after seen
    rfl

theorem on_seedUser (new : NewUser) (active : Bool) :
    (seedUser now new active).on ⟨t, true⟩ = t.settle (t.seedUser now new active) := by
  simp only [seedUser, on_bind, on_tables, on_ensure, Tables.seedUser, ↓reduceIte]
  cases t.roles.contains new.role <;> rfl

theorem on_createAndInvite (new : NewUser) (digest : String) (expires : Stamp) :
    (createAndInvite now new digest expires).on ⟨t, true⟩ =
      t.settle (t.createAndInvite now new digest expires) := by
  simp only [createAndInvite, on_bind, on_tables, on_ensure, Tables.createAndInvite,
    Tables.seedUser, ↓reduceIte]
  cases t.emailTaken new.email with
  | true => rfl
  | false =>
    cases t.usernameTaken new.username with
    | true => rfl
    | false => cases t.roles.contains new.role <;> rfl

theorem on_activate (digest : String) :
    (activate now digest).on ⟨t, true⟩ = t.settle (t.activate now digest) := by
  simp only [activate, on_bind, on_tables, Tables.activate, ↓reduceIte]
  cases t.invitations.get? digest with
  | none => rfl
  | some i =>
    cases opened : now.before i.expires with
    | false =>
      simp only [Option.filter, opened, on_found, Option.elim, Bool.false_and, Bool.false_eq_true,
        ↓reduceIte, Tables.settle]
    | true =>
      simp only [Option.filter, opened, on_found, on_ensure, Option.elim, Bool.true_and, ↓reduceIte]
      cases t.accounts.contains i.userId <;> rfl

theorem on_deleteUser (id : Int) :
    (deleteUser id).on ⟨t, true⟩ = t.settle (t.deleteUser id) := by
  simp only [deleteUser, on_bind, on_tables, on_write, on_found, Tables.deleteUser,
    Table.Ledger.contains, ↓reduceIte]
  rcases Option.eq_none_or_eq_some (t.accounts.get? id) with row | ⟨a, row⟩
  · simp only [row, Table.Ledger.remove_of_missing row, Option.elim, Option.isSome_none,
      Bool.false_eq_true, ↓reduceIte, Tables.settle]
  · simp only [row, Option.elim, Option.isSome_some, ↓reduceIte, Tables.settle]
    rfl

theorem on_deletePost (id : Int) :
    (deletePost id).on ⟨t, true⟩ = t.settle (t.deletePost id) := by
  simp only [deletePost, on_bind, on_tables, on_write, on_found, Tables.deletePost, ↓reduceIte]
  cases row : t.posts.get? id with
  | none =>
    rw [Table.Ledger.remove_of_missing row]
    rfl
  | some p => rfl

theorem on_edit (id : Int) (change : Post → Post) (keeps : ∀ p, (change p).id = p.id) :
    (edit id change keeps).on ⟨t, true⟩ =
      (.ok (), ⟨{ t with posts := t.posts.modify id change keeps }, true⟩) := rfl

/-- Changed field by field, the post comes to what it is changed to at once. -/
theorem on_updatePost (u : PostUpdate) :
    (updatePost now u).on ⟨t, true⟩ = t.settle (t.updatePost now u) := by
  simp only [updatePost, on_bind, on_tables, on_found, Tables.updatePost, ↓reduceIte]
  cases row : t.posts.get? u.id with
  | none => rfl
  | some p =>
    by_cases current : p.version = u.version
    · have changed : (t.posts.modify u.id (Tables.changed now u)).get? u.id =
          some (Tables.changed now u p) := by
        refine (Table.Ledger.get?_modify t.posts u.id u.id _ _).trans ?_
        rw [if_pos rfl, row, Option.map_some]
      simp only [Option.filter, current, decide_true, Option.elim_some, on_edit, ↓reduceIte,
        Table.Ledger.modify_modify]
      refine Prod.ext ?_ rfl
      exact congrArg (Option.elim · (Except.error Error.notFound) Except.ok) changed
    · simp only [Option.filter, current, decide_false, Option.elim_none, Bool.false_eq_true,
        ↓reduceIte]
      rfl

theorem on_createComment (postId userId : Int) (text : String) :
    (createComment now postId userId text).on ⟨t, true⟩ =
      t.settle (t.createComment now postId userId text) := by
  simp only [createComment, on_bind, on_tables, on_ensure, Tables.createComment, ↓reduceIte]
  cases t.posts.contains postId <;> rfl

theorem on_follow (follower followee : Int) :
    (follow follower followee).on ⟨t, true⟩ = t.settle (t.follow follower followee) := by
  simp only [follow, on_bind, on_tables, on_ensure, Tables.follow, ↓reduceIte]
  cases t.accounts.contains followee <;> rfl

/-- On a store that answers, an operation comes to the same in place and at one go. -/
theorem inPlace_online (c : Call) : (c.inPlace now).on ⟨t, true⟩ = t.settle (t.apply now c) := by
  have looks (view : Call) (reads : view.reads = true) (t : Tables) (a : view.Answer)
      (after : Tables) (seen : t.apply now view = .ok (a, after)) : after = t :=
    Tables.apply_of_reads reads seen
  cases c with
  | seedUser new active => exact on_seedUser now t new active
  | putRole name level => rfl
  | levelOf name => exact on_look t _ (looks (.levelOf name) rfl)
  | createAndInvite new digest expires => exact on_createAndInvite now t new digest expires
  | user id => exact on_look t _ (looks (.user id) rfl)
  | credentials email => exact on_look t _ (looks (.credentials email) rfl)
  | activate digest => exact on_activate now t digest
  | deleteUser id => exact on_deleteUser t id
  | createPost userId title content tags => rfl
  | post id => exact on_look t _ (looks (.post id) rfl)
  | updatePost update => exact on_updatePost now t update
  | deletePost id => exact on_deletePost t id
  | feed viewer query => exact on_look t _ (looks (.feed viewer query) rfl)
  | createComment postId userId text => exact on_createComment now t postId userId text
  | commentsOn postId => exact on_look t _ (looks (.commentsOn postId) rfl)
  | deleteCommentsOn postId => rfl
  | follow follower followee => exact on_follow t follower followee
  | unfollow follower followee => rfl

theorem inPlace_offline (c : Call) :
    (c.inPlace now).on ⟨t, false⟩ = (.error (.unavailable .offline), ⟨t, false⟩) := by
  cases c <;> rfl

/-- Step by step or at one go, every operation comes to the same. -/
theorem inPlace_eq (s : Store) (c : Call) : (c.inPlace now).on s = s.perform now c := by
  obtain ⟨t, available⟩ := s
  cases available with
  | false => exact inPlace_offline now t c
  | true =>
    rw [inPlace_online, perform, if_pos rfl]
    cases t.apply now c <;> rfl

end

end InPlace

end Store

end Agora
