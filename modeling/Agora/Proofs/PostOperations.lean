import Agora.Proofs.StoreFrame

set_option autoImplicit false

namespace Agora.Store

open Time (Stamp)

theorem Tables.number_changed (now : Stamp) (u : PostUpdate) (p : Post) :
    Table.number (Tables.changed now u p) = Table.number p := rfl

def withPosts (s : Store) (posts : Table.Ledger Post) : Store :=
  { s with tables := { s.tables with posts } }

def withoutComments (s : Store) (postId : Int) : Store :=
  { s with tables := { s.tables with comments := s.tables.comments.filter (·.postId ≠ postId) } }

section

variable {s : Store} (up : s.available = true) (now : Stamp)

include up

theorem perform_createPost (userId : Int) (title content : String) (tags : List String) :
    s.perform now (.createPost userId title content tags) =
      (.ok ⟨s.tables.posts.next, 0, userId, title, content, tags, now, now⟩,
        s.withPosts (s.tables.posts.add fun id =>
          ⟨id, 0, userId, title, content, tags, now, now⟩)) :=
  perform_of_ok up rfl

/-- A change is made exactly if the post stands at the version that it names. -/
theorem perform_updatePost (u : PostUpdate) :
    (∃ p, s.tables.posts.get? u.id = some p ∧ p.version = u.version ∧
      s.perform now (.updatePost u) = (.ok (Tables.changed now u p),
        s.withPosts (s.tables.posts.modify u.id (Tables.changed now u)
          (Tables.number_changed now u)))) ∨
    ((∀ p, s.tables.posts.get? u.id = some p → p.version ≠ u.version) ∧
      s.perform now (.updatePost u) = (.error .notFound, s)) := by
  cases found : s.tables.posts.get? u.id with
  | none =>
    refine .inr ⟨fun _ impossible => (nomatch impossible), perform_of_error up ?_⟩
    simp only [Tables.apply, Tables.updatePost, found]
  | some p =>
    by_cases same : p.version = u.version
    · refine .inl ⟨p, rfl, same, perform_of_ok up ?_⟩
      simp only [Tables.apply, Tables.updatePost, found, same, ↓reduceIte]
    · refine .inr ⟨fun q equal => ?_, perform_of_error up ?_⟩
      · cases equal
        exact same
      · simp only [Tables.apply, Tables.updatePost, found, same, ↓reduceIte]

theorem perform_deletePost (id : Int) :
    (∃ p, s.tables.posts.get? id = some p ∧ s.perform now (.deletePost id) =
      (.ok p, s.withPosts (s.tables.posts.remove id))) ∨
    (s.tables.posts.get? id = none ∧ s.perform now (.deletePost id) = (.error .notFound, s)) := by
  cases found : s.tables.posts.get? id with
  | none =>
    refine .inr ⟨rfl, perform_of_error up ?_⟩
    simp only [Tables.apply, Tables.deletePost, found]
  | some p =>
    refine .inl ⟨p, rfl, perform_of_ok up ?_⟩
    simp only [Tables.apply, Tables.deletePost, found]

theorem perform_post (id : Int) :
    s.perform now (.post id) = ((s.tables.posts.get? id).elim (.error .notFound) .ok, s) := by
  cases found : s.tables.posts.get? id with
  | none =>
    apply perform_of_error up
    simp only [Tables.apply, Tables.post, Tables.answer, found]
  | some p =>
    apply perform_of_ok up
    simp only [Tables.apply, Tables.post, Tables.answer, found]

theorem perform_commentsOn (postId : Int) :
    s.perform now (.commentsOn postId) = (.ok ((s.tables.remarksOn postId).map s.tables.view), s) :=
  perform_of_ok up rfl

theorem perform_deleteCommentsOn (postId : Int) :
    s.perform now (.deleteCommentsOn postId) = (.ok (), s.withoutComments postId) :=
  perform_of_ok up rfl

theorem perform_levelOf (role : String) :
    s.perform now (.levelOf role) =
      ((s.tables.roles.get? role).elim (.error (.unknownRole role)) .ok, s) := by
  cases found : s.tables.roles.get? role with
  | none =>
    apply perform_of_error up
    simp only [Tables.apply, Tables.levelOf, Tables.answer, found]
  | some level =>
    apply perform_of_ok up
    simp only [Tables.apply, Tables.levelOf, Tables.answer, found]

end

end Agora.Store
