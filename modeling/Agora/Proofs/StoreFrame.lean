import Agora.Store.Call

set_option autoImplicit false

namespace Agora.Store

open Time (Stamp)

def Call.reads : Call → Bool
  | .levelOf .. | .user .. | .credentials .. | .post .. | .feed .. | .commentsOn .. => true
  | _ => false

def Call.concernsPosts : Call → Bool
  | .createPost .. | .updatePost .. | .deletePost .. => true
  | _ => false

def Call.concernsComments : Call → Bool
  | .createComment .. | .deleteCommentsOn _ => true
  | _ => false

def Call.concernsFollows : Call → Bool
  | .follow .. | .unfollow .. | .deleteUser _ => true
  | _ => false

namespace Tables

variable {t after : Tables} {now : Stamp}

theorem of_answer_ok {α : Type} {found : Option α} {missing : Error} {a : α}
    (success : t.answer found missing = .ok (a, after)) : found = some a ∧ after = t := by
  unfold answer at success
  split at success
  · cases success
    exact ⟨rfl, rfl⟩
  · cases success

theorem apply_of_reads {c : Call} {a : c.Answer} (reads : c.reads = true)
    (success : t.apply now c = .ok (a, after)) : after = t := by
  cases c with
  | levelOf name => exact (of_answer_ok success).2
  | user id => exact (of_answer_ok success).2
  | credentials email => exact (of_answer_ok success).2
  | post id => exact (of_answer_ok success).2
  | feed viewer query =>
    cases success
    rfl
  | commentsOn postId =>
    cases success
    rfl
  | _ => cases reads

/-- The tables that an operation does not concern are as they were. -/
structure Framed (c : Call) (t after : Tables) : Prop where
  posts : c.concernsPosts = false → after.posts = t.posts
  comments : c.concernsComments = false → after.comments = t.comments
  follows : c.concernsFollows = false → after.follows = t.follows

theorem framed_of_same {c : Call} (same : after = t) : Framed c t after := by
  rw [same]
  exact ⟨fun _ => rfl, fun _ => rfl, fun _ => rfl⟩

theorem seedUser_framed {c : Call} {new : NewUser} {active : Bool} {u : User}
    (success : t.seedUser now new active = .ok (u, after)) : Framed c t after := by
  unfold seedUser at success
  split at success
  · cases success
    exact ⟨fun _ => rfl, fun _ => rfl, fun _ => rfl⟩
  · cases success

theorem createAndInvite_framed {c : Call} {new : NewUser} {digest : String} {expires : Stamp}
    {u : User} (success : t.createAndInvite now new digest expires = .ok (u, after)) :
    Framed c t after := by
  unfold createAndInvite at success
  split at success
  · cases success
  · split at success
    · cases success
    · split at success
      · rename_i seeded
        cases success
        obtain ⟨posts, comments, follows⟩ := @seedUser_framed _ _ _ c _ _ _ seeded
        exact ⟨posts, comments, follows⟩
      · cases success

theorem activate_framed {c : Call} {digest : String} {id : Int}
    (success : t.activate now digest = .ok (id, after)) : Framed c t after := by
  unfold activate at success
  split at success
  · split at success
    · cases success
      exact ⟨fun _ => rfl, fun _ => rfl, fun _ => rfl⟩
    · cases success
  · cases success

theorem apply_framed {c : Call} {a : c.Answer} (success : t.apply now c = .ok (a, after)) :
    Framed c t after := by
  cases c with
  | seedUser new active => exact seedUser_framed success
  | createAndInvite new digest expires => exact createAndInvite_framed success
  | activate digest => exact activate_framed success
  | deleteUser id =>
    simp only [apply, deleteUser] at success
    split at success
    · cases success
      exact ⟨fun _ => rfl, fun _ => rfl, nofun⟩
    · cases success
  | createPost userId title content tags =>
    cases success
    exact ⟨nofun, fun _ => rfl, fun _ => rfl⟩
  | updatePost update =>
    simp only [apply, updatePost] at success
    split at success
    · split at success
      · cases success
        exact ⟨nofun, fun _ => rfl, fun _ => rfl⟩
      · cases success
    · cases success
  | deletePost id =>
    simp only [apply, deletePost] at success
    split at success
    · cases success
      exact ⟨nofun, fun _ => rfl, fun _ => rfl⟩
    · cases success
  | createComment postId userId text =>
    simp only [apply, createComment] at success
    split at success
    · cases success
      exact ⟨fun _ => rfl, nofun, fun _ => rfl⟩
    · cases success
  | deleteCommentsOn postId =>
    cases success
    exact ⟨fun _ => rfl, nofun, fun _ => rfl⟩
  | follow follower followee =>
    simp only [apply, follow] at success
    split at success
    · cases success
      exact ⟨fun _ => rfl, fun _ => rfl, nofun⟩
    · cases success
  | unfollow follower followee =>
    cases success
    exact ⟨fun _ => rfl, fun _ => rfl, nofun⟩
  | putRole name level =>
    cases success
    exact ⟨fun _ => rfl, fun _ => rfl, fun _ => rfl⟩
  | levelOf name => exact framed_of_same (apply_of_reads rfl success)
  | user id => exact framed_of_same (apply_of_reads rfl success)
  | credentials email => exact framed_of_same (apply_of_reads rfl success)
  | post id => exact framed_of_same (apply_of_reads rfl success)
  | feed viewer query => exact framed_of_same (apply_of_reads rfl success)
  | commentsOn postId => exact framed_of_same (apply_of_reads rfl success)

end Tables

section

variable {s : Store} {now : Stamp} {c : Call}

theorem perform_of_ok {a : c.Answer} {t : Tables} (up : s.available = true)
    (success : s.tables.apply now c = .ok (a, t)) :
    s.perform now c = (.ok a, { s with tables := t }) := by
  simp only [perform, up, success, ↓reduceIte]

theorem perform_of_error {e : Error} (up : s.available = true)
    (failed : s.tables.apply now c = .error e) : s.perform now c = (.error e, s) := by
  simp only [perform, up, failed, ↓reduceIte]

theorem perform_of_offline (down : s.available = false) :
    s.perform now c = (.error (.unavailable .offline), s) := by
  simp only [perform, down, Bool.false_eq_true, ↓reduceIte]

/-- An operation either succeeds on a store that answers, or fails and changes nothing. -/
theorem perform_cases (s : Store) (now : Stamp) (c : Call) :
    (∃ a t, s.available = true ∧ s.tables.apply now c = .ok (a, t) ∧
      s.perform now c = (.ok a, { s with tables := t })) ∨
    (∃ e, s.perform now c = (.error e, s)) := by
  by_cases up : s.available = true
  · cases result : s.tables.apply now c with
    | error e => exact .inr ⟨e, perform_of_error up result⟩
    | ok done => exact .inl ⟨done.1, done.2, up, rfl, perform_of_ok up result⟩
  · exact .inr ⟨_, perform_of_offline (by simpa using up)⟩

@[simp] theorem perform_available (s : Store) (now : Stamp) (c : Call) :
    (s.perform now c).2.available = s.available := by
  rcases perform_cases s now c with ⟨a, t, _, _, done⟩ | ⟨e, failed⟩
  · rw [done]
  · rw [failed]

theorem perform_of_failed {e : Error} (failed : (s.perform now c).1 = .error e) :
    (s.perform now c).2 = s := by
  rcases perform_cases s now c with ⟨a, t, _, _, done⟩ | ⟨_, same⟩
  · rw [done] at failed
    cases failed
  · rw [same]

theorem available_of_ok {a : c.Answer} {t : Store} (success : s.perform now c = (.ok a, t)) :
    s.available = true := by
  rcases perform_cases s now c with ⟨_, _, up, _⟩ | ⟨e, failed⟩
  · exact up
  · rw [failed] at success
    cases success

theorem perform_of_reads (reads : c.reads = true) : (s.perform now c).2 = s := by
  rcases perform_cases s now c with ⟨a, t, _, success, done⟩ | ⟨_, same⟩
  · rw [done, Tables.apply_of_reads reads success]
  · rw [same]

variable (s now c) in
theorem perform_framed : Tables.Framed c s.tables (s.perform now c).2.tables := by
  rcases perform_cases s now c with ⟨a, t, _, success, done⟩ | ⟨_, same⟩
  · rw [done]
    exact Tables.apply_framed success
  · rw [same]
    exact Tables.framed_of_same rfl

end

end Agora.Store
