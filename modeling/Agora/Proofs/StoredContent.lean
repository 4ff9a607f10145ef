import Agora.Proofs.DistinctAccounts
import Agora.Proofs.LiveAccounts
import Mathlib.Data.List.Induction

set_option autoImplicit false

namespace Agora

open Time (Stamp)

namespace Store

/-- All posts and comments keep within the limits, and all accounts but those from outside. -/
structure Tables.Published (outside : Int → Prop) (t : Tables) : Prop where
  accounts : ∀ a ∈ t.accounts.rows,
    outside a.user.id ∨ Registrable a.user.email a.user.username a.user.role
  posts : ∀ p ∈ t.posts.rows, p.Published
  comments : ∀ r ∈ t.comments.rows, r.Published

section

variable {s : Store} {now : Stamp} {c : Call} {outside : Int → Prop}

/-- What is given in place of a text must keep within the bounds, as the text does. -/
theorem measures_getD {least most : Nat} {text : String} {given : Option String}
    (stands : Measures least most text) (fits : ∀ other ∈ given, Measures least most other) :
    Measures least most (given.getD text) := by
  cases given with
  | none => exact stands
  | some other => exact fits other rfl

/-- A change leaves as it stands what it does not give. -/
theorem Post.Published.changed {p : Post} {u : PostUpdate} (published : p.Published)
    (fine : (Call.updatePost u).Published) : (Tables.changed now u p).Published where
  title := measures_getD published.title fine.1
  content := measures_getD published.content fine.2
  version := by
    have before := published.version
    show 0 ≤ p.version + 1
    omega

theorem perform_posts_published (fine : c.Published)
    (before : ∀ p ∈ s.tables.posts.rows, p.Published) :
    ∀ p ∈ (s.perform now c).2.tables.posts.rows, p.Published := by
  rcases perform_cases s now c with ⟨a, t, _, success, done⟩ | ⟨e, failed⟩
  · rw [done]
    cases c with
    | createPost userId title content tags =>
      cases success
      intro p inside
      rcases List.mem_append.1 inside with old | new
      · exact before p old
      · rw [List.mem_singleton.1 new]
        exact ⟨fine.1, fine.2, Int.le_refl 0⟩
    | updatePost u =>
      simp only [Tables.apply, Tables.updatePost] at success
      split at success
      · split at success
        · cases success
          intro p inside
          obtain ⟨old, held, rfl⟩ := List.mem_map.1 inside
          split
          · exact (before old held).changed fine
          · exact before old held
        · cases success
      · cases success
    | deletePost id =>
      simp only [Tables.apply, Tables.deletePost] at success
      split at success
      · cases success
        intro p inside
        exact before p (List.mem_filter.1 inside).1
      · cases success
    | _ =>
      have same : t.posts = s.tables.posts := (Tables.apply_framed success).posts rfl
      rwa [same]
  · rwa [failed]

theorem perform_comments_published (fine : c.Published)
    (before : ∀ r ∈ s.tables.comments.rows, r.Published) :
    ∀ r ∈ (s.perform now c).2.tables.comments.rows, r.Published := by
  rcases perform_cases s now c with ⟨a, t, _, success, done⟩ | ⟨e, failed⟩
  · rw [done]
    cases c with
    | createComment postId userId text =>
      simp only [Tables.apply, Tables.createComment] at success
      split at success
      · cases success
        intro r inside
        rcases List.mem_append.1 inside with old | new
        · exact before r old
        · rw [List.mem_singleton.1 new]
          exact ⟨fine.2, fine.1⟩
      · cases success
    | deleteCommentsOn postId =>
      cases success
      intro r inside
      exact before r (List.mem_filter.1 inside).1
    | _ =>
      have same : t.comments = s.tables.comments := (Tables.apply_framed success).comments rfl
      rwa [same]
  · rwa [failed]

/-- Whatever is done to accounts, they stay as they are but for being active; so it is enough that
the one that is made, if any, is fine. -/
theorem Event.accounts_published {e : Event}
    (fine : ∀ made, opened? s e = some made →
      outside made.user.id ∨ Registrable made.user.email made.user.username made.user.role)
    (before : ∀ a ∈ s.tables.accounts.rows,
      outside a.user.id ∨ Registrable a.user.email a.user.username a.user.role) :
    ∀ a ∈ (e.next s).tables.accounts.rows,
      outside a.user.id ∨ Registrable a.user.email a.user.username a.user.role := by
  intro b stored
  cases rowStep s e with
  | opened made number next rows noted free =>
    rw [rows] at stored
    rcases List.mem_append.1 stored with old | new
    · exact before b old
    · rw [List.mem_singleton.1 new]
      exact fine made noted
  | aged next rows noted =>
    obtain ⟨a, old, aged⟩ := rows b stored
    rcases aged with rfl | rfl
    · exact before b old
    · exact before a old

/-- A registration that may be made makes an account that keeps within the limits. -/
theorem registrable_of_opened {made : Account} (fine : c.Published)
    (opened : opened? s ⟨now, c⟩ = some made) :
    Registrable made.user.email made.user.username made.user.role := by
  cases c with
  | seedUser new active => cases fine
  | createAndInvite new digest expires =>
    obtain ⟨user, answered, rfl⟩ := Option.map_eq_some_iff.1 opened
    have given : (s.perform now (.createAndInvite new digest expires)).1 = .ok user :=
      Service.ok_of_toOption answered
    have up : s.available = true := available_of_ok (Prod.ext given rfl)
    rcases perform_createAndInvite up now new digest expires with ⟨_, done⟩ | ⟨_, e, failed⟩
    · rw [done] at given
      cases given
      exact fine
    · rw [failed] at given
      cases given
  | _ => cases opened

theorem perform_published (fine : c.Published) (published : s.tables.Published outside) :
    (s.perform now c).2.tables.Published outside where
  accounts := Event.accounts_published (e := ⟨now, c⟩)
    (fun _ opened => .inr (registrable_of_opened fine opened)) published.accounts
  posts := perform_posts_published fine published.posts
  comments := perform_comments_published fine published.comments

/-- An account that is seeded comes from outside. -/
theorem perform_seedUser_published {new : NewUser} {active : Bool}
    (seeded : ∀ user, (s.perform now (.seedUser new active)).1 = .ok user → outside user.id)
    (published : s.tables.Published outside) :
    (s.perform now (.seedUser new active)).2.tables.Published outside where
  accounts := by
    refine Event.accounts_published (e := ⟨now, .seedUser new active⟩) ?_ published.accounts
    intro made opened
    obtain ⟨user, answered, rfl⟩ := Option.map_eq_some_iff.1 opened
    exact .inl (seeded user (Service.ok_of_toOption answered))
  posts := by
    rw [(perform_framed s now (.seedUser new active)).posts rfl]
    exact published.posts
  comments := by
    rw [(perform_framed s now (.seedUser new active)).comments rfl]
    exact published.comments

theorem Tables.Published.mono {wider : Int → Prop} {t : Tables} (published : t.Published outside)
    (among : ∀ id, outside id → wider id) : t.Published wider :=
  { published with accounts := fun a stored => (published.accounts a stored).imp_left (among _) }

end

end Store

namespace Service

open Http (Request)
open Store (Registrable)

/-- The account of a number was put into the store from outside in a session. -/
def Seeded (setting : Setting) (history : List Event) (id : Int) : Prop :=
  ∃ before o new active rest user, history = before ++ .seed o new active :: rest ∧
    ((setting.course before).perform o.now (.seedUser new active)).1 = .ok user ∧ user.id = id

section

variable {setting : Setting} {history : List Event}

theorem Seeded.concat {id : Int} (seeded : Seeded setting history id) (e : Event) :
    Seeded setting (history ++ [e]) id := by
  obtain ⟨before, o, new, active, rest, user, rfl, answered, number⟩ := seeded
  exact ⟨before, o, new, active, rest ++ [e], user, List.append_assoc _ _ _, answered, number⟩

/-- A request writes only what keeps within the limits. -/
theorem respond_published {env : Env} {q : Request} {s : State} {outside : Int → Prop}
    (published : s.store.tables.Published outside) :
    (respond env q s).2.store.tables.Published outside :=
  respond_of_makes (P := fun store => store.tables.Published outside)
    (fun _ _ _ _ fine _ kept => Store.perform_published fine kept) published

theorem course_published (setting : Setting) (history : List Event) :
    (setting.course history).store.tables.Published (Seeded setting history) := by
  induction history using List.reverseRecOn with
  | nil => exact ⟨nofun, nofun, nofun⟩
  | append_singleton history e ih =>
    have kept : (setting.course history).store.tables.Published
        (Seeded setting (history ++ [e])) := ih.mono fun _ seeded => seeded.concat e
    rw [setting.course_append_cons]
    show (e.next setting (setting.course history)).store.tables.Published _
    cases e with
    | request o q => exact respond_published kept
    | seed o new active =>
      refine Store.perform_seedUser_published ?_ kept
      intro user answered
      exact ⟨history, o, new, active, [], user, rfl, answered, rfl⟩
    | putRole o name level =>
      exact @Store.perform_published _ o.now (.putRole name level) _ trivial kept
    | setAvailable up => exact ⟨kept.accounts, kept.posts, kept.comments⟩
    | advance span =>
      rw [Event.next, State.advance, State.rest_store]
      exact kept

/-- Whatever has happened to a service, be it requests of any kind, outages or delays: every account
that was not put in from outside has an email of 1 to 255 characters with an at sign in it, a name
of 8 to 20 characters and the role of newcomers; every post has a title of 1 to 100 characters, a
content of 1 to 1000 and no negative version; and every comment has 1 to 100 characters and the
number of a post. -/
theorem stored_within_limits (setting : Setting) (history : List Event) :
    let t := (setting.course history).store.tables
    (∀ a ∈ t.accounts.rows, ¬Seeded setting history a.user.id →
      (1 ≤ a.user.email.length ∧ a.user.email.length ≤ 255) ∧ '@' ∈ a.user.email.toList ∧
        (8 ≤ a.user.username.length ∧ a.user.username.length ≤ 20) ∧ a.user.role = "user") ∧
    (∀ p ∈ t.posts.rows, (1 ≤ p.title.length ∧ p.title.length ≤ 100) ∧
      (1 ≤ p.content.length ∧ p.content.length ≤ 1000) ∧ 0 ≤ p.version) ∧
    ∀ r ∈ t.comments.rows, (1 ≤ r.text.length ∧ r.text.length ≤ 100) ∧ 0 < r.postId := by
  intro t
  have published : t.Published (Seeded setting history) := course_published setting history
  refine ⟨?_, ?_, ?_⟩
  · intro a stored registered
    have account := (published.accounts a stored).resolve_left registered
    exact ⟨account.brief, account.address, account.named, account.newcomer⟩
  · intro p stored
    have post := published.posts p stored
    exact ⟨post.title, post.content, post.version⟩
  · intro r stored
    have comment := published.comments r stored
    exact ⟨comment.text, comment.post⟩

end

end Service

end Agora
