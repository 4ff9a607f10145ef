import Agora.Proofs.PostGates

set_option autoImplicit false

namespace Agora.Service

open Http (Request Response)
open Store (Post PostUpdate)
open Time (Span)

variable {env : Env} {q : Request} {segment : String} {before s : State} {post : Post}

theorem showPost_run (loaded : Loaded env segment before post s) (cut : Span) :
    (showPost post).run env (some cut) s =
      if env.delay ≠ 0 ∧ cut ≤ s.clock + env.delay then (.cutOff, s.wait cut)
      else (.done (.data 200 (withComments post
          ((s.store.tables.remarksOn post.id).map s.store.tables.view))),
        s.afterCall env (.commentsOn post.id)) := by
  rw [showPost, Plan.call_then, Plan.run_ask_of_punctual loaded.soon,
    Store.perform_commentsOn loaded.up]
  rfl

/-- A change is made in the store and answered with the post after it, or nothing changes: the
request is cut off, or makes no sense, or the post stands at another version. -/
theorem editPost_cases (loaded : Loaded env segment before post s) (cut : Span) :
    let run := (editPost env q post).run env (some cut) s
    (run.2.store = s.store ∧ (run.1 = .cutOff ∨
      (∃ complaint, run.1 = .halted (.failed (.badRequest complaint))) ∨
      run.1 = .halted (.failed .conflict))) ∨
    (∃ u : PostUpdate, u.id = post.id ∧
      run.1 = .done (.data 200 (Store.Tables.changed env.now u post).toJson) ∧
      run.2.store = s.store.withPosts (s.store.tables.posts.modify post.id
        (Store.Tables.changed env.now u) (Store.Tables.number_changed env.now u))) := by
  dsimp only
  rw [editPost]
  cases Revision.ofRequest env.config.listener.maxBodySize q with
  | error complaint => exact .inl ⟨rfl, .inr (.inl ⟨complaint, rfl⟩)⟩
  | ok r =>
    rw [Plan.accept_then, applyUpdate, bind_assoc, Plan.run_ask_of_punctual loaded.soon]
    generalize asked : (⟨post.id, r.version.getD post.version, r.title, r.content⟩ : PostUpdate) = u
    have same : u.id = post.id := by rw [← asked]
    by_cases struck : env.delay ≠ 0 ∧ cut ≤ s.clock + env.delay
    · rw [if_pos struck]
      exact .inl ⟨State.wait_store cut s, .inl rfl⟩
    · rw [if_neg struck]
      rcases Store.perform_updatePost loaded.up env.now u with
        ⟨p, found, _, made⟩ | ⟨_, refused⟩
      · rw [same, loaded.held] at found
        cases found
        rw [made]
        refine .inr ⟨u, same, rfl, ?_⟩
        rw [← same]
        exact congrArg Prod.snd made
      · rw [refused]
        exact .inl ⟨congrArg Prod.snd refused, .inr (.inr rfl)⟩

theorem perform_both {before : State} (loaded : Loaded env segment before post s) :
    (s.store.withoutComments post.id).perform env.now (.deletePost post.id) =
      (.ok post, (s.store.withoutComments post.id).withPosts
        (s.store.tables.posts.remove post.id)) := by
  have up : (s.store.withoutComments post.id).available = true := loaded.up
  have held : (s.store.withoutComments post.id).tables.posts.get? post.id = some post := loaded.held
  rcases Store.perform_deletePost up env.now post.id with ⟨p, found, run⟩ | ⟨missing, _⟩
  · rw [held] at found
    cases found
    exact run
  · rw [held] at missing
    cases missing

theorem deletePost_run {before : State} (loaded : Loaded env segment before post s) (cut : Span) :
    (deletePost post).run env (some cut) s =
      if env.delay ≠ 0 ∧ cut ≤ s.clock + env.delay then (.cutOff, s.wait cut)
      else
        let severed := s.afterCall env (.deleteCommentsOn post.id)
        if env.delay ≠ 0 ∧ cut ≤ s.clock + env.delay + env.delay then (.cutOff, severed.wait cut)
        else (.done (.ofStatus 204), severed.afterCall env (.deletePost post.id)) := by
  have later : punctual env (s.afterCall env (.deleteCommentsOn post.id)).clock = true := by
    rw [State.afterCall_clock]
    exact punctual_mono (Nat.le_add_right _ _) loaded.soon
  rw [deletePost, Plan.call_then, Plan.run_ask_of_punctual loaded.soon,
    Store.perform_deleteCommentsOn loaded.up]
  by_cases first : env.delay ≠ 0 ∧ cut ≤ s.clock + env.delay
  · rw [if_pos first, if_pos first]
  · rw [if_neg first, if_neg first]
    dsimp only
    rw [Plan.call_then, Plan.run_ask_of_punctual later, State.afterCall_clock,
      State.afterCall_store, Store.perform_deleteCommentsOn loaded.up]
    by_cases second : env.delay ≠ 0 ∧ cut ≤ s.clock + env.delay + env.delay
    · rw [if_pos second, if_pos second]
    · rw [if_neg second, if_neg second, perform_both loaded]
      rfl

/-- The statuses with which a request on a post can be answered behind its gates. -/
def statusesBeyond : List Nat := [200, 204, 400, 405, 408, 409]

/-- A run has ended as it may behind the gates of a post, and has kept all other posts. -/
structure Served (post : Post) (before : Store) (run : Ending Response × State) : Prop where
  status : run.1.response.status ∈ statusesBeyond
  others : ∀ id, id ≠ post.id → run.2.store.tables.posts.get? id = before.tables.posts.get? id

theorem served_of_same {store : Store} {run : Ending Response × State} {n : Nat}
    (status : run.1.response.status = n) (listed : n ∈ statusesBeyond)
    (same : run.2.store.tables.posts = store.tables.posts) : Served post store run where
  status := status ▸ listed
  others id _ := by rw [same]

theorem showPost_served (loaded : Loaded env segment before post s) (cut : Span) :
    Served post s.store ((showPost post).run env (some cut) s) := by
  rw [showPost_run loaded]
  split
  · exact served_of_same rfl (by decide : 408 ∈ statusesBeyond) (by rw [State.wait_store])
  · refine served_of_same rfl (by decide : 200 ∈ statusesBeyond) ?_
    rw [State.afterCall_store, Store.perform_of_reads rfl]

theorem editPost_served (loaded : Loaded env segment before post s) (cut : Span) :
    Served post s.store ((editPost env q post).run env (some cut) s) := by
  rcases editPost_cases loaded cut with
    ⟨same, ended | ⟨complaint, ended⟩ | ended⟩ | ⟨u, _, ended, changed⟩
  · exact served_of_same (by rw [ended]; rfl) (by decide : 408 ∈ statusesBeyond) (by rw [same])
  · exact served_of_same (by rw [ended]; rfl) (by decide : 400 ∈ statusesBeyond) (by rw [same])
  · exact served_of_same (by rw [ended]; rfl) (by decide : 409 ∈ statusesBeyond) (by rw [same])
  · refine ⟨?_, fun id apart => ?_⟩
    · rw [ended]
      exact (by decide : 200 ∈ statusesBeyond)
    · rw [changed, Store.withPosts, Table.Ledger.get?_modify, if_neg apart]

theorem deletePost_served (loaded : Loaded env segment before post s) (cut : Span) :
    Served post s.store ((deletePost post).run env (some cut) s) := by
  rw [deletePost_run loaded]
  dsimp only
  split
  · exact served_of_same rfl (by decide : 408 ∈ statusesBeyond) (by rw [State.wait_store])
  · split
    · refine served_of_same rfl (by decide : 408 ∈ statusesBeyond) ?_
      rw [State.wait_store, State.afterCall_store, Store.perform_deleteCommentsOn loaded.up]
      rfl
    · refine ⟨(by decide : 204 ∈ statusesBeyond), fun id apart => ?_⟩
      rw [State.afterCall_store, State.afterCall_store,
        Store.perform_deleteCommentsOn loaded.up, perform_both loaded, Store.withPosts,
        Table.Ledger.get?_remove, if_neg apart]

/-- Behind the gates no request on a post is forbidden or breaks down, and no other post changes. -/
theorem beyond_served (q : Request) (user : Store.User)
    (loaded : Loaded env segment before post s) (cut : Span) :
    Served post s.store ((beyond env q segment (user, post)).run env (some cut) s) := by
  rw [beyond]
  split
  · rw [handle_post]
    split
    · exact editPost_served loaded cut
    · exact deletePost_served loaded cut
    · exact showPost_served loaded cut
  · exact served_of_same rfl (by decide : 405 ∈ statusesBeyond) rfl

end Agora.Service
