import Agora.Proofs.PostHandlers

/-!
Deleting a post takes two operations of the store, the comments first and then the post. Each of
them is atomic and both together are not: a request that is cut off between them has taken the
comments and left the post. That is the only way in which a deletion can be done by half.
-/

set_option autoImplicit false

namespace Agora.Service

open Http (Request Response)
open Store (Post Remark User)
open Time (Span)

/-- The comments on a post that a store holds. -/
def commentRows (s : Store) (id : Int) : List Remark :=
  s.tables.comments.rows.filter (·.postId = id)

/-- A post and its comments have been deleted, and nothing else has changed. -/
structure Deleted (id : Int) (before after : Store) : Prop where
  stood : before.tables.posts.contains id = true
  post : after.tables.posts.get? id = none
  comments : commentRows after id = []
  otherPosts : ∀ other, other ≠ id → after.tables.posts.get? other = before.tables.posts.get? other
  otherComments : ∀ other, other ≠ id → commentRows after other = commentRows before other
  numbers : after.tables.posts.next = before.tables.posts.next ∧
    after.tables.comments.next = before.tables.comments.next
  rest : after = { before with tables := { before.tables with
    posts := after.tables.posts, comments := after.tables.comments } }

/-- A post and its comments are as they were. -/
def Untouched (id : Int) (before after : Store) : Prop :=
  after.tables.posts.get? id = before.tables.posts.get? id ∧
    commentRows after id = commentRows before id

/-- The request deletes the post that the path names and all its comments if it is answered so, and
nothing of both otherwise. -/
def AllOrNothing (env : Env) (q : Request) (segment : String) (s : State) : Prop :=
  ((respond env q s).1.status = 204 →
    ∃ id, names segment id ∧ Deleted id s.store (respond env q s).2.store) ∧
  ((respond env q s).1.status ≠ 204 →
    ∀ id, names segment id → Untouched id s.store (respond env q s).2.store)

/-- The moment at which a request is cut off comes after the end of a call that starts now
and no later than the end of the next one. -/
def Between (env : Env) (s : State) (cut : Span) : Prop :=
  s.clock + env.delay < cut ∧ cut ≤ s.clock + env.delay + env.delay

/-- The request comes to a post that has comments, and is cut off after these have been deleted and
before the post would be. -/
def Severed (env : Env) (q : Request) (segment : String) (s : State) : Prop :=
  started env q ∧ ∃ caller post entered,
    (passage env q segment).run env (some (lastMoment env s)) s = (.done (caller, post), entered) ∧
    Between env entered (lastMoment env s) ∧ commentRows s.store post.id ≠ []

section

variable (s : Store) (id other : Int)

theorem commentRows_withoutComments (apart : other ≠ id) :
    commentRows (s.withoutComments id) other = commentRows s other := by
  simp only [commentRows, Store.withoutComments, Table.Ledger.filter, List.filter_filter]
  refine List.filter_congr fun row _ => ?_
  by_cases here : row.postId = other
  · simp [here, apart]
  · simp [here]

theorem commentRows_withoutComments_self : commentRows (s.withoutComments id) id = [] := by
  simp [commentRows, Store.withoutComments, Table.Ledger.filter]

end

theorem deleted (s : Store) (id : Int) (stood : s.tables.posts.contains id = true) :
    Deleted id s ((s.withoutComments id).withPosts (s.tables.posts.remove id)) where
  stood
  post := by
    rw [Store.withPosts, Table.Ledger.get?_remove, if_pos rfl]
  comments := commentRows_withoutComments_self s id
  otherPosts other apart := by
    rw [Store.withPosts, Table.Ledger.get?_remove, if_neg apart]
  otherComments other apart := commentRows_withoutComments s id other apart
  numbers := ⟨rfl, rfl⟩
  rest := rfl

section

variable {env : Env} {q : Request} {segment : String} {s : State} {caller : User} {post : Post}

/-- A deletion that has come past the gates does both, or is cut off before it does anything, or is
cut off between the two. -/
theorem deletePost_cases {before : State} (loaded : Loaded env segment before post s) (cut : Span) :
    let run := (deletePost post).run env (some cut) s
    (run.1 = .done (.ofStatus 204) ∧ Deleted post.id s.store run.2.store ∧ ¬ Between env s cut) ∨
    (run.1 = .cutOff ∧ run.2.store = s.store ∧ ¬ Between env s cut) ∨
    (run.1 = .cutOff ∧ run.2.store = s.store.withoutComments post.id ∧ Between env s cut) := by
  dsimp only
  rw [deletePost_run loaded]
  dsimp only
  by_cases first : env.delay ≠ 0 ∧ cut ≤ s.clock + env.delay
  · rw [if_pos first]
    refine .inr (.inl ⟨rfl, State.wait_store cut s, fun between => ?_⟩)
    exact Nat.not_le_of_lt between.1 first.2
  · rw [if_neg first]
    by_cases second : env.delay ≠ 0 ∧ cut ≤ s.clock + env.delay + env.delay
    · rw [if_pos second]
      have early : s.clock + env.delay < cut :=
        Nat.lt_of_not_le fun late => first ⟨second.1, late⟩
      refine .inr (.inr ⟨rfl, ?_, early, second.2⟩)
      rw [State.wait_store, State.afterCall_store, Store.perform_deleteCommentsOn loaded.up]
    · rw [if_neg second]
      -- Without a delay both calls end at once, and there is no moment between them.
      refine .inl ⟨rfl, ?_, fun between => ?_⟩
      · rw [State.afterCall_store, State.afterCall_store,
          Store.perform_deleteCommentsOn loaded.up, perform_both loaded]
        exact deleted s.store post.id loaded.stands
      · have prompt : env.delay = 0 :=
          Decidable.byContradiction fun slow => second ⟨slow, between.2⟩
        have past := Nat.lt_of_lt_of_le between.1 between.2
        rw [prompt] at past
        exact Nat.lt_irrefl _ past

theorem untouched_of_same {id : Int} {before after : Store} (same : after = before) :
    Untouched id before after := by
  rw [same]
  exact ⟨rfl, rfl⟩

theorem Halt.response_ne (why : Halt) : why.response.status ≠ 204 := by
  intro success
  have failed := why.not_success
  rw [success] at failed
  cases failed

theorem Severed.entered (severed : Severed env q segment s) :
    ∃ context entered, (passage env q segment).run env (some (lastMoment env s)) s =
      (.done context, entered) := by
  obtain ⟨_, caller, post, entered, passed, _⟩ := severed
  exact ⟨(caller, post), entered, passed⟩

theorem severed_iff {entered : State} (ready : started env q)
    (passed : (passage env q segment).run env (some (lastMoment env s)) s =
      (.done (caller, post), entered)) :
    Severed env q segment s ↔
      Between env entered (lastMoment env s) ∧ commentRows s.store post.id ≠ [] := by
  constructor
  · rintro ⟨_, _, _, _, other, between, held⟩
    rw [passed] at other
    cases other
    exact ⟨between, held⟩
  · rintro ⟨between, held⟩
    exact ⟨ready, caller, post, entered, passed, between, held⟩

/-- What becomes of a deletion, as the request is answered and as the store is left. -/
theorem deletion_cases (deletes : q.method = .delete)
    (found : resource? env.config q = some (.post segment)) :
    let r := respond env q s
    (r.1.status = 204 ∧ (∃ id, names segment id ∧ Deleted id s.store r.2.store) ∧
      ¬ Severed env q segment s) ∨
    (r.1.status ≠ 204 ∧ r.2.store = s.store ∧ ¬ Severed env q segment s) ∨
    (r.1.status = 408 ∧ ∃ id, names segment id ∧ s.store.tables.posts.contains id = true ∧
      r.2.store = s.store.withoutComments id ∧
      (Severed env q segment s ↔ commentRows s.store id ≠ [])) := by
  dsimp only
  by_cases ready : started env q
  · obtain ⟨status, store⟩ := respond_of_started (s := s) ready
    rw [status, store, planRun_of_post s found]
    cases passed : (passage env q segment).run env (some (lastMoment env s)) s with
    | mk ending entered =>
      have kept := passage_keeps.of_run passed
      cases ending with
      | halted why =>
        refine .inr (.inl ⟨why.response_ne, kept, fun severed => ?_⟩)
        obtain ⟨_, _, other⟩ := severed.entered
        cases passed.symm.trans other
      | cutOff =>
        refine .inr (.inl ⟨fun deleted => (by cases deleted), kept, fun severed => ?_⟩)
        obtain ⟨_, _, other⟩ := severed.entered
        cases passed.symm.trans other
      | done context =>
        obtain ⟨caller, post⟩ := context
        have loaded := passage_done passed
        have only : beyond env q segment (caller, post) = deletePost post := by
          rw [beyond, handle_post, deletes]
          rfl
        dsimp only
        -- The gates have kept the store, so the deletion may be judged from where they end.
        rw [only, severed_iff ready passed, ← kept]
        rcases deletePost_cases loaded (lastMoment env s) with
          ⟨ended, both, apart⟩ | ⟨ended, same, apart⟩ | ⟨ended, half, between⟩
        · rw [ended]
          exact .inl ⟨rfl, ⟨post.id, loaded.named, both⟩, fun other => apart other.1⟩
        · rw [ended]
          exact .inr (.inl ⟨by decide, same, fun other => apart other.1⟩)
        · rw [ended]
          exact .inr (.inr ⟨rfl, post.id, loaded.named, loaded.stands, half,
            fun other => other.2, fun held => ⟨between, held⟩⟩)
  · obtain ⟨refused, same⟩ := respond_of_refused (s := s) ready
    refine .inr (.inl ⟨?_, congrArg State.store same, fun severed => ready severed.1⟩)
    rcases refused with late | large
    · rw [late]
      decide
    · rw [large]
      decide

end

theorem untouched_withoutComments {id : Int} {before after : Store}
    (after_eq : after = before.withoutComments id) :
    Untouched id before after ↔ commentRows before id = [] := by
  rw [Untouched, after_eq, commentRows_withoutComments_self]
  exact ⟨fun same => same.2.symm, fun none => ⟨rfl, none.symm⟩⟩

/-- A deletion of a post is all or nothing unless it is severed: cut off between its two operations,
where the post has comments. One that is severed is answered as too late, has lost all comments on
the post, and has left the post and everything else. -/
theorem deletion_all_or_nothing_iff (env : Env) (q : Request) (segment : String) (s : State)
    (deletes : q.method = .delete) (found : resource? env.config q = some (.post segment)) :
    (AllOrNothing env q segment s ↔ ¬ Severed env q segment s) ∧
    (Severed env q segment s → (respond env q s).1.status = 408 ∧ ∃ id, names segment id ∧
      s.store.tables.posts.contains id = true ∧ commentRows s.store id ≠ [] ∧
      (respond env q s).2.store = s.store.withoutComments id) := by
  rcases deletion_cases (s := s) deletes found with
    ⟨status, both, whole⟩ | ⟨status, same, whole⟩ | ⟨status, id, named, stood, half, severed⟩
  · refine ⟨iff_of_true ⟨fun _ => both, fun other => absurd status other⟩ whole, ?_⟩
    exact fun severed => absurd severed whole
  · refine ⟨iff_of_true ⟨fun other => absurd other status, fun _ _ _ => ?_⟩ whole, ?_⟩
    · exact untouched_of_same same
    · exact fun severed => absurd severed whole
  · refine ⟨?_, fun cut => ⟨status, id, named, stood, severed.1 cut, half⟩⟩
    have late : (respond env q s).1.status ≠ 204 := by
      rw [status]
      exact (nomatch ·)
    rw [severed, Decidable.not_not]
    constructor
    · intro whole
      exact (untouched_withoutComments half).1 (whole.2 late id named)
    · intro none
      refine ⟨fun other => absurd other late, fun _ other named' => ?_⟩
      rw [names_unique named named']
      exact (untouched_withoutComments half).2 none

/-- A request that has lost the comments and is not answered with 204 has done one half. -/
theorem halved {env : Env} {q : Request} {segment : String} {s : State} {id : Int}
    (named : names segment id) (held : commentRows s.store id ≠ [])
    (late : (respond env q s).1.status = 408)
    (lost : commentRows (respond env q s).2.store id = []) :
    ¬ AllOrNothing env q segment s := by
  intro whole
  have failed : (respond env q s).1.status ≠ 204 := by
    rw [late]
    exact (nomatch ·)
  have kept := (whole.2 failed id named).2
  exact held (kept.symm.trans lost)

/-- The author deletes a post while the store takes 1.3 s for a call and requests may take 4 s. -/
theorem slow_deletion :
    let r := respond (Sample.env (Span.ofMillis 1300)) (Sample.request .delete) (Sample.state 1)
    r.1.status = 408 ∧ commentRows r.2.store 1 = [] := by
  obtain ⟨status, store⟩ := respond_of_started (s := Sample.state 1) (Sample.ready _ _)
  dsimp only
  rw [status, store, planRun, plan_of_post (Sample.resource _ _), passage, Sample.approach_eq]
  decide +kernel

theorem slow_deletion_halved :
    ¬ AllOrNothing (Sample.env (Span.ofMillis 1300)) (Sample.request .delete) "1"
      (Sample.state 1) :=
  halved Sample.named (by decide +kernel) slow_deletion.1 slow_deletion.2

/-- A deletion can be severed. -/
theorem slow_deletion_severed :
    Severed (Sample.env (Span.ofMillis 1300)) (Sample.request .delete) "1" (Sample.state 1) := by
  have rule := deletion_all_or_nothing_iff (Sample.env (Span.ofMillis 1300))
    (Sample.request .delete) "1" (Sample.state 1) rfl (Sample.resource _ _)
  refine Classical.byContradiction fun whole => ?_
  exact halved Sample.named (by decide +kernel) slow_deletion.1 slow_deletion.2 (rule.1.2 whole)

end Agora.Service
