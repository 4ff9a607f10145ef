import Agora.Proofs.PostHandlers

set_option autoImplicit false

namespace Agora.Service

open Http (Method Request Response isSuccess)
open Store (Post User)
open Time (Span)

/-- The level of a role as it is found at a moment; none if the role is unknown, the store is
offline, or it takes too long to answer. -/
def State.level? (env : Env) (s : State) (role : String) : Option Int :=
  if s.store.available && punctual env s.clock then s.store.tables.roles.get? role else none

/-- The role that a method takes of someone else than the author. -/
inductive Requires (c : Config.Authorization) : Method → String → Prop where
  | delete : Requires c .delete c.deleteRole
  | get : Requires c .get c.readRole
  | head : Requires c .head c.readRole
  | other {m : Method} (delete : m ≠ .delete) (get : m ≠ .get) (head : m ≠ .head) :
      Requires c m c.updateRole

/-- The gate asks for this role and for no other. -/
theorem requires_iff {c : Config.Authorization} {m : Method} {role : String} :
    Requires c m role ↔ role = requiredRole c m := by
  constructor
  · intro requires
    cases requires with
    | delete | get | head => rfl
    | other delete get head =>
      cases m with
      | delete => exact absurd rfl delete
      | get => exact absurd rfl get
      | head => exact absurd rfl head
      | _ => rfl
  · rintro rfl
    cases m with
    | delete => exact .delete
    | get => exact .get
    | head => exact .head
    | _ => exact .other nofun nofun nofun

theorem Requires.unique {c : Config.Authorization} {m : Method} {role other : String}
    (one : Requires c m role) (another : Requires c m other) : role = other :=
  (requires_iff.1 one).trans (requires_iff.1 another).symm

/-- A user has the right to a method on a post: as its author, or by a sufficient role. -/
def Entitled (env : Env) (m : Method) (user : User) (post : Post) (s : State) : Prop :=
  user.id = post.userId ∨ ∃ role least held, Requires env.config.authorization m role ∧
    s.level? env role = some least ∧ s.level? env user.role = some held ∧ least ≤ held

/-- A user who is not the author has a role of too low a level. -/
def Outranked (env : Env) (m : Method) (user : User) (post : Post) (s : State) : Prop :=
  user.id ≠ post.userId ∧ ∃ role least held, Requires env.config.authorization m role ∧
    s.level? env role = some least ∧ s.level? env user.role = some held ∧ held < least

/-- A user is not the author, and the level of one of the two roles cannot be found. -/
def Unresolved (env : Env) (m : Method) (user : User) (post : Post) (s : State) : Prop :=
  user.id ≠ post.userId ∧ ∃ role, Requires env.config.authorization m role ∧
    (s.level? env role = none ∨ s.level? env user.role = none)

section

variable {env : Env} {m : Method} {user : User} {post : Post} {s after : State}

theorem Entitled.not_outranked (entitled : Entitled env m user post s) :
    ¬ Outranked env m user post s := by
  rintro ⟨other, role, least, held, requires, least_eq, held_eq, low⟩
  rcases entitled with author | ⟨role', least', held', requires', least_eq', held_eq', high⟩
  · exact other author
  · rw [requires'.unique requires, least_eq] at least_eq'
    rw [held_eq] at held_eq'
    cases least_eq'
    cases held_eq'
    omega

theorem Entitled.not_unresolved (entitled : Entitled env m user post s) :
    ¬ Unresolved env m user post s := by
  rintro ⟨other, role, requires, missing⟩
  rcases entitled with author | ⟨role', least, held, requires', least_eq, held_eq, _⟩
  · exact other author
  · rw [requires.unique requires', least_eq, held_eq] at missing
    rcases missing with none | none <;> cases none

theorem Outranked.not_unresolved (outranked : Outranked env m user post s) :
    ¬ Unresolved env m user post s := by
  obtain ⟨_, role', least, held, requires', least_eq, held_eq, _⟩ := outranked
  rintro ⟨_, role, requires, missing⟩
  rw [requires.unique requires', least_eq, held_eq] at missing
  rcases missing with none | none <;> cases none

/-- A store that has given one level answers as well a little later. -/
theorem level?_later {role : String} {level : Int} (known : s.level? env role = some level)
    (store : after.store = s.store) (clock : s.clock ≤ after.clock) (other : String) :
    after.level? env other = s.level? env other := by
  have answers : (s.store.available && punctual env s.clock) = true := by
    refine Decidable.byContradiction fun silent => ?_
    rw [State.level?, if_neg silent] at known
    cases known
  obtain ⟨up, soon⟩ := Bool.and_eq_true_iff.1 answers
  have still : (after.store.available && punctual env after.clock) = true := by
    rw [store, up, punctual_mono clock soon]
    rfl
  rw [State.level?, State.level?, if_pos answers, if_pos still, store]

/-- A look-up of a level gives the level, or the service breaks down, or the request is cut off; the
store stays as it is. -/
theorem lookUp_cases {β : Type} (cutoff : Option Span) (role : String)
    (f : Except Store.Error Int → Plan β) (s : State) :
    let run := (Plan.ask (.call (.levelOf role)) >>= f).run env cutoff s
    run.1 = .cutOff ∨ ∃ after, after.store = s.store ∧ s.clock ≤ after.clock ∧
      ((∃ level, s.level? env role = some level ∧ run = (f (.ok level)).run env cutoff after) ∨
        (s.level? env role = none ∧ ∃ e, (Failure.ofStore e).status = 500 ∧
          run = (f (.error e)).run env cutoff after)) := by
  dsimp only
  have only : (Plan.ask (.call (.levelOf role)) >>= f) = .step (.call (.levelOf role)) f := rfl
  rw [only, Plan.run, Step.perform]
  rcases performCall_cases env cutoff (.levelOf role) s with
    ⟨moment, run⟩ | ⟨moment, late, run⟩ | ⟨soon, run⟩
  · rw [run]
    exact .inl rfl
  · rw [run]
    refine .inr ⟨s.wait moment, State.wait_store moment s, ?_, .inr ⟨?_, _, ?_, rfl⟩⟩
    · rw [State.wait_clock]
      exact Nat.le_max_left _ _
    · rw [State.level?, late, Bool.and_false]
      rfl
    · rfl
  · rw [run]
    refine .inr ⟨s.afterCall env (.levelOf role), Store.perform_of_reads rfl, ?_, ?_⟩
    · rw [State.afterCall_clock]
      exact Nat.le_add_right _ _
    · cases up : s.store.available with
      | false =>
        rw [Store.perform_of_offline up, State.level?, up]
        exact .inr ⟨rfl, _, rfl, rfl⟩
      | true =>
        rw [Store.perform_levelOf up, State.level?, up, soon]
        cases s.store.tables.roles.get? role with
        | none => exact .inr ⟨rfl, _, rfl, rfl⟩
        | some level => exact .inl ⟨level, rfl, rfl⟩

/-- The gate lets in whoever has the right, turns away whoever is outranked, and breaks down where a
level cannot be found, unless the request is cut off. -/
theorem authorize_cases (env : Env) (cutoff : Option Span) (m : Method) (user : User) (post : Post)
    (s : State) :
    let run := (authorize env m user post).run env cutoff s
    run.1 = .cutOff ∨
    (Entitled env m user post s ∧ run.1 = .done ()) ∨
    (Outranked env m user post s ∧ run.1 = .halted (.failed .forbidden)) ∨
    (Unresolved env m user post s ∧
      ∃ e, (Failure.ofStore e).status = 500 ∧ run.1 = .halted (.failed (.ofStore e))) := by
  dsimp only
  rw [authorize, mayUse]
  have requires : Requires env.config.authorization m (requiredRole env.config.authorization m) :=
    requires_iff.2 rfl
  generalize requiredRole env.config.authorization m = role at requires
  by_cases author : user.id = post.userId
  · rw [if_pos author]
    exact .inr (.inl ⟨.inl author, rfl⟩)
  · rw [if_neg author, bind_assoc]
    rcases lookUp_cases cutoff role _ s with
      cut | ⟨first, store, clock, ⟨least, least_eq, run⟩ | ⟨missing, e, status, run⟩⟩
    · exact .inl cut
    · rw [run]
      dsimp only
      rw [bind_assoc]
      -- The second look-up comes later, on the store of the first, and is no worse off.
      rcases lookUp_cases cutoff user.role _ first with
        cut | ⟨second, _, _, ⟨held, held_eq, run⟩ | ⟨missing, e, status, run⟩⟩
      · exact .inl cut
      · rw [run]
        rw [level?_later least_eq store clock] at held_eq
        by_cases high : least ≤ held
        · refine .inr (.inl ⟨.inr ⟨role, least, held, requires, least_eq, held_eq, high⟩, ?_⟩)
          simp only [high, decide_true]
          rfl
        · refine .inr (.inr (.inl ⟨⟨author, role, least, held, requires, least_eq, held_eq, ?_⟩, ?_⟩))
          · omega
          · simp only [high, decide_false]
            rfl
      · rw [run]
        rw [level?_later least_eq store clock] at missing
        exact .inr (.inr (.inr ⟨⟨author, role, requires, .inr missing⟩, e, status, rfl⟩))
    · rw [run]
      exact .inr (.inr (.inr ⟨⟨author, role, requires, .inl missing⟩, e, status, rfl⟩))

end

/-- A request on a post gets past the gate: it has passed all gates, and is answered as what lies
beyond them ends. -/
def GetsPast (env : Env) (q : Request) (segment : String) (s : State) (user : User) (post : Post) :
    Prop :=
  ∃ entered,
    (passage env q segment).run env (some (lastMoment env s)) s = (.done (user, post), entered) ∧
    planRun env q s =
      (beyond env q segment (user, post)).run env (some (lastMoment env s)) entered

section

variable {env : Env} {q : Request} {segment : String} {s loaded : State} {user : User} {post : Post}

/-- After the approach, a request on a post goes on as the gate decides. -/
theorem passage_cases
    (approached : (approach env q segment).run env (some (lastMoment env s)) s =
      (.done (user, post), loaded)) :
    let run := (passage env q segment).run env (some (lastMoment env s)) s
    run.1 = .cutOff ∨
    (Entitled env q.method user post loaded ∧ run.1 = .done (user, post)) ∨
    (Outranked env q.method user post loaded ∧ run.1 = .halted (.failed .forbidden)) ∨
    (Unresolved env q.method user post loaded ∧
      ∃ e, (Failure.ofStore e).status = 500 ∧ run.1 = .halted (.failed (.ofStore e))) := by
  dsimp only
  rw [passage, Plan.run_then, approached]
  dsimp only
  rw [Plan.run_then]
  have gate := authorize_cases env (some (lastMoment env s)) q.method user post loaded
  cases decided : (authorize env q.method user post).run env (some (lastMoment env s)) loaded with
  | mk ending entered =>
    rw [decided] at gate
    rcases gate with ended | ⟨right, ended⟩ | ⟨low, ended⟩ | ⟨missing, e, status, ended⟩
    · cases ended
      exact .inl rfl
    · cases ended
      exact .inr (.inl ⟨right, rfl⟩)
    · cases ended
      exact .inr (.inr (.inl ⟨low, rfl⟩))
    · cases ended
      exact .inr (.inr (.inr ⟨missing, e, status, rfl⟩))

/-- A request that has come past the gate has come there with the right to. -/
theorem entitled_of_passage {entered : State}
    (passed : (passage env q segment).run env (some (lastMoment env s)) s =
      (.done (user, post), entered)) :
    ∃ loaded, (approach env q segment).run env (some (lastMoment env s)) s =
      (.done (user, post), loaded) ∧ Entitled env q.method user post loaded := by
  obtain ⟨⟨u, p⟩, loaded, approached, rest⟩ := Plan.run_then_done passed
  obtain ⟨_, _, _, rest⟩ := Plan.run_then_done rest
  cases rest
  refine ⟨loaded, approached, ?_⟩
  have gate := passage_cases approached
  dsimp only at gate
  rw [passed] at gate
  rcases gate with ended | ⟨right, _⟩ | ⟨_, ended⟩ | ⟨_, _, _, ended⟩
  · cases ended
  · exact right
  · cases ended
  · cases ended

/-- How a request on a post whose approach has succeeded is answered, unless it is cut off. -/
theorem verdict_cases (found : resource? env.config q = some (.post segment))
    (ready : started env q)
    (approached : (approach env q segment).run env (some (lastMoment env s)) s =
      (.done (user, post), loaded))
    (inTime : (respond env q s).1.status ≠ 408) :
    (Entitled env q.method user post loaded ∧ GetsPast env q segment s user post ∧
      (respond env q s).1.status ≠ 403 ∧ (respond env q s).1.status ≠ 500) ∨
    (Outranked env q.method user post loaded ∧ ¬ GetsPast env q segment s user post ∧
      (respond env q s).1.status = 403) ∨
    (Unresolved env q.method user post loaded ∧ ¬ GetsPast env q segment s user post ∧
      (respond env q s).1.status = 500) := by
  rw [(respond_of_started ready).1] at inTime ⊢
  have gate := passage_cases approached
  have whole := planRun_of_post s found
  unfold GetsPast
  cases passed : (passage env q segment).run env (some (lastMoment env s)) s with
  | mk ending entered =>
    rw [passed] at gate whole
    rw [whole] at inTime ⊢
    dsimp only at gate
    rcases gate with ended | ⟨right, ended⟩ | ⟨low, ended⟩ | ⟨missing, e, status, ended⟩
    · cases ended
      exact absurd rfl inTime
    · cases ended
      have listed := (beyond_served q user (passage_done passed) (lastMoment env s)).status
      refine .inl ⟨right, ⟨entered, rfl, rfl⟩, fun forbidden => ?_, fun broken => ?_⟩
      · rw [forbidden] at listed
        exact absurd listed (by decide)
      · rw [broken] at listed
        exact absurd listed (by decide)
    · cases ended
      refine .inr (.inl ⟨low, fun other => ?_, rfl⟩)
      obtain ⟨_, other, _⟩ := other
      cases other
    · cases ended
      refine .inr (.inr ⟨missing, fun other => ?_, (Failure.response_status _).trans status⟩)
      obtain ⟨_, other, _⟩ := other
      cases other

/-- Only a request of a caller with the right to a post succeeds or changes anything, and of the
posts it changes no other. -/
theorem entitled_of_effect (found : resource? env.config q = some (.post segment))
    (effect : isSuccess (respond env q s).1.status = true ∨ (respond env q s).2.store ≠ s.store) :
    ∃ user post loaded, (approach env q segment).run env (some (lastMoment env s)) s =
        (.done (user, post), loaded) ∧
      Loaded env segment s post loaded ∧ Entitled env q.method user post loaded ∧
      ∀ id, id ≠ post.id → (respond env q s).2.store.tables.posts.get? id =
        s.store.tables.posts.get? id := by
  by_cases ready : started env q
  · obtain ⟨status, store⟩ := respond_of_started (s := s) ready
    rw [status, store] at effect
    rw [store]
    rw [planRun_of_post s found] at effect ⊢
    cases passed : (passage env q segment).run env (some (lastMoment env s)) s with
    | mk ending entered =>
      have kept := passage_keeps.of_run passed
      rw [passed] at effect
      cases ending with
      | done context =>
        obtain ⟨user, post⟩ := context
        obtain ⟨loaded, approached, right⟩ := entitled_of_passage passed
        refine ⟨user, post, loaded, approached, approach_done approached, right, ?_⟩
        rw [← kept]
        exact (beyond_served q user (passage_done passed) (lastMoment env s)).others
      | halted why =>
        rcases effect with success | changed
        · exact absurd (success.symm.trans why.not_success) (nomatch ·)
        · exact absurd kept changed
      | cutOff =>
        rcases effect with success | changed
        · exact absurd success (nomatch ·)
        · exact absurd kept changed
  · obtain ⟨refused, same⟩ := respond_of_refused (s := s) ready
    rcases effect with success | changed
    · rcases refused with late | large
      · rw [late] at success
        cases success
      · rw [large] at success
        cases success
    · exact absurd (congrArg State.store same) changed

end

/-- Authorization on posts. A request whose approach has succeeded, and which is not cut off, gets
past the gate exactly if its caller has the right to use the post, is forbidden exactly if the
caller is outranked, and breaks down exactly if a level cannot be found; an author is let in
whatever becomes of the roles. The post is the one that the path names, as it is stored. Nothing is
shown or changed but what its caller has the right to. -/
theorem post_authorization (env : Env) (q : Request) (segment : String) (s : State)
    (found : resource? env.config q = some (.post segment)) :
    (∀ user post loaded, started env q →
      (approach env q segment).run env (some (lastMoment env s)) s = (.done (user, post), loaded) →
      (respond env q s).1.status ≠ 408 →
      (GetsPast env q segment s user post ↔ Entitled env q.method user post loaded) ∧
      ((respond env q s).1.status = 403 ↔ Outranked env q.method user post loaded) ∧
      ((respond env q s).1.status = 500 ↔ Unresolved env q.method user post loaded) ∧
      (user.id = post.userId → GetsPast env q segment s user post) ∧
      Loaded env segment s post loaded) ∧
    (isSuccess (respond env q s).1.status = true ∨ (respond env q s).2.store ≠ s.store →
      ∃ user post loaded, (approach env q segment).run env (some (lastMoment env s)) s =
          (.done (user, post), loaded) ∧
        Loaded env segment s post loaded ∧ Entitled env q.method user post loaded ∧
        ∀ id, id ≠ post.id → (respond env q s).2.store.tables.posts.get? id =
          s.store.tables.posts.get? id) := by
  refine ⟨fun user post loaded ready approached inTime => ?_, entitled_of_effect found⟩
  have held := approach_done approached
  rcases verdict_cases found ready approached inTime with
    ⟨right, past, allowed, whole⟩ | ⟨low, stopped, forbidden⟩ | ⟨missing, stopped, broken⟩
  · exact ⟨iff_of_true past right, iff_of_false allowed right.not_outranked,
      iff_of_false whole right.not_unresolved, fun _ => past, held⟩
  · refine ⟨iff_of_false stopped fun right => right.not_outranked low, iff_of_true forbidden low,
      iff_of_false ?_ low.not_unresolved, fun author => absurd author low.1, held⟩
    rw [forbidden]
    exact (nomatch ·)
  · refine ⟨iff_of_false stopped fun right => right.not_unresolved missing,
      iff_of_false ?_ fun low => low.not_unresolved missing, iff_of_true broken missing,
      fun author => absurd author missing.1, held⟩
    rw [broken]
    exact (nomatch ·)

/-- A member may not read what another has written where that takes a moderator. -/
theorem reading_forbidden :
    (respond (Sample.env 0) (Sample.request .get) (Sample.state 2)).1.status = 403 := by
  have rule := post_authorization (Sample.env 0) (Sample.request .get) "1" (Sample.state 2)
    (Sample.resource 0 .get)
  have inTime : (respond (Sample.env 0) (Sample.request .get) (Sample.state 2)).1.status ≠ 408 := by
    rw [(respond_of_started (Sample.ready 0 .get)).1, planRun,
      plan_of_post (Sample.resource 0 .get), passage, Sample.approach_eq]
    decide +kernel
  have approached : ((approach (Sample.env 0) (Sample.request .get) "1").run (Sample.env 0)
      (some (lastMoment (Sample.env 0) (Sample.state 2))) (Sample.state 2)).1 =
        .done (Sample.ada, Sample.post 2) := by
    rw [Sample.approach_eq]
    decide +kernel
  have low : Outranked (Sample.env 0) .get Sample.ada (Sample.post 2)
      ((approach (Sample.env 0) (Sample.request .get) "1").run (Sample.env 0)
        (some (lastMoment (Sample.env 0) (Sample.state 2))) (Sample.state 2)).2 := by
    rw [Sample.approach_eq]
    exact ⟨by decide, _, 2, 1, .get, by decide +kernel, by decide +kernel, by decide⟩
  generalize (approach (Sample.env 0) (Sample.request .get) "1").run (Sample.env 0)
    (some (lastMoment (Sample.env 0) (Sample.state 2))) (Sample.state 2) = run
    at rule approached low
  obtain ⟨ending, loaded⟩ := run
  cases approached
  exact (rule.1 _ _ _ (Sample.ready 0 .get) rfl inTime).2.1.2 low

end Agora.Service
