import Agora.Proofs.FailureAnswers

/-!
Password hashes show nowhere but in logins. A service is laid beside another that differs in the
hashes of its accounts only: each is the same once the hashes are left out. No step of a request but
the search for an account by its email looks at a hash, so every request other than a login takes
both to states that are again the same but for hashes, with the same answer.
-/

set_option autoImplicit false

namespace Agora

open Time (Span Stamp)

namespace Table.Ledger

variable {α : Type} [Numbered α]

def each (l : Ledger α) (change : α → α) (keeps : ∀ row, number (change row) = number row) :
    Ledger α where
  next := l.next
  rows := l.rows.map change
  ordered := by
    refine List.pairwise_map.2 (l.ordered.imp ?_)
    intro a b less
    rwa [keeps, keeps]
  below := by
    intro row inside
    obtain ⟨old, found, rfl⟩ := List.mem_map.1 inside
    rw [keeps]
    exact l.below old found
  positive := by
    intro row inside
    obtain ⟨old, found, rfl⟩ := List.mem_map.1 inside
    rw [keeps]
    exact l.positive old found
  nextPositive := l.nextPositive

variable {l : Ledger α} {change : α → α} {keeps : ∀ row, number (change row) = number row}

theorem get?_each (id : Int) : (l.each change keeps).get? id = (l.get? id).map change := by
  simp only [get?, each, List.find?_map, Function.comp_def, keeps]

theorem contains_each (id : Int) : (l.each change keeps).contains id = l.contains id := by
  simp only [contains, get?_each, Option.isSome_map]

theorem each_remove (id : Int) :
    (l.each change keeps).remove id = (l.remove id).each change keeps := by
  apply Ledger.ext
  · rfl
  · simp only [remove, filter, each, List.filter_map, Function.comp_def, keeps]

end Table.Ledger

namespace Store

open Table (Ledger)

def Account.bare (a : Account) : Account := { a with passwordHash := "" }

theorem Account.number_bare (a : Account) : Table.number a.bare = Table.number a := rfl

def bareAccounts (l : Ledger Account) : Ledger Account := l.each Account.bare Account.number_bare

/-- The tables without the hashes of passwords. -/
def Tables.bare (t : Tables) : Tables := { t with accounts := bareAccounts t.accounts }

def bare (s : Store) : Store := { s with tables := s.tables.bare }

/-- Two stores differ in the hashes of passwords only. -/
structure SameButHashes (s s' : Store) : Prop where
  available : s'.available = s.available
  next : s'.tables.accounts.next = s.tables.accounts.next
  users : s'.tables.accounts.rows.map (·.user) = s.tables.accounts.rows.map (·.user)
  invitations : s'.tables.invitations = s.tables.invitations
  roles : s'.tables.roles = s.tables.roles
  posts : s'.tables.posts = s.tables.posts
  comments : s'.tables.comments = s.tables.comments
  follows : s'.tables.follows = s.tables.follows

theorem bareAccounts_idem (l : Ledger Account) : bareAccounts (bareAccounts l) = bareAccounts l := by
  apply Ledger.ext
  · rfl
  · simp only [bareAccounts, Ledger.each, List.map_map]
    rfl

/-- Two stores that differ in the hashes only are the same without them. -/
theorem sameButHashes_iff {s s' : Store} : SameButHashes s s' ↔ s'.bare = s.bare := by
  constructor
  · intro same
    have accounts : bareAccounts s'.tables.accounts = bareAccounts s.tables.accounts := by
      apply Ledger.ext
      · exact same.next
      · have users := congrArg (List.map fun user => Account.mk user "") same.users
        simp only [List.map_map] at users
        exact users
    simp only [bare, Tables.bare, accounts, same.available, same.invitations, same.roles,
      same.posts, same.comments, same.follows]
  · intro same
    have tables : s'.tables.bare = s.tables.bare := congrArg Store.tables same
    have users := congrArg (fun t : Tables => t.accounts.rows.map (·.user)) tables
    simp only [Tables.bare, bareAccounts, Ledger.each, List.map_map] at users
    exact {
      available := (congrArg Store.available same :)
      next := (congrArg (fun t : Tables => t.accounts.next) tables :)
      users := users
      invitations := (congrArg Tables.invitations tables :)
      roles := (congrArg Tables.roles tables :)
      posts := (congrArg Tables.posts tables :)
      comments := (congrArg Tables.comments tables :)
      follows := (congrArg Tables.follows tables :) }

namespace Tables

variable {t : Tables} {now : Stamp}

/-- What an operation comes to, the hashes left out. -/
def bareOutcome {α : Type} (outcome : Outcome α) : Outcome α :=
  outcome.map fun done => (done.1, done.2.bare)

/-- Two outcomes are the same without the hashes: both fail alike, or both give the same answer and
leave the same tables but for hashes. -/
theorem bareOutcome_eq {α : Type} {one other : Outcome α}
    (same : bareOutcome one = bareOutcome other) :
    (∃ e, one = .error e ∧ other = .error e) ∨
      ∃ a t t', one = .ok (a, t) ∧ other = .ok (a, t') ∧ t.bare = t'.bare := by
  cases one with
  | error e =>
    cases other with
    | error e' =>
      cases same
      exact .inl ⟨e, rfl, rfl⟩
    | ok done => cases same
  | ok done =>
    cases other with
    | error e => cases same
    | ok done' =>
      obtain ⟨answer, tables⟩ := Prod.mk.inj (Except.ok.inj same)
      exact .inr ⟨done.1, done.2, done'.2, rfl, by rw [answer], tables⟩

theorem bare_idem (t : Tables) : t.bare.bare = t.bare := by
  simp only [bare, bareAccounts_idem]

theorem user_bare (id : Int) :
    (t.bare.accounts.get? id).map (·.user) = (t.accounts.get? id).map (·.user) := by
  have row : t.bare.accounts.get? id = (t.accounts.get? id).map Account.bare :=
    @Ledger.get?_each _ _ t.accounts _ Account.number_bare id
  rw [row, Option.map_map]
  rfl

theorem contains_bare (id : Int) : t.bare.accounts.contains id = t.accounts.contains id :=
  @Ledger.contains_each _ _ t.accounts _ Account.number_bare id

theorem usernameOf_bare (id : Int) : t.bare.usernameOf id = t.usernameOf id := by
  have name := congrArg (Option.map User.username) (@user_bare t id)
  rw [Option.map_map, Option.map_map] at name
  exact congrArg (·.getD "") name

theorem view_bare : t.bare.view = t.view := by
  funext r
  rw [view, usernameOf_bare, view]

theorem any_bare (test : User → Bool) :
    (t.bare.accounts.rows.any fun a => test a.user) = t.accounts.rows.any fun a => test a.user :=
  List.any_map

theorem bareAccounts_add (l : Ledger Account) (make : Int → Account)
    (numbered : ∀ id, Table.number (make id) = id) :
    bareAccounts ((bareAccounts l).add make numbered) = bareAccounts (l.add make numbered) := by
  apply Ledger.ext
  · rfl
  · simp only [bareAccounts, Ledger.each, Ledger.add, List.map_append, List.map_map]
    rfl

theorem bareAccounts_activated (l : Ledger Account) (id : Int) :
    bareAccounts ((bareAccounts l).modify id activated) = bareAccounts (l.modify id activated) := by
  apply Ledger.ext
  · rfl
  · simp only [bareAccounts, Ledger.each, Ledger.modify, List.map_map]
    refine List.map_congr_left fun a _ => ?_
    rw [Function.comp_apply, Function.comp_apply, Function.comp_apply, Account.number_bare]
    by_cases here : Table.number a = id
    · rw [if_pos here, if_pos here]
      rfl
    · rw [if_neg here, if_neg here]
      rfl

theorem bareAccounts_remove (l : Ledger Account) (id : Int) :
    (bareAccounts l).remove id = bareAccounts (l.remove id) := Ledger.each_remove id

theorem answer_bare {α : Type} {found found' : Option α} (missing : Error)
    (same : found' = found) :
    bareOutcome (t.bare.answer found' missing) = bareOutcome (t.answer found missing) := by
  rw [same]
  cases found with
  | none => rfl
  | some a =>
    show Except.ok (a, t.bare.bare) = Except.ok (a, t.bare)
    rw [bare_idem]

theorem seedUser_bare (new : NewUser) (active : Bool) :
    bareOutcome (t.bare.seedUser now new active) = bareOutcome (t.seedUser now new active) := by
  have known : t.bare.roles = t.roles := rfl
  unfold seedUser
  rw [known]
  split
  · refine congrArg Except.ok (Prod.ext rfl ?_)
    exact congrArg (fun accounts => { t with accounts }) (bareAccounts_add _ _ _)
  · rfl

theorem createAndInvite_bare (new : NewUser) (digest : String) (expires : Stamp) :
    bareOutcome (t.bare.createAndInvite now new digest expires) =
      bareOutcome (t.createAndInvite now new digest expires) := by
  have email : t.bare.emailTaken new.email = t.emailTaken new.email :=
    any_bare fun user => user.email = new.email
  have username : t.bare.usernameTaken new.username = t.usernameTaken new.username :=
    any_bare fun user => user.username = new.username
  unfold createAndInvite
  rw [email, username]
  split
  · rfl
  · split
    · rfl
    · rcases bareOutcome_eq (@seedUser_bare t now new false) with
        ⟨e, one, other⟩ | ⟨user, u, u', one, other, same⟩
      · rw [one, other]
      · rw [one, other]
        refine congrArg Except.ok (Prod.ext rfl ?_)
        exact congrArg (fun bared : Tables => { bared with
          invitations := bared.invitations.set digest ⟨user.id, expires⟩ }) same

theorem activate_bare (digest : String) :
    bareOutcome (t.bare.activate now digest) = bareOutcome (t.activate now digest) := by
  have opens : t.bare.invitations = t.invitations := rfl
  unfold activate
  rw [opens]
  split
  · rename_i i _
    rw [contains_bare]
    split
    · refine congrArg Except.ok (Prod.ext rfl ?_)
      exact congrArg (fun accounts => { t with accounts, invitations := t.withdraw i.userId })
        (bareAccounts_activated t.accounts i.userId)
    · rfl
  · rfl

theorem deleteUser_bare (id : Int) :
    bareOutcome (t.bare.deleteUser id) = bareOutcome (t.deleteUser id) := by
  unfold deleteUser
  rw [contains_bare]
  split
  · refine congrArg Except.ok (Prod.ext rfl ?_)
    have accounts : bareAccounts ((bareAccounts t.accounts).remove id) =
        bareAccounts (t.accounts.remove id) := by
      rw [bareAccounts_remove, bareAccounts_idem]
    exact congrArg (fun accounts => { t with
      accounts
      invitations := t.withdraw id
      follows := t.follows.filter fun pair => pair.1 ≠ id && pair.2 ≠ id }) accounts
  · rfl

theorem write_bare {α : Type} (a : α) (write : Tables → Tables)
    (frame : ∀ accounts, write { t with accounts } = { write t with accounts }) :
    bareOutcome (.ok (a, write t.bare)) = bareOutcome (.ok (a, write t)) := by
  have own : (write t).accounts = t.accounts := (congrArg Tables.accounts (frame t.accounts) :)
  have bared : write t.bare = { write t with accounts := bareAccounts t.accounts } := frame _
  have written : (write t.bare).bare = (write t).bare := by
    rw [bared, bare, bareAccounts_idem, bare, own]
  exact congrArg Except.ok (Prod.ext rfl written)

theorem updatePost_bare (u : PostUpdate) :
    bareOutcome (t.bare.updatePost now u) = bareOutcome (t.updatePost now u) := by
  have posts : t.bare.posts = t.posts := rfl
  unfold updatePost
  rw [posts]
  split
  · split
    · exact write_bare _ (fun v => { v with posts := v.posts.modify u.id (changed now u) })
        fun _ => rfl
    · rfl
  · rfl

theorem deletePost_bare (id : Int) :
    bareOutcome (t.bare.deletePost id) = bareOutcome (t.deletePost id) := by
  have posts : t.bare.posts = t.posts := rfl
  unfold deletePost
  rw [posts]
  split
  · exact write_bare _ (fun v => { v with posts := v.posts.remove id }) fun _ => rfl
  · rfl

theorem createComment_bare (postId userId : Int) (text : String) :
    bareOutcome (t.bare.createComment now postId userId text) =
      bareOutcome (t.createComment now postId userId text) := by
  have posts : t.bare.posts = t.posts := rfl
  unfold createComment
  rw [posts, view_bare]
  split
  · exact write_bare _ (fun v => { v with
      comments := v.comments.add fun id => ⟨id, postId, userId, text, now⟩ }) fun _ => rfl
  · rfl

theorem follow_bare (follower followee : Int) :
    bareOutcome (t.bare.follow follower followee) = bareOutcome (t.follow follower followee) := by
  unfold follow
  rw [contains_bare]
  split
  · exact write_bare () (fun v => { v with follows := v.follows.insert (follower, followee) })
      fun _ => rfl
  · rfl

/-- An operation other than the search by an email does not look at hashes. -/
theorem apply_bare {c : Call} (blind : ∀ email, c ≠ .credentials email) :
    bareOutcome (t.bare.apply now c) = bareOutcome (t.apply now c) := by
  cases c with
  | credentials email => exact absurd rfl (blind email)
  | seedUser new active => exact seedUser_bare new active
  | createAndInvite new digest expires => exact createAndInvite_bare new digest expires
  | activate digest => exact activate_bare digest
  | deleteUser id => exact deleteUser_bare id
  | user id => exact answer_bare _ (user_bare id)
  | levelOf name => exact answer_bare _ rfl
  | post id => exact answer_bare _ rfl
  | putRole name level =>
    exact write_bare () (fun u => { u with roles := u.roles.set name level }) fun _ => rfl
  | createPost userId title content tags => exact write_bare _ (fun u => { u with
      posts := u.posts.add fun id => ⟨id, 0, userId, title, content, tags, now, now⟩ }) fun _ => rfl
  | updatePost update => exact updatePost_bare update
  | deletePost id => exact deletePost_bare id
  | feed viewer query =>
    have items : t.bare.feedItem = t.feedItem := by
      funext p
      rw [feedItem, usernameOf_bare, feedItem]
      rfl
    show bareOutcome (.ok (_, t.bare)) = bareOutcome (.ok (_, t))
    rw [items]
    exact write_bare _ id fun _ => rfl
  | createComment postId userId text => exact createComment_bare postId userId text
  | commentsOn postId =>
    show bareOutcome (.ok ((t.remarksOn postId).map t.bare.view, t.bare)) = _
    rw [view_bare]
    exact write_bare _ id fun _ => rfl
  | deleteCommentsOn postId =>
    exact write_bare () (fun u => { u with comments := u.comments.filter (·.postId ≠ postId) })
      fun _ => rfl
  | follow follower followee => exact follow_bare follower followee
  | unfollow follower followee =>
    exact write_bare () (fun u => { u with follows := u.follows.filter (· ≠ (follower, followee)) })
      fun _ => rfl

end Tables

/-- Stores that differ in hashes only answer alike, and still differ in hashes only. -/
theorem SameButHashes.perform {s s' : Store} (same : SameButHashes s s') (now : Stamp) {c : Call}
    (blind : ∀ email, c ≠ .credentials email) :
    (s'.perform now c).1 = (s.perform now c).1 ∧
      SameButHashes (s.perform now c).2 (s'.perform now c).2 := by
  have tables : s'.tables.bare = s.tables.bare := (congrArg Store.tables (sameButHashes_iff.1 same) :)
  have outcome : Tables.bareOutcome (s'.tables.apply now c) =
      Tables.bareOutcome (s.tables.apply now c) := by
    rw [← Tables.apply_bare blind, tables, Tables.apply_bare blind]
  by_cases up : s.available = true
  · have up' : s'.available = true := same.available.trans up
    rcases Tables.bareOutcome_eq outcome with
      ⟨e, failed', failed⟩ | ⟨a, t', t, made', made, bared⟩
    · rw [perform_of_error up failed, perform_of_error up' failed']
      exact ⟨rfl, same⟩
    · rw [perform_of_ok up made, perform_of_ok up' made']
      refine ⟨rfl, sameButHashes_iff.2 ?_⟩
      rw [bare, bare, bared, same.available]
  · have down : s.available = false := by simpa using up
    rw [perform_of_offline down, perform_of_offline (same.available.trans down)]
    exact ⟨rfl, same⟩

end Store

namespace Service

open Http (Request Response)
open Store (SameButHashes)

/-- Two services differ in the hashes of passwords only. -/
structure Twins (s s' : State) : Prop where
  store : SameButHashes s.store s'.store
  rest : s' = { s with store := s'.store }

/-- The step does not search an account by its email. -/
def Step.Blind (step : Step) : Prop := ∀ email, step ≠ .call (.credentials email)

section

variable {env : Env} {cutoff : Option Span} {q : Request} {s s' : State}

theorem State.catchUp_with (moment : Span) (s : State) (store : Store) :
    ({ s with store } : State).catchUp moment = { s.catchUp moment with store } := by
  unfold catchUp
  dsimp only
  cases s.limiter.takeTurns? moment <;> rfl

theorem State.wait_with (moment : Span) (s : State) (store : Store) :
    ({ s with store } : State).wait moment = { s.wait moment with store } := by
  unfold wait
  dsimp only
  split
  · rfl
  · have rested : ({ s with store } : State).rest = { s.rest with store } := s.catchUp_with _ store
    rw [rested]
    dsimp only
    cases s.rest.limiter.lastTurn? moment with
    | none => rfl
    | some turn =>
      dsimp only
      rw [catchUp_with]

theorem Twins.wait (twins : Twins s s') (moment : Span) : Twins (s.wait moment) (s'.wait moment) := by
  constructor
  · rw [State.wait_store, State.wait_store]
    exact twins.store
  · rw [State.wait_store, twins.rest, State.wait_with]

theorem Twins.performCall (twins : Twins s s') {c : Store.Call}
    (blind : (Step.call c).Blind) :
    (performCall env cutoff c s').1 = (performCall env cutoff c s).1 ∧
      Twins (performCall env cutoff c s).2 (performCall env cutoff c s').2 := by
  have clock : s'.clock = s.clock := (congrArg State.clock twins.rest :)
  rw [performCall_eq, performCall_eq, clock]
  cases fate env cutoff s.clock with
  | cutOff moment => exact ⟨rfl, twins.wait moment⟩
  | overdue moment => exact ⟨rfl, twins.wait moment⟩
  | made moment =>
    have waited := twins.wait moment
    obtain ⟨answer, after⟩ := waited.store.perform env.now (c := c)
      (fun email same => blind email (congrArg Step.call same))
    refine ⟨congrArg some answer, after, ?_⟩
    exact congrArg (fun t : State =>
      { t with store := ((s'.wait moment).store.perform env.now c).2 }) waited.rest

/-- A step that does not look at hashes goes the same way in both. -/
theorem Twins.perform (twins : Twins s s') {step : Step} (blind : step.Blind) :
    (step.perform env cutoff s').1 = (step.perform env cutoff s).1 ∧
      Twins (step.perform env cutoff s).2 (step.perform env cutoff s').2 := by
  cases step with
  | call c => exact twins.performCall blind
  | pause =>
    refine ⟨rfl, ?_, ?_⟩
    · show SameButHashes s.rest.store s'.rest.store
      rw [State.rest_store, State.rest_store]
      exact twins.store
    · show s'.rest = { s.rest with store := s'.rest.store }
      rw [State.rest_store, twins.rest]
      exact State.catchUp_with _ s s'.store
  | _ =>
    rw [twins.rest]
    exact ⟨rfl, twins.store, rfl⟩

theorem Twins.run {α : Type} {p : Plan α} (blind : p.All Step.Blind) (twins : Twins s s') :
    (p.run env cutoff s').1 = (p.run env cutoff s).1 ∧
      Twins (p.run env cutoff s).2 (p.run env cutoff s').2 := by
  induction p generalizing s s' with
  | done value => exact ⟨rfl, twins⟩
  | halt why => exact ⟨rfl, twins⟩
  | step first next ih =>
    obtain ⟨answer, after⟩ := @Twins.perform env cutoff _ _ twins _ blind.1
    rw [Plan.run, Plan.run]
    generalize first.perform env cutoff s = one at answer after ⊢
    generalize first.perform env cutoff s' = other at answer after ⊢
    obtain ⟨found, later⟩ := one
    obtain ⟨found', later'⟩ := other
    cases answer
    cases found with
    | none => exact ⟨rfl, after⟩
    | some found => exact ih found (blind.2 found) after

theorem Plan.Conforms.all {α : Type} {kind wider : Step → Prop} {gate : Access} {good : α → Prop}
    {p : Plan α} (conforms : p.Conforms kind gate good)
    (among : ∀ step, kind step → wider step) : p.All wider := by
  induction conforms with
  | done _ => exact trivial
  | halt _ => exact trivial
  | step allowed _ ih => exact ⟨among _ allowed, ih⟩

/-- Only a login searches an account by its email. -/
theorem Resource.blind_of_permits {r : Resource} (found : resource? env.config q = some r)
    (other : isLogin env.config q = false) {step : Step} (permits : r.Permits q.method step) :
    step.Blind := by
  rintro email rfl
  rcases permits with gates | acts
  · cases gates
  · cases r with
    | login =>
      have posts : q.method = .post := acts.1
      rw [isLogin, found] at other
      simp [Resource.logsIn, posts] at other
    | _ => cases acts.1

theorem plan_blind (other : isLogin env.config q = false) : (plan env q).All Step.Blind := by
  have admits : (admission env q).All Step.Blind := by
    unfold admission
    split
    · refine ⟨nofun, fun verdict => ?_⟩
      cases verdict with
      | allowed => exact trivial
      | limited wait => exact ⟨nofun, fun _ => trivial⟩
    · exact trivial
  cases found : resource? env.config q with
  | none =>
    rw [plan_of_nothing found]
    exact .bind admits fun _ => trivial
  | some r =>
    rw [plan_of_resource found]
    exact .bind admits fun _ =>
      (serve_conforms r).all fun _ permits => Resource.blind_of_permits found other permits

/-- Every request other than a login is answered alike. -/
theorem Twins.respond (twins : Twins s s') (other : isLogin env.config q = false) :
    (respond env q s').1 = (respond env q s).1 ∧
      Twins (respond env q s).2 (respond env q s').2 := by
  by_cases ready : started env q
  · have moment : lastMoment env s' = lastMoment env s := by
      rw [twins.rest]
      rfl
    obtain ⟨ending, after⟩ :=
      @Twins.run env (some (lastMoment env s)) _ _ _ _ (plan_blind other) twins
    rw [respond_eq, respond_eq, answer_of_run ready, answer_of_run ready, planRun, planRun, moment]
    generalize (plan env q).run env (some (lastMoment env s)) s = one at ending after ⊢
    generalize (plan env q).run env (some (lastMoment env s)) s' = another at ending after ⊢
    obtain ⟨ended, later⟩ := one
    obtain ⟨ended', later'⟩ := another
    cases ending
    refine ⟨rfl, ?_, ?_⟩
    · rw [Ending.counted_store, Ending.counted_store]
      exact after.store
    · rw [Ending.counted_store]
      have moved : later' = { later with store := later'.store } := after.rest
      show ended.counted q later' = { ended.counted q later with store := later'.store }
      rw [moved]
      cases ended <;> rfl
  · obtain ⟨response, refused⟩ := answer_of_unstarted ready
    rw [respond_eq, respond_eq, refused env s rfl, refused env s' rfl]
    exact ⟨rfl, twins⟩

end

/-- Answers tell nothing of what is inside. Whatever has gone wrong, an answer that refuses a caller
is one and the same wherever members are asked for and at logins, and the same with the one
challenge wherever operators are; the answer to a failure inside the service is one and the same
everywhere; and where the head alone is asked for, all but the body is as for the whole. Two stores
that differ in the hashes of passwords only are not told apart by any request other than a login,
neither by its answer nor by what it leaves behind. -/
theorem answers_reveal_nothing (env : Env) (q : Request) (s : State) :
    ((respond env q s).1.status = 401 → Refused env q (respond env q s).1) ∧
    ((respond env q s).1.status = 500 → Concealed env q (respond env q s).1) ∧
    (q.method = .head → ∀ response,
      finish env q response = (finish env { q with method := .get } response).withoutBody) ∧
    (isLogin env.config q = false → ∀ store, SameButHashes s.store store →
      (respond env q { s with store }).1 = (respond env q s).1 ∧
        SameButHashes (respond env q s).2.store (respond env q { s with store }).2.store ∧
        (respond env q { s with store }).2 =
          { (respond env q s).2 with store := (respond env q { s with store }).2.store }) := by
  refine ⟨refused_of_status, concealed_of_status, ?_, ?_⟩
  · intro head response
    exact finish_head response head
  · intro other store same
    have twins : Twins s { s with store } := ⟨same, rfl⟩
    obtain ⟨answer, after⟩ := twins.respond other
    exact ⟨answer, after.store, after.rest⟩

end Service

end Agora
