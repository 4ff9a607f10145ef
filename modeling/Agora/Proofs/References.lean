import Agora.Proofs.AccountSteps
import Agora.Proofs.LiveAccounts
import Agora.Proofs.PostDeletion
import Agora.Proofs.RequestSteps

/-!
References between the tables. A comment names a post, a pair of users who follow one another names
two accounts, and an invitation names one that is still to be activated. The store looks after most
of this by itself: what it leaves to its callers is that whoever follows is another user, and
stored, and that the comments on a post go before the post.
-/

set_option autoImplicit false

namespace Agora

open Time (Span Stamp)

namespace Table.Ledger

variable {α : Type} [Numbered α] {l : Ledger α} {id other : Int}

theorem contains_iff : l.contains id = true ↔ ∃ row, l.get? id = some row :=
  Option.isSome_iff_exists

theorem lt_next_of_contains (stands : l.contains id = true) : id < l.next :=
  lt_next_of_get? (contains_iff.1 stands).choose_spec

theorem contains_of_get? {k : Ledger α} (same : k.get? id = l.get? id)
    (stands : l.contains id = true) : k.contains id = true := by
  rwa [contains, same]

theorem get?_add_of_lt (make : Int → α) (numbered : ∀ id, number (make id) = id)
    (given : id < l.next) : (l.add make numbered).get? id = l.get? id := by
  rw [get?_add, if_neg (Int.ne_of_lt given)]

theorem contains_add (make : Int → α) (numbered : ∀ id, number (make id) = id)
    (stands : l.contains id = true) : (l.add make numbered).contains id = true :=
  contains_of_get? (get?_add_of_lt make numbered (lt_next_of_contains stands)) stands

theorem contains_modify (change : α → α) (keeps : ∀ row, number (change row) = number row)
    (stands : l.contains id = true) : (l.modify other change keeps).contains id = true := by
  obtain ⟨row, found⟩ := contains_iff.1 stands
  rw [contains, get?_modify]
  split
  · rename_i same
    rw [← same, found]
    rfl
  · exact stands

theorem contains_remove (apart : id ≠ other) (stands : l.contains id = true) :
    (l.remove other).contains id = true :=
  contains_of_get? ((get?_remove l other id).trans (if_neg apart)) stands

end Table.Ledger

namespace Store

open Table (Ledger)

/-- The account that an invitation names is there, and still to be activated. -/
def Awaits (t : Tables) (i : Invitation) : Prop :=
  ∃ a, t.accounts.get? i.userId = some a ∧ a.user.isActive = false

/-- Whatever a row of one table names is there in the other, and nobody follows himself. -/
structure Tables.Intact (t : Tables) : Prop where
  comments : ∀ r ∈ t.comments.rows, t.posts.contains r.postId = true
  follows : ∀ pair ∈ t.follows, pair.1 ≠ pair.2 ∧ t.accounts.contains pair.1 = true ∧
    t.accounts.contains pair.2 = true
  invitations (digest : String) (i : Invitation) :
    t.invitations.get? digest = some i → Awaits t i
  /-- No account has two invitations. -/
  single (digest other : String) (i j : Invitation) : t.invitations.get? digest = some i →
    t.invitations.get? other = some j → i.userId = j.userId → digest = other

theorem intact_new : Tables.Intact {} where
  comments := nofun
  follows := nofun
  invitations _ _ found := by cases found
  single _ _ _ _ found := by cases found

namespace Tables

variable {t after : Tables} {now : Stamp}

theorem get?_withdraw {id : Int} {digest : String} {i : Invitation} :
    (t.withdraw id).get? digest = some i ↔
      t.invitations.get? digest = some i ∧ i.userId ≠ id := by
  rw [withdraw, Table.Directory.get?_filter, Option.filter_eq_some_iff, decide_eq_true_iff]

namespace Intact

theorem add (intact : t.Intact) (make : Int → Account)
    (numbered : ∀ id, Table.number (make id) = id) :
    Intact { t with accounts := t.accounts.add make numbered } where
  comments := intact.comments
  follows pair listed := by
    obtain ⟨apart, first, second⟩ := intact.follows pair listed
    exact ⟨apart, Ledger.contains_add make numbered first, Ledger.contains_add make numbered second⟩
  invitations digest i found := by
    obtain ⟨a, stored, inactive⟩ := intact.invitations digest i found
    have given := Ledger.lt_next_of_get? stored
    exact ⟨a, (Ledger.get?_add_of_lt make numbered given).trans stored, inactive⟩
  single := intact.single

theorem seedUser (intact : t.Intact) {new : NewUser} {active : Bool} {u : User}
    (success : t.seedUser now new active = .ok (u, after)) : after.Intact := by
  unfold Tables.seedUser at success
  split at success
  · cases success
    exact intact.add _ _
  · cases success

theorem invite (intact : t.Intact) {digest : String} {i : Invitation} (awaits : Awaits t i)
    (first : ∀ other j, t.invitations.get? other = some j → j.userId ≠ i.userId) :
    Intact { t with invitations := t.invitations.set digest i } where
  comments := intact.comments
  follows := intact.follows
  invitations other j found := by
    rw [Table.Directory.get?_set] at found
    split at found
    · cases found
      exact awaits
    · exact intact.invitations other j found
  single one two j k found found' same := by
    rw [Table.Directory.get?_set] at found found'
    split at found
    · cases found
      split at found'
      · rename_i here there
        rw [here, there]
      · exact absurd same.symm (first two k found')
    · split at found'
      · cases found'
        exact absurd same (first one j found)
      · exact intact.single one two j k found found' same

theorem createAndInvite (intact : t.Intact) {new : NewUser} {digest : String} {expires : Stamp}
    {u : User} (success : t.createAndInvite now new digest expires = .ok (u, after)) :
    after.Intact := by
  unfold Tables.createAndInvite at success
  split at success
  · cases success
  · split at success
    · cases success
    · split at success
      · rename_i seeded
        cases success
        have kept := intact.seedUser seeded
        unfold Tables.seedUser at seeded
        split at seeded
        · cases seeded
          refine kept.invite ⟨_, (Ledger.get?_add _ _ _ _).trans (if_pos rfl), rfl⟩ ?_
          -- An older invitation is for an account that had a number before.
          intro other j found same
          obtain ⟨a, stored, _⟩ := intact.invitations other j found
          exact Int.ne_of_lt (Ledger.lt_next_of_get? stored) same
        · cases seeded
      · cases success

/-- An account that is activated, or taken out, loses its invitation; no other account changes. -/
theorem withdraw (intact : t.Intact) {id : Int} {accounts : Ledger Account}
    {follows : List (Int × Int)}
    (others : ∀ other, other ≠ id → accounts.get? other = t.accounts.get? other)
    (pairs : ∀ pair ∈ follows, pair.1 ≠ pair.2 ∧ accounts.contains pair.1 = true ∧
      accounts.contains pair.2 = true) :
    Intact { t with accounts, invitations := t.withdraw id, follows } where
  comments := intact.comments
  follows := pairs
  invitations digest i found := by
    obtain ⟨found, apart⟩ := get?_withdraw.1 found
    obtain ⟨a, stored, inactive⟩ := intact.invitations digest i found
    exact ⟨a, (others i.userId apart).trans stored, inactive⟩
  single one two i j found found' :=
    intact.single one two i j (get?_withdraw.1 found).1 (get?_withdraw.1 found').1

theorem activate (intact : t.Intact) {digest : String} {id : Int}
    (success : t.activate now digest = .ok (id, after)) : after.Intact := by
  unfold Tables.activate at success
  split at success
  · split at success
    · cases success
      refine intact.withdraw (fun other apart => ?_) fun pair listed => ?_
      · exact (Ledger.get?_modify _ _ other activated number_activated).trans (if_neg apart)
      · obtain ⟨apart, first, second⟩ := intact.follows pair listed
        exact ⟨apart, Ledger.contains_modify _ _ first, Ledger.contains_modify _ _ second⟩
    · cases success
  · cases success

theorem deleteUser (intact : t.Intact) {id : Int}
    (success : t.deleteUser id = .ok ((), after)) : after.Intact := by
  unfold Tables.deleteUser at success
  split at success
  · cases success
    refine intact.withdraw (fun other apart => ?_) fun pair listed => ?_
    · rw [Ledger.get?_remove, if_neg apart]
    · obtain ⟨listed, others⟩ := List.mem_filter.1 listed
      simp only [Bool.and_eq_true, decide_eq_true_eq] at others
      obtain ⟨apart, first, second⟩ := intact.follows pair listed
      exact ⟨apart, Ledger.contains_remove others.1 first, Ledger.contains_remove others.2 second⟩
  · cases success

theorem withPosts (intact : t.Intact) {posts : Ledger Post}
    (stay : ∀ id, t.posts.contains id = true → posts.contains id = true) :
    Intact { t with posts } :=
  { intact with comments := fun r inside => stay _ (intact.comments r inside) }

theorem withComments (intact : t.Intact) {comments : Ledger Remark}
    (known : ∀ r ∈ comments.rows, r ∈ t.comments.rows ∨ t.posts.contains r.postId = true) :
    Intact { t with comments } :=
  { intact with comments := fun r inside => (known r inside).elim (intact.comments r) id }

theorem createComment (intact : t.Intact) {postId userId : Int} {text : String} {c : Comment}
    (success : t.createComment now postId userId text = .ok (c, after)) : after.Intact := by
  unfold Tables.createComment at success
  split at success
  · rename_i stands
    cases success
    refine intact.withComments fun r inside => ?_
    rcases List.mem_append.1 inside with old | new
    · exact .inl old
    · rw [List.mem_singleton.1 new]
      exact .inr stands
  · cases success

theorem deleteCommentsOn (intact : t.Intact) (postId : Int) :
    Intact { t with comments := t.comments.filter (·.postId ≠ postId) } :=
  intact.withComments fun _ inside => .inl (List.mem_filter.1 inside).1

theorem unfollow (intact : t.Intact) (follower followee : Int) :
    Intact { t with follows := t.follows.filter (· ≠ (follower, followee)) } :=
  { intact with follows := fun pair listed => intact.follows pair (List.mem_filter.1 listed).1 }

/-- Whoever follows must be another user, and stored; that the other is stored is seen to. -/
theorem follow (intact : t.Intact) {follower followee : Int} (apart : follower ≠ followee)
    (stored : t.accounts.contains follower = true)
    (success : t.follow follower followee = .ok ((), after)) : after.Intact := by
  unfold Tables.follow at success
  split at success
  · rename_i stands
    cases success
    refine { intact with follows := fun pair listed => ?_ }
    rcases List.mem_insert_iff.1 listed with rfl | old
    · exact ⟨apart, stored, stands⟩
    · exact intact.follows pair old
  · cases success

/-- Every operation that is not reserved keeps the references, whatever it is given. -/
theorem apply (intact : t.Intact) {c : Call} {a : c.Answer} (other : c.reserved = false)
    (success : t.apply now c = .ok (a, after)) : after.Intact := by
  cases c with
  | seedUser new active => exact intact.seedUser success
  | createAndInvite new digest expires => exact intact.createAndInvite success
  | activate digest => exact intact.activate success
  | deleteUser id => exact intact.deleteUser success
  | createComment postId userId text => exact intact.createComment success
  | createPost userId title content tags =>
    cases success
    exact intact.withPosts fun id stands => Ledger.contains_add _ _ stands
  | updatePost update =>
    simp only [Tables.apply, updatePost] at success
    split at success
    · split at success
      · cases success
        exact intact.withPosts fun id stands => Ledger.contains_modify _ _ stands
      · cases success
    · cases success
  | putRole name level =>
    cases success
    exact { intact with }
  | deleteCommentsOn postId =>
    cases success
    exact intact.deleteCommentsOn postId
  | unfollow follower followee =>
    cases success
    exact intact.unfollow follower followee
  | follow follower followee => cases other
  | deletePost id => cases other
  | levelOf name => rwa [apply_of_reads rfl success]
  | user id => rwa [apply_of_reads rfl success]
  | credentials email => rwa [apply_of_reads rfl success]
  | post id => rwa [apply_of_reads rfl success]
  | feed viewer query => rwa [apply_of_reads rfl success]
  | commentsOn postId => rwa [apply_of_reads rfl success]

end Intact

end Tables

section

variable {s : Store} (now : Stamp)

theorem perform_intact {c : Call} (other : c.reserved = false) (intact : s.tables.Intact) :
    (s.perform now c).2.tables.Intact := by
  rcases perform_cases s now c with ⟨a, t, _, success, done⟩ | ⟨e, failed⟩
  · rw [done]
    exact intact.apply other success
  · rw [failed]
    exact intact

theorem perform_follow_intact {follower followee : Int} (apart : follower ≠ followee)
    (stored : s.tables.accounts.contains follower = true) (intact : s.tables.Intact) :
    (s.perform now (.follow follower followee)).2.tables.Intact := by
  rcases perform_cases s now (.follow follower followee) with ⟨a, t, _, success, done⟩ | ⟨e, failed⟩
  · rw [done]
    exact intact.follow apart stored success
  · rw [failed]
    exact intact

end

end Store

namespace Service

open Http (Request Response)
open Store (User)
open Table (Ledger)

theorem mem_commentRows {s : Store} {r : Store.Remark} :
    r ∈ commentRows s r.postId ↔ r ∈ s.tables.comments.rows := by
  simp [commentRows]

/-- A post that goes takes its comments with it. -/
theorem Deleted.intact {id : Int} {before after : Store} (deleted : Deleted id before after)
    (intact : before.tables.Intact) : after.tables.Intact := by
  have comments (r : Store.Remark) (inside : r ∈ after.tables.comments.rows) :
      after.tables.posts.contains r.postId = true := by
    have row := mem_commentRows.2 inside
    have apart : r.postId ≠ id := by
      intro same
      rw [same, deleted.comments] at row
      cases row
    rw [deleted.otherComments _ apart] at row
    exact Ledger.contains_of_get? (deleted.otherPosts _ apart)
      (intact.comments r (mem_commentRows.1 row))
  rw [deleted.rest]
  exact { intact with comments }

theorem deletion_intact {env : Env} {q : Request} {segment : String} {s : State}
    (deletes : q.method = .delete) (found : resource? env.config q = some (.post segment))
    (intact : s.store.tables.Intact) : (respond env q s).2.store.tables.Intact := by
  rcases deletion_cases (s := s) deletes found with
    ⟨_, ⟨id, _, deleted⟩, _⟩ | ⟨_, same, _⟩ | ⟨_, id, _, _, half, _⟩
  · exact deleted.intact intact
  · rwa [same]
  · rw [half]
    exact intact.deleteCommentsOn id

section

variable {env : Env} {cutoff : Option Span} {q : Request} {s : State}

theorem Step.perform_intact {step : Step} (common : step.common = true)
    (intact : s.store.tables.Intact) : (step.perform env cutoff s).2.store.tables.Intact := by
  cases step with
  | call c =>
    have other : c.reserved = false := by simpa [Step.common] using common
    rw [perform]
    rcases performCall_store env cutoff c s with same | made
    · rwa [same]
    · rw [made]
      exact Store.perform_intact env.now other intact
  | _ =>
    rw [perform_store env cutoff s rfl]
    exact intact

/-- Where what follows a call only looks, what becomes of the store is up to the call. -/
theorem Plan.call_store {α : Type} {c : Store.Call} {f : c.Answer → Plan α}
    (looks : ∀ a, Plan.Keeps env cutoff (f a)) :
    ((Plan.call c >>= f).run env cutoff s).2.store = (performCall env cutoff c s).2.store := by
  rw [run_call_then]
  rcases performCall env cutoff c s with ⟨_ | (e | a), after⟩
  · rfl
  · rfl
  · exact looks a after

theorem follow_intact {caller person : User}
    (stored : s.store.tables.accounts.contains caller.id = true)
    (intact : s.store.tables.Intact) :
    ((follow caller person).run env cutoff s).2.store.tables.Intact := by
  unfold follow
  by_cases apart : caller.id = person.id
  · have refused : demand (caller.id ≠ person.id) .selfFollow = .error .selfFollow := by
      simp [demand, apart]
    rw [refused]
    exact intact
  · have accepted : demand (caller.id ≠ person.id) .selfFollow = .ok () := by
      simp [demand, apart]
    have called : ((Plan.call (.follow caller.id person.id) >>= fun _ =>
        return Response.ofStatus 204).run env cutoff s).2.store =
          (performCall env cutoff (.follow caller.id person.id) s).2.store :=
      Plan.call_store fun _ => .done _
    rw [accepted, Plan.accept_then, called]
    rcases performCall_store env cutoff (.follow caller.id person.id) s with same | made
    · rwa [same]
    · rw [made]
      exact Store.perform_follow_intact env.now apart stored intact

/-- Whoever follows has passed the gate for members, and so is stored. -/
theorem following_intact {segment : String} (proper : env.now.Proper) (sound : Sound s)
    (intact : s.store.tables.Intact) :
    ((serve env q (.following segment)).run env cutoff s).2.store.tables.Intact := by
  rw [serve, enter, memberAndUser, bind_assoc]
  refine Plan.store_then (P := fun store => store.tables.Intact) member_keeps intact ?_
  intro caller passed passes
  obtain ⟨_, same, a, stored, rfl⟩ := member_done proper sound passes
  rw [bind_assoc]
  refine Plan.store_then (P := fun store => store.tables.Intact) (loadUser_keeps segment)
    (same ▸ intact) ?_
  intro person loaded loads
  have kept : loaded.store = s.store := ((loadUser_keeps segment).of_run loads).trans same
  rw [pure_bind]
  split
  · refine follow_intact ?_ (kept ▸ intact)
    rw [kept, Ledger.contains, stored]
    rfl
  · exact (kept ▸ intact : loaded.store.tables.Intact)

/-- Every resource keeps the references that neither has users followed nor posts deleted. -/
theorem serve_intact {r : Resource} (follows : ∀ segment, r ≠ .following segment)
    (deletes : ∀ segment, r = .post segment → q.method ≠ .delete)
    (intact : s.store.tables.Intact) :
    ((serve env q r).run env cutoff s).2.store.tables.Intact :=
  ((serve_takes r).run (P := fun s => s.store.tables.Intact) (fun _ _ taken intact =>
    Step.perform_intact (Resource.common_of_takes taken follows deletes) intact) intact).1

theorem respond_intact (proper : env.now.Proper) (sound : Sound s)
    (intact : s.store.tables.Intact) : (respond env q s).2.store.tables.Intact := by
  by_cases deletes : deletesPost env.config q
  · obtain ⟨method, segment, found⟩ := deletes
    exact deletion_intact method found intact
  · by_cases ready : started env q
    · rw [(respond_of_started ready).2, planRun]
      cases found : resource? env.config q with
      | none =>
        rw [plan_of_nothing found]
        exact Plan.store_then (P := fun store => store.tables.Intact) admission_keeps intact
          fun _ admitted admits => (admission_keeps.of_run admits).symm ▸ intact
      | some r =>
        rw [plan_of_resource found]
        refine Plan.store_then (P := fun store => store.tables.Intact) admission_keeps intact ?_
        intro _ admitted admits
        have kept : admitted.store.tables.Intact := (admission_keeps.of_run admits).symm ▸ intact
        by_cases follows : ∃ segment, r = .following segment
        · obtain ⟨segment, rfl⟩ := follows
          exact following_intact proper (admission_tidy.sound_of_run proper sound admits) kept
        · refine serve_intact (fun segment same => follows ⟨segment, same⟩) ?_ kept
          intro segment same method
          exact deletes ⟨method, segment, found.trans (congrArg some same)⟩
    · rw [(respond_of_refused ready).2]
      exact intact

end

/-- Whatever happens to a service keeps the references. -/
theorem Event.next_intact (setting : Setting) {s : State} (sound : Sound s)
    (intact : s.store.tables.Intact) (e : Event) : (e.next setting s).store.tables.Intact := by
  cases e with
  | request o q => exact respond_intact o.proper sound intact
  | seed o new active => exact Store.perform_intact o.now rfl intact
  | putRole o name level => exact Store.perform_intact o.now rfl intact
  | setAvailable up => exact intact
  | advance span =>
    rw [next, State.advance, State.rest_store]
    exact intact

/-- At every moment of a session, whatever a row of one table names is there in another. -/
theorem course_intact (setting : Setting) (history : List Event) :
    (setting.course history).store.tables.Intact := by
  have both : Sound (setting.course history) ∧ (setting.course history).store.tables.Intact :=
    Setting.after_induction (P := fun s => Sound s ∧ s.store.tables.Intact)
      (fun _ e kept => ⟨e.next_sound setting kept.1, e.next_intact setting kept.1 kept.2⟩) history
      ⟨sound_ofConfig setting.config, Store.intact_new⟩
  exact both.2

/-- At every moment of a session, whatever a row of one table names is there in another: comments
are on posts that there are, followers and those whom they follow are stored and not the same, and
every invitation is the only one of an account that is stored and still inactive. Every number that
a row has is below the next one of its table. -/
theorem references_intact (setting : Setting) (history : List Event) :
    let t := (setting.course history).store.tables
    t.Intact ∧
      (∀ a ∈ t.accounts.rows, a.user.id < t.accounts.next) ∧
      (∀ p ∈ t.posts.rows, p.id < t.posts.next) ∧
      ∀ r ∈ t.comments.rows, r.id < t.comments.next := by
  intro t
  exact ⟨course_intact setting history, t.accounts.below, t.posts.below, t.comments.below⟩

end Service

end Agora
