import Agora.Proofs.StoreFrame
import Agora.Proofs.WrittenMoments

/-!
What happens to accounts. An operation of the store leaves the accounts as they are, appends one,
activates one or takes one out; numbers are never given out again. So an account that is active
stays so for as long as it exists, and a number whose account is gone has none for good.
-/

set_option autoImplicit false

namespace Agora.Store

open Table (Ledger)
open Time (Stamp)

/-- The account that a registration or a seeding makes under a number. -/
def newAccount (now : Stamp) (new : NewUser) (active : Bool) (id : Int) : Account :=
  ⟨⟨id, new.username, new.email, now, active, new.role⟩, new.passwordHash⟩

theorem number_newAccount (now : Stamp) (new : NewUser) (active : Bool) (id : Int) :
    Table.number (newAccount now new active id) = id := rfl

theorem Tables.number_activated (a : Account) :
    Table.number (Tables.activated a) = Table.number a := rfl

/-- What one operation can do to the accounts, by its answer. -/
inductive AccountStep (now : Stamp) (s after : Store) : (c : Call) → Except Error c.Answer → Prop
    where
  | kept {c : Call} {answer : Except Error c.Answer}
      (accounts : after.tables.accounts = s.tables.accounts) : AccountStep now s after c answer
  | added {c : Call} {answer : Except Error c.Answer} (new : NewUser) (active : Bool)
      (accounts : after.tables.accounts = s.tables.accounts.add (newAccount now new active)
        (number_newAccount now new active)) :
      AccountStep now s after c answer
  | activated {digest : String} {id : Int}
      (accounts : after.tables.accounts = s.tables.accounts.modify id Tables.activated
        Tables.number_activated) :
      AccountStep now s after (.activate digest) (.ok id)
  | removed {id : Int} (accounts : after.tables.accounts = s.tables.accounts.remove id) :
      AccountStep now s after (.deleteUser id) (.ok ())

/-- The operation may change the accounts. -/
def Call.concernsAccounts : Call → Bool
  | .seedUser .. | .createAndInvite .. | .activate .. | .deleteUser .. => true
  | _ => false

namespace Tables

variable {now : Stamp} {t after : Tables}

theorem seedUser_accounts {new : NewUser} {active : Bool} {u : User}
    (success : t.seedUser now new active = .ok (u, after)) :
    after.accounts = t.accounts.add (newAccount now new active)
      (number_newAccount now new active) := by
  unfold seedUser at success
  split at success
  · cases success
    rfl
  · cases success

theorem createAndInvite_accounts {new : NewUser} {digest : String} {expires : Stamp} {u : User}
    (success : t.createAndInvite now new digest expires = .ok (u, after)) :
    after.accounts = t.accounts.add (newAccount now new false)
      (number_newAccount now new false) := by
  unfold createAndInvite at success
  split at success
  · cases success
  · split at success
    · cases success
    · split at success
      · rename_i seeded
        cases success
        have made := seedUser_accounts seeded
        exact made
      · cases success

theorem activate_accounts {digest : String} {id : Int}
    (success : t.activate now digest = .ok (id, after)) :
    after.accounts = t.accounts.modify id activated number_activated := by
  unfold activate at success
  split at success
  · split at success
    · cases success
      rfl
    · cases success
  · cases success

theorem deleteUser_accounts {id : Int} (success : t.deleteUser id = .ok ((), after)) :
    after.accounts = t.accounts.remove id := by
  unfold deleteUser at success
  split at success
  · cases success
    rfl
  · cases success

theorem apply_registry {c : Call} {a : c.Answer} (other : c.concernsAccounts = false)
    (success : t.apply now c = .ok (a, after)) :
    after.accounts = t.accounts ∧ after.invitations = t.invitations := by
  cases c with
  | updatePost update =>
    simp only [apply, updatePost] at success
    split at success
    · split at success
      · cases success
        exact ⟨rfl, rfl⟩
      · cases success
    · cases success
  | deletePost id =>
    simp only [apply, deletePost] at success
    split at success
    · cases success
      exact ⟨rfl, rfl⟩
    · cases success
  | createComment postId userId text =>
    simp only [apply, createComment] at success
    split at success
    · cases success
      exact ⟨rfl, rfl⟩
    · cases success
  | follow follower followee =>
    simp only [apply, follow] at success
    split at success
    · cases success
      exact ⟨rfl, rfl⟩
    · cases success
  | putRole name level =>
    cases success
    exact ⟨rfl, rfl⟩
  | createPost userId title content tags =>
    cases success
    exact ⟨rfl, rfl⟩
  | deleteCommentsOn postId =>
    cases success
    exact ⟨rfl, rfl⟩
  | unfollow follower followee =>
    cases success
    exact ⟨rfl, rfl⟩
  | levelOf name => exact apply_of_reads rfl success ▸ ⟨rfl, rfl⟩
  | user id => exact apply_of_reads rfl success ▸ ⟨rfl, rfl⟩
  | credentials email => exact apply_of_reads rfl success ▸ ⟨rfl, rfl⟩
  | post id => exact apply_of_reads rfl success ▸ ⟨rfl, rfl⟩
  | feed viewer query => exact apply_of_reads rfl success ▸ ⟨rfl, rfl⟩
  | commentsOn postId => exact apply_of_reads rfl success ▸ ⟨rfl, rfl⟩
  | seedUser new active => cases other
  | createAndInvite new digest expires => cases other
  | activate digest => cases other
  | deleteUser id => cases other

end Tables

theorem accountStep (now : Stamp) (s : Store) (c : Call) :
    AccountStep now s (s.perform now c).2 c (s.perform now c).1 := by
  rcases perform_cases s now c with ⟨a, t, up, success, done⟩ | ⟨e, failed⟩
  · rw [done]
    cases concerns : c.concernsAccounts with
    | false => exact .kept (Tables.apply_registry concerns success).1
    | true =>
      cases c with
      | seedUser new active => exact .added new active (Tables.seedUser_accounts success)
      | createAndInvite new digest expires =>
        exact .added new false (Tables.createAndInvite_accounts success)
      | activate digest => exact .activated (Tables.activate_accounts success)
      | deleteUser id => exact .removed (Tables.deleteUser_accounts success)
      | _ => cases concerns
  · rw [failed]
    exact .kept rfl

theorem perform_user {s : Store} (up : s.available = true) (now : Stamp) (id : Int) :
    s.perform now (.user id) =
      (((s.tables.accounts.get? id).map (·.user)).elim (.error .notFound) .ok, s) := by
  cases found : s.tables.accounts.get? id with
  | none =>
    apply perform_of_error up
    simp only [Tables.apply, Tables.user, Tables.answer, found, Option.map_none]
  | some a =>
    apply perform_of_ok up
    simp only [Tables.apply, Tables.user, Tables.answer, found, Option.map_some]

theorem get?_of_perform_user {s after : Store} {now : Stamp} {id : Int} {u : User}
    (found : s.perform now (.user id) = (.ok u, after)) :
    ∃ a, s.tables.accounts.get? id = some a ∧ a.user = u ∧ u.id = id := by
  rw [perform_user (available_of_ok found)] at found
  cases row : s.tables.accounts.get? id with
  | none =>
    rw [row] at found
    cases found
  | some a =>
    rw [row] at found
    cases found
    exact ⟨a, rfl, rfl, Ledger.number_of_get? row⟩

theorem get?_of_perform_credentials {s after : Store} {now : Stamp} {email : String} {a : Account}
    (found : s.perform now (.credentials email) = (.ok a, after)) :
    s.tables.accounts.get? a.user.id = some a := by
  rcases perform_cases s now (.credentials email) with ⟨b, t, _, success, done⟩ | ⟨e, failed⟩
  · rw [done] at found
    cases found
    have row := (Tables.of_answer_ok success).1
    exact Ledger.get?_of_mem (List.mem_of_find?_eq_some row)
  · rw [failed] at found
    cases found

/-- The number has been given out, and the account that it names, if there is one, is active. -/
structure Live (id : Int) (s : Store) : Prop where
  given : id < s.tables.accounts.next
  active : ∀ a, s.tables.accounts.get? id = some a → a.user.isActive = true

/-- The number has been given out, and names no account any more. -/
structure Vacant (id : Int) (s : Store) : Prop where
  given : id < s.tables.accounts.next
  missing : s.tables.accounts.get? id = none

/-- Every account was made at a moment of the calendar. -/
def Dated (s : Store) : Prop :=
  ∀ id a, s.tables.accounts.get? id = some a → a.user.createdAt.Proper

section

variable {now : Stamp} {s : Store} {id : Int}

/-- Numbers are given out in turn, and a number that has been given out is not used anew: its row
stays, becomes active, or goes. -/
theorem perform_account (now : Stamp) (c : Call) (given : id < s.tables.accounts.next) :
    let row := (s.perform now c).2.tables.accounts.get? id
    id < (s.perform now c).2.tables.accounts.next ∧
      (row = s.tables.accounts.get? id ∨
        row = (s.tables.accounts.get? id).map Tables.activated ∨ row = none) := by
  dsimp only
  have step := accountStep now s c
  generalize (s.perform now c).1 = answer at step
  cases step with
  | kept accounts =>
    rw [accounts]
    exact ⟨given, .inl rfl⟩
  | added new active accounts =>
    rw [accounts, Ledger.get?_add, if_neg (Int.ne_of_lt given)]
    exact ⟨Int.lt_trans given (Int.lt_succ _), .inl rfl⟩
  | @activated digest target accounts =>
    rw [accounts, Ledger.get?_modify]
    refine ⟨given, ?_⟩
    by_cases same : id = target
    · rw [if_pos same, same]
      exact .inr (.inl rfl)
    · rw [if_neg same]
      exact .inl rfl
  | @removed target accounts =>
    rw [accounts, Ledger.get?_remove]
    refine ⟨given, ?_⟩
    by_cases same : id = target
    · rw [if_pos same]
      exact .inr (.inr rfl)
    · rw [if_neg same]
      exact .inl rfl

theorem Live.perform (live : Live id s) (c : Call) : Live id (s.perform now c).2 := by
  obtain ⟨given, row⟩ := perform_account now c live.given
  refine ⟨given, fun a found => ?_⟩
  rcases row with same | activated | gone
  · exact live.active a (same ▸ found)
  · rw [activated] at found
    obtain ⟨before, _, rfl⟩ := Option.map_eq_some_iff.1 found
    rfl
  · rw [gone] at found
    cases found

theorem Vacant.perform (vacant : Vacant id s) (c : Call) : Vacant id (s.perform now c).2 := by
  obtain ⟨given, row⟩ := perform_account now c vacant.given
  refine ⟨given, ?_⟩
  rcases row with same | activated | gone
  · rw [same, vacant.missing]
  · rw [activated, vacant.missing]
    rfl
  · exact gone

/-- A number whose account has been taken out names none. -/
theorem vacant_of_perform_deleteUser {after : Store}
    (deleted : s.perform now (.deleteUser id) = (.ok (), after)) : Vacant id after := by
  rcases perform_cases s now (.deleteUser id) with ⟨_, t, _, success, done⟩ | ⟨e, failed⟩
  · rw [done] at deleted
    cases deleted
    simp only [Tables.apply, Tables.deleteUser] at success
    split at success
    · rename_i stands
      cases success
      obtain ⟨a, stored⟩ := Option.isSome_iff_exists.1 stands
      have given : id < s.tables.accounts.next := Ledger.lt_next_of_get? stored
      refine ⟨given, ?_⟩
      exact (Ledger.get?_remove _ id id).trans (if_pos rfl)
    · cases success
  · rw [failed] at deleted
    cases deleted

theorem Dated.perform (dated : Dated s) (proper : now.Proper) (c : Call) :
    Dated (s.perform now c).2 := by
  intro id a found
  have step := accountStep now s c
  generalize (s.perform now c).1 = answer at step
  cases step with
  | kept accounts =>
    rw [accounts] at found
    exact dated id a found
  | added new active accounts =>
    rw [accounts, Ledger.get?_add] at found
    split at found
    · cases found
      exact proper
    · exact dated id a found
  | @activated digest target accounts =>
    rw [accounts, Ledger.get?_modify] at found
    split at found
    · obtain ⟨before, stood, rfl⟩ := Option.map_eq_some_iff.1 found
      exact dated target before stood
    · exact dated id a found
  | @removed target accounts =>
    rw [accounts, Ledger.get?_remove] at found
    split at found
    · cases found
    · exact dated id a found

end

end Agora.Store
