import Agora.Proofs.AccountSteps

set_option autoImplicit false

namespace Agora.Store

open Table (Directory Ledger)
open Time (Stamp)

def withAccounts (s : Store) (accounts : Ledger Account)
    (invitations : Directory String Invitation) : Store :=
  { s with tables := { s.tables with accounts, invitations } }

def Tables.enlisted (t : Tables) (now : Stamp) (new : NewUser) (active : Bool) : Ledger Account :=
  t.accounts.add (newAccount now new active) (number_newAccount now new active)

/-- The user that the next account has. -/
def Tables.newcomer (t : Tables) (now : Stamp) (new : NewUser) (active : Bool) : User :=
  (newAccount now new active t.accounts.next).user

namespace Tables

variable (t : Tables)

theorem emailTaken_iff {email : String} :
    t.emailTaken email = true ↔ ∃ a ∈ t.accounts.rows, a.user.email = email := by
  simp only [emailTaken, List.any_eq_true, decide_eq_true_eq]

theorem usernameTaken_iff {username : String} :
    t.usernameTaken username = true ↔ ∃ a ∈ t.accounts.rows, a.user.username = username := by
  simp only [usernameTaken, List.any_eq_true, decide_eq_true_eq]

/-- A registration can be made: neither its email nor its name has an account, and its role is
known. -/
structure Admits (new : NewUser) : Prop where
  email : t.emailTaken new.email = false
  username : t.usernameTaken new.username = false
  role : t.roles.contains new.role = true

variable {t}

theorem get?_enlisted (now : Stamp) (new : NewUser) (active : Bool) (id : Int) :
    (t.enlisted now new active).get? id =
      if id = t.accounts.next then some (newAccount now new active id) else t.accounts.get? id := by
  rw [enlisted, Ledger.get?_add]
  split
  · rename_i same
    rw [same]
  · rfl

theorem get?_withdraw_eq (id : Int) (digest : String) :
    (t.withdraw id).get? digest =
      (t.invitations.get? digest).filter fun i => i.userId ≠ id :=
  Directory.get?_filter _ _ _

end Tables

section

variable {s : Store} (up : s.available = true) (now : Stamp)

include up

/-- An account is seeded exactly if its role is known. -/
theorem perform_seedUser (new : NewUser) (active : Bool) :
    (s.tables.roles.contains new.role = true ∧ s.perform now (.seedUser new active) =
      (.ok (s.tables.newcomer now new active),
        s.withAccounts (s.tables.enlisted now new active) s.tables.invitations)) ∨
    (s.tables.roles.contains new.role = false ∧
      s.perform now (.seedUser new active) = (.error (.unknownRole new.role), s)) := by
  cases known : s.tables.roles.contains new.role with
  | true =>
    refine .inl ⟨rfl, perform_of_ok up ?_⟩
    simp only [Tables.apply, Tables.seedUser, known, ↓reduceIte]
    rfl
  | false =>
    refine .inr ⟨rfl, perform_of_error up ?_⟩
    simp only [Tables.apply, Tables.seedUser, known, Bool.false_eq_true, ↓reduceIte]

/-- A registration is made exactly if it can be. -/
theorem perform_createAndInvite (new : NewUser) (digest : String) (expires : Stamp) :
    (s.tables.Admits new ∧
      s.perform now (.createAndInvite new digest expires) =
        (.ok (s.tables.newcomer now new false),
          s.withAccounts (s.tables.enlisted now new false)
            (s.tables.invitations.set digest ⟨s.tables.accounts.next, expires⟩))) ∨
    (¬s.tables.Admits new ∧
      ∃ e, s.perform now (.createAndInvite new digest expires) = (.error e, s)) := by
  cases email : s.tables.emailTaken new.email with
  | true =>
    refine .inr ⟨fun admits => ?_, .duplicateEmail, perform_of_error up ?_⟩
    · rw [admits.email] at email
      cases email
    · simp only [Tables.apply, Tables.createAndInvite, email, ↓reduceIte]
  | false =>
    cases username : s.tables.usernameTaken new.username with
    | true =>
      refine .inr ⟨fun admits => ?_, .duplicateUsername, perform_of_error up ?_⟩
      · rw [admits.username] at username
        cases username
      · simp only [Tables.apply, Tables.createAndInvite, email, username, Bool.false_eq_true,
          ↓reduceIte]
    | false =>
      cases known : s.tables.roles.contains new.role with
      | true =>
        refine .inl ⟨⟨email, username, known⟩, perform_of_ok up ?_⟩
        simp only [Tables.apply, Tables.createAndInvite, Tables.seedUser, email, username, known,
          Bool.false_eq_true, ↓reduceIte]
        rfl
      | false =>
        refine .inr ⟨fun admits => ?_, .unknownRole new.role, perform_of_error up ?_⟩
        · rw [admits.role] at known
          cases known
        · simp only [Tables.apply, Tables.createAndInvite, Tables.seedUser, email, username, known,
            Bool.false_eq_true, ↓reduceIte]

theorem email_of_createAndInvite {new : NewUser} {digest : String} {expires : Stamp} {user : User}
    {after : Store}
    (made : s.perform now (.createAndInvite new digest expires) = (.ok user, after)) :
    user.email = new.email := by
  rcases perform_createAndInvite up now new digest expires with ⟨_, done⟩ | ⟨_, e, failed⟩
  · rw [done] at made
    obtain ⟨answer, _⟩ := Prod.mk.inj made
    rw [← Except.ok.inj answer]
    rfl
  · rw [failed] at made
    cases made

/-- An activation succeeds exactly if the digest has an invitation that has not expired and whose
account is there. -/
theorem perform_activate (digest : String) :
    (∃ i, s.tables.invitations.get? digest = some i ∧ now.before i.expires = true ∧
      s.tables.accounts.contains i.userId = true ∧
      s.perform now (.activate digest) = (.ok i.userId,
        s.withAccounts (s.tables.accounts.modify i.userId Tables.activated Tables.number_activated)
          (s.tables.withdraw i.userId))) ∨
    ((∀ i, s.tables.invitations.get? digest = some i →
        ¬(now.before i.expires = true ∧ s.tables.accounts.contains i.userId = true)) ∧
      s.perform now (.activate digest) = (.error .invalidToken, s)) := by
  cases found : s.tables.invitations.get? digest with
  | none =>
    refine .inr ⟨fun _ impossible => (nomatch impossible), perform_of_error up ?_⟩
    simp only [Tables.apply, Tables.activate, found]
  | some i =>
    cases valid : now.before i.expires && s.tables.accounts.contains i.userId with
    | true =>
      have both := (Bool.and_eq_true _ _).mp valid
      refine .inl ⟨i, rfl, both.1, both.2, perform_of_ok up ?_⟩
      simp only [Tables.apply, Tables.activate, found, valid, ↓reduceIte]
    | false =>
      refine .inr ⟨fun j same both => ?_, perform_of_error up ?_⟩
      · cases same
        rw [both.1, both.2] at valid
        cases valid
      · simp only [Tables.apply, Tables.activate, found, valid, Bool.false_eq_true, ↓reduceIte]

theorem perform_deleteUser (id : Int) :
    (s.tables.accounts.contains id = true ∧
      (s.perform now (.deleteUser id)).1 = .ok () ∧
      (s.perform now (.deleteUser id)).2.tables.accounts = s.tables.accounts.remove id ∧
      (s.perform now (.deleteUser id)).2.tables.invitations = s.tables.withdraw id) ∨
    (s.tables.accounts.contains id = false ∧
      s.perform now (.deleteUser id) = (.error .notFound, s)) := by
  cases stands : s.tables.accounts.contains id with
  | true =>
    have success : s.tables.apply now (.deleteUser id) = .ok ((), { s.tables with
        accounts := s.tables.accounts.remove id
        invitations := s.tables.withdraw id
        follows := s.tables.follows.filter fun pair => pair.1 ≠ id && pair.2 ≠ id }) := by
      simp only [Tables.apply, Tables.deleteUser, stands, ↓reduceIte]
    rw [perform_of_ok up success]
    exact .inl ⟨rfl, rfl, rfl, rfl⟩
  | false =>
    refine .inr ⟨rfl, perform_of_error up ?_⟩
    simp only [Tables.apply, Tables.deleteUser, stands, Bool.false_eq_true, ↓reduceIte]

theorem perform_credentials (email : String) :
    s.perform now (.credentials email) =
      ((s.tables.accounts.rows.find? fun a => a.user.email = email).elim (.error .notFound) .ok,
        s) := by
  cases found : s.tables.accounts.rows.find? fun a => a.user.email = email with
  | none =>
    apply perform_of_error up
    simp only [Tables.apply, Tables.credentials, Tables.answer, found]
  | some a =>
    apply perform_of_ok up
    simp only [Tables.apply, Tables.credentials, Tables.answer, found]

end

end Agora.Store
