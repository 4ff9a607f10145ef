import Agora.Proofs.AccountOperations
import Agora.Proofs.PostOperations
import Agora.Proofs.StoreHistory

set_option autoImplicit false

namespace Agora.Store

open Table (Ledger)
open Time (Stamp)

/-- What befalls a store: an operation is made, or the store goes down or comes back. -/
inductive Turn where
  | made (e : Event)
  | switched (up : Bool)

def Turn.next (s : Store) : Turn → Store
  | made e => e.next s
  | switched up => { s with available := up }

/-- A store after what befalls it. -/
def course (s : Store) (turns : List Turn) : Store := turns.foldl Turn.next s

def Call.seed? : Call → Option NewUser
  | .seedUser new _ => some new
  | _ => none

/-- If the operation seeds an account, then with an email and a name that no account has. -/
def Event.Apart (s : Store) (e : Event) : Prop :=
  ∀ new ∈ e.call.seed?, s.tables.emailTaken new.email = false ∧
    s.tables.usernameTaken new.username = false

instance (s : Store) (e : Event) : Decidable (e.Apart s) :=
  inferInstanceAs (Decidable (∀ new ∈ e.call.seed?, _))

/-- Accounts are seeded only with an email and a name that no account has at that moment. -/
def SeedsApart : Store → List Turn → Prop
  | _, [] => True
  | s, .made e :: rest => e.Apart s ∧ SeedsApart (e.next s) rest
  | s, .switched up :: rest => SeedsApart { s with available := up } rest

instance decidableSeedsApart : (s : Store) → (turns : List Turn) → Decidable (SeedsApart s turns)
  | _, [] => inferInstanceAs (Decidable True)
  | s, .made e :: rest =>
    have := decidableSeedsApart (e.next s) rest
    inferInstanceAs (Decidable (_ ∧ _))
  | s, .switched up :: rest => decidableSeedsApart { s with available := up } rest

/-- The account that an operation makes, if it makes one: the user who is answered, and the hash
that was given. -/
def opened? (s : Store) : Event → Option Account
  | ⟨now, .seedUser new active⟩ =>
    (s.perform now (.seedUser new active)).1.toOption.map (⟨·, new.passwordHash⟩)
  | ⟨now, .createAndInvite new digest expires⟩ =>
    (s.perform now (.createAndInvite new digest expires)).1.toOption.map (⟨·, new.passwordHash⟩)
  | _ => none

def posted? (s : Store) : Event → Option Post
  | ⟨now, .createPost userId title content tags⟩ =>
    (s.perform now (.createPost userId title content tags)).1.toOption
  | _ => none

def remarked? (s : Store) : Event → Option Comment
  | ⟨now, .createComment postId userId text⟩ =>
    (s.perform now (.createComment postId userId text)).1.toOption
  | _ => none

/-- What the operations among the turns yield on the stores that they find, in order. -/
def courseYields {β : Type} (find : Store → Event → Option β) : Store → List Turn → List β
  | _, [] => []
  | s, .made e :: rest => (find s e).toList ++ courseYields find (e.next s) rest
  | s, .switched up :: rest => courseYields find { s with available := up } rest

/-- An account as it was made, or as it is once it is activated. -/
def Aged (a b : Account) : Prop := b = a ∨ b = Tables.activated a

namespace Aged

variable {a b c : Account}

theorem refl (a : Account) : Aged a a := .inl rfl

theorem trans (first : Aged a b) (second : Aged b c) : Aged a c := by
  rcases first with rfl | rfl
  · exact second
  · rcases second with rfl | rfl
    · exact .inr rfl
    · exact .inr rfl

theorem email (aged : Aged a b) : b.user.email = a.user.email := by
  rcases aged with rfl | rfl <;> rfl

theorem username (aged : Aged a b) : b.user.username = a.user.username := by
  rcases aged with rfl | rfl <;> rfl

theorem passwordHash (aged : Aged a b) : b.passwordHash = a.passwordHash := by
  rcases aged with rfl | rfl <;> rfl

theorem number (aged : Aged a b) : Table.number b = Table.number a := by
  rcases aged with rfl | rfl <;> rfl

end Aged

/-- What one operation can do to the rows of accounts. -/
inductive RowStep (s : Store) (e : Event) : Prop where
  | opened (made : Account) (number : made.user.id = s.tables.accounts.next)
      (next : (e.next s).tables.accounts.next = s.tables.accounts.next + 1)
      (rows : (e.next s).tables.accounts.rows = s.tables.accounts.rows ++ [made])
      (noted : opened? s e = some made)
      (free : e.Apart s → s.tables.emailTaken made.user.email = false ∧
        s.tables.usernameTaken made.user.username = false)
  | aged (next : (e.next s).tables.accounts.next = s.tables.accounts.next)
      (rows : ∀ b ∈ (e.next s).tables.accounts.rows, ∃ a ∈ s.tables.accounts.rows, Aged a b)
      (noted : opened? s e = none)

theorem rowStep_of_same {s : Store} {e : Event}
    (same : (e.next s).tables.accounts = s.tables.accounts) (noted : opened? s e = none) :
    RowStep s e := by
  refine .aged (congrArg Ledger.next same) (fun b inside => ⟨b, ?_, .refl b⟩) noted
  rwa [same] at inside

theorem opened?_of_failed {s : Store} {e : Event} {error : Error}
    (failed : e.answer s = .error error) : opened? s e = none := by
  obtain ⟨now, c⟩ := e
  rw [Event.answer] at failed
  cases c with
  | seedUser new active => simp only [opened?, failed, Except.toOption, Option.map_none]
  | createAndInvite new digest expires =>
    simp only [opened?, failed, Except.toOption, Option.map_none]
  | _ => rfl

theorem rowStep_of_failed {s : Store} {e : Event} {error : Error}
    (failed : e.answer s = .error error) : RowStep s e := by
  have same : e.next s = s := perform_of_failed failed
  exact rowStep_of_same (congrArg (·.tables.accounts) same) (opened?_of_failed failed)

section

variable {s : Store} (up : s.available = true) (now : Stamp)

include up

theorem rowStep_seedUser (new : NewUser) (active : Bool) :
    RowStep s ⟨now, .seedUser new active⟩ := by
  rcases perform_seedUser up now new active with ⟨_, done⟩ | ⟨_, failed⟩
  · have next : Event.next s ⟨now, .seedUser new active⟩ =
        s.withAccounts (s.tables.enlisted now new active) s.tables.invitations :=
      congrArg Prod.snd done
    refine .opened (newAccount now new active s.tables.accounts.next) rfl ?_ ?_ ?_ ?_
    · rw [next]
      rfl
    · rw [next]
      rfl
    · simp only [opened?, done, Except.toOption, Option.map_some]
      rfl
    · intro apart
      exact apart new rfl
  · exact rowStep_of_failed (congrArg Prod.fst failed)

theorem rowStep_createAndInvite (new : NewUser) (digest : String) (expires : Stamp) :
    RowStep s ⟨now, .createAndInvite new digest expires⟩ := by
  rcases perform_createAndInvite up now new digest expires with ⟨admits, done⟩ | ⟨_, e, failed⟩
  · have next : Event.next s ⟨now, .createAndInvite new digest expires⟩ =
        s.withAccounts (s.tables.enlisted now new false)
          (s.tables.invitations.set digest ⟨s.tables.accounts.next, expires⟩) :=
      congrArg Prod.snd done
    refine .opened (newAccount now new false s.tables.accounts.next) rfl ?_ ?_ ?_ ?_
    · rw [next]
      rfl
    · rw [next]
      rfl
    · simp only [opened?, done, Except.toOption, Option.map_some]
      rfl
    · intro _
      exact ⟨admits.email, admits.username⟩
  · exact rowStep_of_failed (congrArg Prod.fst failed)

theorem rowStep_activate (digest : String) : RowStep s ⟨now, .activate digest⟩ := by
  rcases perform_activate up now digest with ⟨i, _, _, _, done⟩ | ⟨_, failed⟩
  · have next : Event.next s ⟨now, .activate digest⟩ =
        s.withAccounts (s.tables.accounts.modify i.userId Tables.activated Tables.number_activated)
          (s.tables.withdraw i.userId) := congrArg Prod.snd done
    refine .aged ?_ ?_ rfl
    · rw [next]
      rfl
    · intro b inside
      rw [next] at inside
      obtain ⟨a, stored, rfl⟩ := List.mem_map.1 inside
      refine ⟨a, stored, ?_⟩
      split
      · exact .inr rfl
      · exact .refl a
  · exact rowStep_of_failed (congrArg Prod.fst failed)

theorem rowStep_deleteUser (id : Int) : RowStep s ⟨now, .deleteUser id⟩ := by
  rcases perform_deleteUser up now id with ⟨_, _, accounts, _⟩ | ⟨_, failed⟩
  · have removed : (Event.next s ⟨now, .deleteUser id⟩).tables.accounts =
        s.tables.accounts.remove id := accounts
    refine .aged ?_ (fun b inside => ⟨b, ?_, .refl b⟩) rfl
    · rw [removed]
      rfl
    · rw [removed] at inside
      exact (List.mem_filter.1 inside).1
  · exact rowStep_of_failed (congrArg Prod.fst failed)

end

theorem rowStep (s : Store) (e : Event) : RowStep s e := by
  obtain ⟨now, c⟩ := e
  rcases perform_cases s now c with ⟨a, t, up, success, done⟩ | ⟨error, failed⟩
  · cases concerns : c.concernsAccounts with
    | false =>
      refine rowStep_of_same ?_ ?_
      · rw [Event.next, done]
        exact (Tables.apply_registry concerns success).1
      · cases c <;> first | rfl | cases concerns
    | true =>
      cases c with
      | seedUser new active => exact rowStep_seedUser up now new active
      | createAndInvite new digest expires => exact rowStep_createAndInvite up now new digest expires
      | activate digest => exact rowStep_activate up now digest
      | deleteUser id => exact rowStep_deleteUser up now id
      | _ => cases concerns
  · exact rowStep_of_failed (congrArg Prod.fst failed)

/-- No two accounts have one email, or one name. -/
structure Tables.Distinct (t : Tables) : Prop where
  email : ∀ a ∈ t.accounts.rows, ∀ b ∈ t.accounts.rows, a.user.email = b.user.email → a = b
  username : ∀ a ∈ t.accounts.rows, ∀ b ∈ t.accounts.rows,
    a.user.username = b.user.username → a = b

theorem distinct_new : Tables.Distinct {} where
  email := nofun
  username := nofun

theorem eq_of_number {α : Type} [Table.Numbered α] {l : Ledger α} {a b : α} (left : a ∈ l.rows)
    (right : b ∈ l.rows) (same : Table.number a = Table.number b) : a = b := by
  have found := Ledger.get?_of_mem left
  rw [same, Ledger.get?_of_mem right] at found
  exact (Option.some.inj found).symm

namespace Tables.Distinct

variable {t after : Tables}

/-- An account is added that shares neither its email nor its name. -/
theorem added (distinct : t.Distinct) {made : Account}
    (rows : after.accounts.rows = t.accounts.rows ++ [made])
    (email : t.emailTaken made.user.email = false)
    (username : t.usernameTaken made.user.username = false) : after.Distinct := by
  have newEmail (a : Account) (stored : a ∈ t.accounts.rows) :
      a.user.email ≠ made.user.email := by
    intro same
    rw [t.emailTaken_iff.2 ⟨a, stored, same⟩] at email
    cases email
  have newName (a : Account) (stored : a ∈ t.accounts.rows) :
      a.user.username ≠ made.user.username := by
    intro same
    rw [t.usernameTaken_iff.2 ⟨a, stored, same⟩] at username
    cases username
  constructor
  · intro a left b right same
    rw [rows, List.mem_append, List.mem_singleton] at left right
    rcases left with left | rfl
    · rcases right with right | rfl
      · exact distinct.email a left b right same
      · exact absurd same (newEmail a left)
    · rcases right with right | rfl
      · exact absurd same.symm (newEmail b right)
      · rfl
  · intro a left b right same
    rw [rows, List.mem_append, List.mem_singleton] at left right
    rcases left with left | rfl
    · rcases right with right | rfl
      · exact distinct.username a left b right same
      · exact absurd same (newName a left)
    · rcases right with right | rfl
      · exact absurd same.symm (newName b right)
      · rfl

theorem aged (distinct : t.Distinct)
    (rows : ∀ b ∈ after.accounts.rows, ∃ a ∈ t.accounts.rows, Aged a b) : after.Distinct := by
  constructor
  · intro b left b' right same
    obtain ⟨a, stored, before⟩ := rows b left
    obtain ⟨a', stored', before'⟩ := rows b' right
    rw [before.email, before'.email] at same
    cases distinct.email a stored a' stored' same
    exact eq_of_number left right (before.number.trans before'.number.symm)
  · intro b left b' right same
    obtain ⟨a, stored, before⟩ := rows b left
    obtain ⟨a', stored', before'⟩ := rows b' right
    rw [before.username, before'.username] at same
    cases distinct.username a stored a' stored' same
    exact eq_of_number left right (before.number.trans before'.number.symm)

end Tables.Distinct

theorem distinct_next {s : Store} (distinct : s.tables.Distinct) {e : Event} (apart : e.Apart s) :
    (e.next s).tables.Distinct := by
  cases rowStep s e with
  | opened made number next rows noted free =>
    obtain ⟨email, username⟩ := free apart
    exact distinct.added rows email username
  | aged next rows noted => exact distinct.aged rows

theorem distinct_course (turns : List Turn) {s : Store} (distinct : s.tables.Distinct)
    (apart : SeedsApart s turns) : (course s turns).tables.Distinct := by
  induction turns generalizing s with
  | nil => exact distinct
  | cons turn rest ih =>
    cases turn with
    | made e => exact ih (distinct_next distinct apart.1) apart.2
    | switched up => exact ih distinct apart

/-- Every account that is stored was stored at first, or has been made since; it is as it was then,
but for being active. -/
theorem origin_course (turns : List Turn) (s : Store) :
    ∀ b ∈ (course s turns).tables.accounts.rows,
      ∃ a ∈ s.tables.accounts.rows ++ courseYields opened? s turns, Aged a b := by
  induction turns generalizing s with
  | nil =>
    intro b stored
    exact ⟨b, List.mem_append_left _ stored, .refl b⟩
  | cons turn rest ih =>
    intro b stored
    cases turn with
    | switched up => exact ih _ b stored
    | made e =>
      obtain ⟨a, origin, later⟩ := ih (e.next s) b stored
      rw [courseYields]
      rcases List.mem_append.1 origin with old | new
      · cases rowStep s e with
        | opened made number next rows noted free =>
          rw [rows] at old
          rw [noted]
          refine ⟨a, ?_, later⟩
          rcases List.mem_append.1 old with older | last
          · exact List.mem_append_left _ older
          · exact List.mem_append_right _ (List.mem_append_left _ last)
        | aged next rows noted =>
          obtain ⟨first, older, earlier⟩ := rows a old
          exact ⟨first, List.mem_append_left _ older, earlier.trans later⟩
      · exact ⟨a, List.mem_append_right _ (List.mem_append_right _ new), later⟩

/-- Whatever an operation makes has the next number of a counter. -/
structure Counts {β : Type} (find : Store → Event → Option β) (number : β → Int)
    (next : Tables → Int) : Prop where
  step : ∀ s e, (find s e = none ∧ next (e.next s).tables = next s.tables) ∨
    ∃ made, find s e = some made ∧ number made = next s.tables ∧
      next (e.next s).tables = next s.tables + 1

theorem Counts.increasing {β : Type} {find : Store → Event → Option β} {number : β → Int}
    {next : Tables → Int} (counts : Counts find number next) (turns : List Turn) (s : Store) :
    (∀ made ∈ courseYields find s turns, next s.tables ≤ number made) ∧
      (courseYields find s turns).Pairwise fun first second => number first < number second := by
  induction turns generalizing s with
  | nil => exact ⟨nofun, .nil⟩
  | cons turn rest ih =>
    cases turn with
    | switched up => exact ih { s with available := up }
    | made e =>
      obtain ⟨above, ordered⟩ := ih (e.next s)
      rw [courseYields]
      rcases counts.step s e with ⟨none, same⟩ | ⟨made, given, first, grown⟩
      · rw [none, Option.toList_none, List.nil_append]
        rw [same] at above
        exact ⟨above, ordered⟩
      · rw [given, Option.toList_some, List.singleton_append]
        constructor
        · intro other among
          rcases List.mem_cons.1 among with rfl | later
          · exact Int.le_of_eq first.symm
          · have bound := above other later
            omega
        · refine List.pairwise_cons.2 ⟨fun other later => ?_, ordered⟩
          have bound := above other later
          omega

theorem counts_accounts : Counts opened? (·.user.id) (·.accounts.next) where
  step s e := by
    cases rowStep s e with
    | opened made number next rows noted free => exact .inr ⟨made, noted, number, next⟩
    | aged next rows noted => exact .inl ⟨noted, next⟩

theorem counts_posts : Counts posted? (·.id) (·.posts.next) where
  step s e := by
    obtain ⟨now, c⟩ := e
    rcases perform_cases s now c with ⟨a, t, up, success, done⟩ | ⟨error, failed⟩
    · rw [Event.next, done]
      cases c with
      | createPost userId title content tags =>
        refine .inr ⟨a, ?_, ?_, ?_⟩
        · simp only [posted?, done, Except.toOption]
        · cases success
          rfl
        · cases success
          rfl
      | updatePost update =>
        simp only [Tables.apply, Tables.updatePost] at success
        split at success
        · split at success
          · cases success
            exact .inl ⟨rfl, rfl⟩
          · cases success
        · cases success
      | deletePost id =>
        simp only [Tables.apply, Tables.deletePost] at success
        split at success
        · cases success
          exact .inl ⟨rfl, rfl⟩
        · cases success
      | _ => exact .inl ⟨rfl, congrArg Ledger.next ((Tables.apply_framed success).posts rfl)⟩
    · refine .inl ⟨?_, ?_⟩
      · cases c with
        | createPost userId title content tags =>
          simp only [posted?, failed, Except.toOption]
        | _ => rfl
      · rw [Event.next, failed]

def Call.comments : Call → Bool
  | .createComment .. => true
  | _ => false

theorem Tables.apply_remarks {now : Stamp} {t after : Tables} {c : Call} {a : c.Answer}
    (other : c.comments = false)
    (success : t.apply now c = .ok (a, after)) : after.comments.next = t.comments.next := by
  cases c with
  | createComment postId userId text => cases other
  | deleteCommentsOn postId =>
    cases success
    rfl
  | _ => rw [(apply_framed success).comments rfl]

theorem counts_comments : Counts remarked? (·.remark.id) (·.comments.next) where
  step s e := by
    obtain ⟨now, c⟩ := e
    rcases perform_cases s now c with ⟨a, t, up, success, done⟩ | ⟨error, failed⟩
    · rw [Event.next, done]
      cases c with
      | createComment postId userId text =>
        simp only [Tables.apply, Tables.createComment] at success
        split at success
        · refine .inr ⟨a, ?_, ?_, ?_⟩
          · simp only [remarked?, done, Except.toOption]
          · cases success
            rfl
          · cases success
            rfl
        · cases success
      | _ => exact .inl ⟨rfl, Tables.apply_remarks rfl success⟩
    · refine .inl ⟨?_, ?_⟩
      · cases c with
        | createComment postId userId text =>
          simp only [remarked?, failed, Except.toOption]
        | _ => rfl
      · rw [Event.next, failed]

theorem Tables.admits_iff {t : Tables} {new : NewUser} :
    t.Admits new ↔ (∀ a ∈ t.accounts.rows, a.user.email ≠ new.email) ∧
      (∀ a ∈ t.accounts.rows, a.user.username ≠ new.username) ∧
      t.roles.contains new.role = true := by
  have email : t.emailTaken new.email = false ↔ ∀ a ∈ t.accounts.rows, a.user.email ≠ new.email := by
    rw [← Bool.not_eq_true, emailTaken_iff]
    simp only [not_exists, not_and, ne_eq]
  have username : t.usernameTaken new.username = false ↔
      ∀ a ∈ t.accounts.rows, a.user.username ≠ new.username := by
    rw [← Bool.not_eq_true, usernameTaken_iff]
    simp only [not_exists, not_and, ne_eq]
  rw [← email, ← username]
  exact ⟨fun admits => ⟨admits.email, admits.username, admits.role⟩,
    fun ⟨free, fresh, known⟩ => ⟨free, fresh, known⟩⟩

section

variable {s : Store} (up : s.available = true) (now : Stamp)

include up

theorem createAndInvite_succeeds_iff (new : NewUser) (digest : String) (expires : Stamp) :
    (∃ user, (s.perform now (.createAndInvite new digest expires)).1 = .ok user) ↔
      s.tables.Admits new := by
  rcases perform_createAndInvite up now new digest expires with ⟨admits, done⟩ | ⟨bars, e, failed⟩
  · rw [done]
    exact ⟨fun _ => admits, fun _ => ⟨_, rfl⟩⟩
  · rw [failed]
    exact ⟨fun ⟨_, impossible⟩ => (nomatch impossible), fun admits => absurd admits bars⟩

/-- The credentials of an email are the one account that has it. -/
theorem credentials_iff (distinct : s.tables.Distinct) (email : String) (a : Account) :
    (s.perform now (.credentials email)).1 = .ok a ↔
      a ∈ s.tables.accounts.rows ∧ a.user.email = email := by
  rw [perform_credentials up]
  cases found : s.tables.accounts.rows.find? fun a => a.user.email = email with
  | none =>
    constructor
    · intro impossible
      cases impossible
    · rintro ⟨stored, same⟩
      exact absurd (decide_eq_true same) (List.find?_eq_none.1 found a stored)
  | some b =>
    have stored := List.mem_of_find?_eq_some found
    have same : b.user.email = email := by simpa using List.find?_some found
    constructor
    · intro equal
      cases equal
      exact ⟨stored, same⟩
    · rintro ⟨stored', same'⟩
      rw [distinct.email a stored' b stored (same'.trans same.symm)]
      rfl

theorem credentials_missing_iff (email : String) :
    (s.perform now (.credentials email)).1 = .error .notFound ↔
      ∀ a ∈ s.tables.accounts.rows, a.user.email ≠ email := by
  rw [perform_credentials up]
  cases found : s.tables.accounts.rows.find? fun a => a.user.email = email with
  | none =>
    refine ⟨fun _ a stored same => ?_, fun _ => rfl⟩
    exact List.find?_eq_none.1 found a stored (decide_eq_true same)
  | some b =>
    constructor
    · intro impossible
      cases impossible
    · intro missing
      have same : b.user.email = email := by simpa using List.find?_some found
      exact absurd same (missing b (List.mem_of_find?_eq_some found))

end

/-- Whatever befalls a new store, if accounts are seeded only with emails and names that no account
has at that moment: no two accounts share an email or a name, and each is one that was made under
its number, with the hash that was given then; while the store is up, the credentials of an email
are the one account that has it, and a registration is made exactly if neither its email nor its
name is stored and its role is known; and the numbers of the accounts that were made, of the posts
and of the comments each grow, so none is given out twice. -/
theorem accounts_stay_distinct (turns : List Turn) (apart : SeedsApart {} turns) :
    let s := course {} turns
    let rows := s.tables.accounts.rows
    (∀ a ∈ rows, ∀ b ∈ rows,
      a.user.email = b.user.email ∨ a.user.username = b.user.username → a = b) ∧
    (∀ b ∈ rows, ∃ a ∈ courseYields opened? {} turns,
      a.user.id = b.user.id ∧ a.passwordHash = b.passwordHash ∧ Aged a b) ∧
    (s.available = true → ∀ now email,
      (∀ a, (s.perform now (.credentials email)).1 = .ok a ↔ a ∈ rows ∧ a.user.email = email) ∧
      ((s.perform now (.credentials email)).1 = .error .notFound ↔
        ∀ a ∈ rows, a.user.email ≠ email)) ∧
    (s.available = true → ∀ now new digest expires,
      (∃ user, (s.perform now (.createAndInvite new digest expires)).1 = .ok user) ↔
        (∀ a ∈ rows, a.user.email ≠ new.email) ∧ (∀ a ∈ rows, a.user.username ≠ new.username) ∧
        s.tables.roles.contains new.role = true) ∧
    (courseYields opened? {} turns).Pairwise (fun a b => a.user.id < b.user.id) ∧
    (courseYields posted? {} turns).Pairwise (fun p q => p.id < q.id) ∧
    (courseYields remarked? {} turns).Pairwise (fun c d => c.remark.id < d.remark.id) := by
  intro s rows
  have distinct : s.tables.Distinct := distinct_course turns distinct_new apart
  refine ⟨?_, ?_, ?_, ?_, (counts_accounts.increasing turns {}).2,
    (counts_posts.increasing turns {}).2, (counts_comments.increasing turns {}).2⟩
  · intro a left b right same
    exact same.elim (distinct.email a left b right) (distinct.username a left b right)
  · intro b stored
    obtain ⟨a, origin, aged⟩ := origin_course turns {} b stored
    exact ⟨a, origin, aged.number.symm, aged.passwordHash.symm, aged⟩
  · intro up now email
    exact ⟨credentials_iff up now distinct email, credentials_missing_iff up now email⟩
  · intro up now new digest expires
    rw [createAndInvite_succeeds_iff up now new digest expires, Tables.admits_iff]

/-- Someone is seeded, registers under the same name in vain, and another registers, is taken out
and registers again after an outage. -/
def sampleTurns : List Turn :=
  let moment : Stamp := ⟨0, 0⟩
  let register (name email : String) : Turn :=
    .made ⟨moment, .createAndInvite ⟨name, email, "hash of " ++ name, "user"⟩ name ⟨1, 0⟩⟩
  [.made ⟨moment, .seedUser ⟨"ada", "ada@example.org", "", "admin"⟩ true⟩,
    register "ada" "other@example.org", register "bob" "bob@example.org",
    .made ⟨moment, .deleteUser 2⟩, .switched false, register "eve" "eve@example.org",
    .switched true, register "bob" "bob@example.org",
    .made ⟨moment, .seedUser ⟨"eve", "eve@example.org", "", "user"⟩ false⟩]

theorem accounts_stay_distinct_sample :
    SeedsApart {} sampleTurns ∧
    (courseYields opened? {} sampleTurns).map (·.user.id) = [1, 2, 3, 4] ∧
    (courseYields opened? {} sampleTurns).Pairwise (fun a b => a.user.id < b.user.id) ∧
    ∃ a, ((course {} sampleTurns).perform ⟨0, 0⟩ (.credentials "bob@example.org")).1 = .ok a ∧
      a.user.id = 3 ∧ a.passwordHash = "hash of bob" := by
  have apart : SeedsApart {} sampleTurns := by decide
  obtain ⟨_, _, found, _, ordered, _⟩ := accounts_stay_distinct sampleTurns apart
  refine ⟨apart, by decide, ordered, ?_⟩
  have stored : newAccount ⟨0, 0⟩ ⟨"bob", "bob@example.org", "hash of bob", "user"⟩ false 3 ∈
      (course {} sampleTurns).tables.accounts.rows := by decide
  refine ⟨_, ((found rfl ⟨0, 0⟩ "bob@example.org").1 _).2 ⟨stored, rfl⟩, rfl, rfl⟩

end Agora.Store
