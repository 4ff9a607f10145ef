import Agora.Proofs.AccountOperations
import Agora.Proofs.StoreHistory
import Mathlib.Data.List.Induction
import Mathlib.Data.List.Nodup

/-!
Accounts from their registration on. A chronicle notes which registrations were made, which accounts
were activated and which were taken out, and the store holds neither less nor more than follows from
it: an account stands as it was registered, active once it has been activated, until it is taken
out; and a digest opens the account that was last registered with it, if that is still to be
activated.
-/

set_option autoImplicit false

namespace Agora.Store

open Table (Ledger)
open Time (Stamp)

/-- A registration that was made: the user who was answered, the hash of the password, and the
invitation by its digest. -/
structure Enrolment where
  user : User
  passwordHash : String
  digest : String
  expires : Stamp

namespace Enrolment

/-- The account of a registration, before it is activated or after. -/
def account (x : Enrolment) (active : Bool) : Account :=
  ⟨{ x.user with isActive := active }, x.passwordHash⟩

def invitation (x : Enrolment) : Invitation := ⟨x.user.id, x.expires⟩

end Enrolment

/-- What can become of accounts that are registered. -/
inductive Change where
  | enrolled (x : Enrolment)
  | activated (id : Int)
  | removed (id : Int)

namespace Change

def enrolment? : Change → Option Enrolment
  | enrolled x => some x
  | _ => none

def activation? : Change → Option Int
  | activated id => some id
  | _ => none

def removal? : Change → Option Int
  | removed id => some id
  | _ => none

end Change

abbrev Chronicle := List Change

namespace Chronicle

variable (cs : Chronicle)

def enrolments : List Enrolment := cs.filterMap Change.enrolment?

/-- The numbers of the accounts that were activated. -/
def activations : List Int := cs.filterMap Change.activation?

/-- The numbers of the accounts that were taken out. -/
def removals : List Int := cs.filterMap Change.removal?

/-- The last registration with a digest. -/
def latest? (digest : String) : Option Enrolment :=
  (cs.enrolments.filter (·.digest = digest)).getLast?

/-- The account of a number has been activated or taken out. -/
def settled (id : Int) : Bool := id ∈ cs.activations || id ∈ cs.removals

/-- The registration that a digest opens. -/
def open? (digest : String) : Option Enrolment :=
  (cs.latest? digest).filter fun x => !cs.settled x.user.id

end Chronicle

/-- The change that an operation makes, if it makes one. -/
def change? (s : Store) : Event → Option Change
  | ⟨now, .createAndInvite new digest expires⟩ =>
    (s.perform now (.createAndInvite new digest expires)).1.toOption.map fun user =>
      .enrolled ⟨user, new.passwordHash, digest, expires⟩
  | ⟨now, .activate digest⟩ => (s.perform now (.activate digest)).1.toOption.map .activated
  | ⟨now, .deleteUser id⟩ => (s.perform now (.deleteUser id)).1.toOption.map fun _ => .removed id
  | _ => none

/-- The changes that a history of a new store makes. -/
def chronicle (history : List Event) : Chronicle := yields change? {} history

/-- What one operation can do to accounts and invitations, and what is noted of it. -/
inductive ChangeStep (s : Store) (e : Event) : Prop where
  | kept (next : s.tables.accounts.next ≤ (e.next s).tables.accounts.next)
      (rows : ∀ id, id < s.tables.accounts.next →
        (e.next s).tables.accounts.get? id = s.tables.accounts.get? id)
      (invitations : (e.next s).tables.invitations = s.tables.invitations)
      (noted : change? s e = none)
  | enrolled (x : Enrolment) (number : x.user.id = s.tables.accounts.next)
      (inactive : x.user.isActive = false)
      (next : (e.next s).tables.accounts.next = s.tables.accounts.next + 1)
      (rows : ∀ id, (e.next s).tables.accounts.get? id =
        if id = x.user.id then some (x.account false) else s.tables.accounts.get? id)
      (invitations : (e.next s).tables.invitations =
        s.tables.invitations.set x.digest x.invitation)
      (noted : change? s e = some (.enrolled x))
  | activated (digest : String) (i : Invitation)
      (found : s.tables.invitations.get? digest = some i)
      (next : (e.next s).tables.accounts.next = s.tables.accounts.next)
      (rows : ∀ id, (e.next s).tables.accounts.get? id =
        if id = i.userId then (s.tables.accounts.get? i.userId).map Tables.activated
        else s.tables.accounts.get? id)
      (invitations : (e.next s).tables.invitations = s.tables.withdraw i.userId)
      (noted : change? s e = some (.activated i.userId))
  | removed (target : Int) (stood : s.tables.accounts.contains target = true)
      (next : (e.next s).tables.accounts.next = s.tables.accounts.next)
      (rows : ∀ id, (e.next s).tables.accounts.get? id =
        if id = target then none else s.tables.accounts.get? id)
      (invitations : (e.next s).tables.invitations = s.tables.withdraw target)
      (noted : change? s e = some (.removed target))

theorem changeStep_of_same {s : Store} {e : Event} (same : e.next s = s)
    (noted : change? s e = none) : ChangeStep s e := by
  refine .kept ?_ ?_ ?_ noted
  · exact Int.le_of_eq (by rw [same])
  · intro id given
    rw [same]
  · rw [same]

theorem changeStep_of_other (s : Store) (now : Stamp) {c : Call}
    (other : c.concernsAccounts = false) : ChangeStep s ⟨now, c⟩ := by
  have noted : change? s ⟨now, c⟩ = none := by
    cases c <;> first | rfl | cases other
  rcases perform_cases s now c with ⟨a, t, _, success, done⟩ | ⟨e, failed⟩
  · obtain ⟨accounts, invitations⟩ := Tables.apply_registry other success
    refine .kept ?_ ?_ ?_ noted
    · rw [Event.next, done]
      exact Int.le_of_eq (congrArg Ledger.next accounts.symm)
    · intro id given
      rw [Event.next, done]
      exact congrArg (Ledger.get? · id) accounts
    · rw [Event.next, done]
      exact invitations
  · exact changeStep_of_same (congrArg Prod.snd failed) noted

section

variable {s : Store} (up : s.available = true) (now : Stamp)

include up

theorem changeStep_seedUser (new : NewUser) (active : Bool) :
    ChangeStep s ⟨now, .seedUser new active⟩ := by
  rcases perform_seedUser up now new active with ⟨_, done⟩ | ⟨_, failed⟩
  · have next : Event.next s ⟨now, .seedUser new active⟩ =
        s.withAccounts (s.tables.enlisted now new active) s.tables.invitations :=
      congrArg Prod.snd done
    refine .kept ?_ ?_ ?_ rfl
    · rw [next]
      exact Int.le_of_lt (Int.lt_succ _)
    · intro id given
      rw [next]
      exact (Tables.get?_enlisted now new active id).trans (if_neg (Int.ne_of_lt given))
    · rw [next]
      rfl
  · exact changeStep_of_same (congrArg Prod.snd failed) rfl

theorem changeStep_createAndInvite (new : NewUser) (digest : String) (expires : Stamp) :
    ChangeStep s ⟨now, .createAndInvite new digest expires⟩ := by
  rcases perform_createAndInvite up now new digest expires with ⟨_, done⟩ | ⟨_, e, failed⟩
  · have next : Event.next s ⟨now, .createAndInvite new digest expires⟩ =
        s.withAccounts (s.tables.enlisted now new false)
          (s.tables.invitations.set digest ⟨s.tables.accounts.next, expires⟩) :=
      congrArg Prod.snd done
    refine .enrolled ⟨s.tables.newcomer now new false, new.passwordHash, digest, expires⟩ rfl rfl
      ?_ ?_ ?_ ?_
    · rw [next]
      rfl
    · intro id
      rw [next]
      refine (Tables.get?_enlisted now new false id).trans ?_
      change ite (id = s.tables.accounts.next) _ _ = ite (id = s.tables.accounts.next) _ _
      split
      · rename_i same
        rw [same]
        rfl
      · rfl
    · rw [next]
      rfl
    · simp only [change?, done, Except.toOption, Option.map_some]
  · refine changeStep_of_same (congrArg Prod.snd failed) ?_
    simp only [change?, failed, Except.toOption, Option.map_none]

theorem changeStep_activate (digest : String) : ChangeStep s ⟨now, .activate digest⟩ := by
  rcases perform_activate up now digest with ⟨i, found, _, _, done⟩ | ⟨_, failed⟩
  · have next : Event.next s ⟨now, .activate digest⟩ =
        s.withAccounts (s.tables.accounts.modify i.userId Tables.activated Tables.number_activated)
          (s.tables.withdraw i.userId) := congrArg Prod.snd done
    refine .activated digest i found ?_ ?_ ?_ ?_
    · rw [next]
      rfl
    · intro id
      rw [next]
      exact Ledger.get?_modify _ _ _ _ Tables.number_activated
    · rw [next]
      rfl
    · simp only [change?, done, Except.toOption, Option.map_some]
  · refine changeStep_of_same (congrArg Prod.snd failed) ?_
    simp only [change?, failed, Except.toOption, Option.map_none]

theorem changeStep_deleteUser (target : Int) : ChangeStep s ⟨now, .deleteUser target⟩ := by
  rcases perform_deleteUser up now target with ⟨stood, done, accounts, invitations⟩ | ⟨_, failed⟩
  · refine .removed target stood ?_ ?_ invitations ?_
    · have next := congrArg Ledger.next accounts
      exact next
    · intro id
      refine (congrArg (Ledger.get? · id) accounts).trans ?_
      exact Ledger.get?_remove _ _ _
    · simp only [change?, done, Except.toOption, Option.map_some]
  · refine changeStep_of_same (congrArg Prod.snd failed) ?_
    simp only [change?, failed, Except.toOption, Option.map_none]

theorem changeStep (e : Event) : ChangeStep s e := by
  obtain ⟨now, c⟩ := e
  cases concerns : c.concernsAccounts with
  | false => exact changeStep_of_other s now concerns
  | true =>
    cases c with
    | seedUser new active => exact changeStep_seedUser up now new active
    | createAndInvite new digest expires =>
      exact changeStep_createAndInvite up now new digest expires
    | activate digest => exact changeStep_activate up now digest
    | deleteUser target => exact changeStep_deleteUser up now target
    | _ => cases concerns

end

namespace Chronicle

variable {cs : Chronicle}

theorem enrolments_concat (c : Change) :
    enrolments (cs ++ [c]) = cs.enrolments ++ c.enrolment?.toList := by
  rw [enrolments, List.filterMap_append]
  cases c <;> rfl

theorem activations_concat (c : Change) :
    activations (cs ++ [c]) = cs.activations ++ c.activation?.toList := by
  rw [activations, List.filterMap_append]
  cases c <;> rfl

theorem removals_concat (c : Change) :
    removals (cs ++ [c]) = cs.removals ++ c.removal?.toList := by
  rw [removals, List.filterMap_append]
  cases c <;> rfl

/-- Whoever is activated or taken out is settled from then on, and nobody else. -/
theorem settled_concat (c : Change) (id : Int) :
    settled (cs ++ [c]) id =
      (cs.settled id || decide (c.activation? = some id ∨ c.removal? = some id)) := by
  rw [Bool.eq_iff_iff]
  simp only [settled, activations_concat, removals_concat, Bool.or_eq_true, decide_eq_true_eq,
    List.mem_append, Option.mem_toList]
  tauto

theorem latest?_concat (c : Change) (digest : String) :
    latest? (cs ++ [c]) digest =
      ((c.enrolment?.filter (·.digest = digest)).or (cs.latest? digest)) := by
  rw [latest?, enrolments_concat, List.filter_append, List.getLast?_append]
  cases c.enrolment? with
  | none => rfl
  | some x =>
    by_cases same : x.digest = digest
    · simp only [Option.toList_some, Option.filter_some, same, decide_true, ↓reduceIte,
        List.filter_cons_of_pos, List.filter_nil, List.getLast?_singleton]
      rfl
    · simp only [Option.toList_some, Option.filter_some, same, decide_false, Bool.false_eq_true,
        ↓reduceIte, not_false_eq_true, List.filter_cons_of_neg, List.filter_nil,
        List.getLast?_nil]
      rfl

theorem latest?_mem {digest : String} {x : Enrolment} (last : cs.latest? digest = some x) :
    x ∈ cs.enrolments ∧ x.digest = digest := by
  obtain ⟨among, same⟩ := List.mem_filter.1 (List.mem_of_getLast? last)
  exact ⟨among, of_decide_eq_true same⟩

theorem open?_eq_some {digest : String} {x : Enrolment} :
    cs.open? digest = some x ↔ cs.latest? digest = some x ∧ cs.settled x.user.id = false := by
  rw [open?, Option.filter_eq_some_iff, Bool.not_eq_true']

theorem settled_eq_false {id : Int} :
    cs.settled id = false ↔ id ∉ cs.activations ∧ id ∉ cs.removals := by
  simp only [settled, Bool.or_eq_false_iff, decide_eq_false_iff_not]

/-- Once the account of a number is settled, no digest opens it any more. -/
theorem open?_concat_of_settling {c : Change} {id : Int} (other : c.enrolment? = none)
    (settles : ∀ n, decide (c.activation? = some n ∨ c.removal? = some n) = decide (n = id))
    (digest : String) :
    open? (cs ++ [c]) digest = (cs.open? digest).filter fun x => x.user.id ≠ id := by
  rw [open?, open?, latest?_concat, other, Option.filter_filter]
  refine congrArg (Option.filter · (cs.latest? digest)) (funext fun x => ?_)
  rw [settled_concat, settles, Bool.not_or, decide_not]

end Chronicle

/-- The store holds what a chronicle tells. -/
structure Recorded (cs : Chronicle) (t : Tables) : Prop where
  /-- Each registration had the next number. -/
  ordered : cs.enrolments.Pairwise fun x y => x.user.id < y.user.id
  given : ∀ x ∈ cs.enrolments, x.user.id < t.accounts.next
  inactive : ∀ x ∈ cs.enrolments, x.user.isActive = false
  row : ∀ x ∈ cs.enrolments, t.accounts.get? x.user.id =
    if x.user.id ∈ cs.removals then none
    else some (x.account (decide (x.user.id ∈ cs.activations)))
  invitation : ∀ digest, t.invitations.get? digest = (cs.open? digest).map Enrolment.invitation
  /-- Nobody is activated twice, nor anybody who was not registered. -/
  once : cs.activations.Nodup
  known : ∀ id ∈ cs.activations, ∃ x ∈ cs.enrolments, x.user.id = id
  removed : ∀ id ∈ cs.removals, id < t.accounts.next

theorem recorded_new : Recorded [] {} where
  ordered := .nil
  given := nofun
  inactive := nofun
  row := nofun
  invitation _ := rfl
  once := .nil
  known := nofun
  removed := nofun

theorem Enrolment.activated_account (x : Enrolment) (active : Bool) :
    Tables.activated (x.account active) = x.account true := rfl

namespace Recorded

variable {cs : Chronicle} {t after : Tables}

theorem kept (recorded : Recorded cs t) (next : t.accounts.next ≤ after.accounts.next)
    (rows : ∀ id, id < t.accounts.next → after.accounts.get? id = t.accounts.get? id)
    (invitations : after.invitations = t.invitations) : Recorded cs after where
  ordered := recorded.ordered
  given x among := Int.lt_of_lt_of_le (recorded.given x among) next
  inactive := recorded.inactive
  row x among := (rows _ (recorded.given x among)).trans (recorded.row x among)
  invitation digest := (congrArg (·.get? digest) invitations).trans (recorded.invitation digest)
  once := recorded.once
  known := recorded.known
  removed id among := Int.lt_of_lt_of_le (recorded.removed id among) next

/-- A registration has a number that no change before was about. -/
theorem fresh (recorded : Recorded cs t) {id : Int} (next : id = t.accounts.next) :
    id ∉ cs.activations ∧ id ∉ cs.removals := by
  constructor
  · intro among
    obtain ⟨y, registered, same⟩ := recorded.known id among
    have given := recorded.given y registered
    omega
  · intro among
    have given := recorded.removed id among
    omega

theorem enrolled (recorded : Recorded cs t) {x : Enrolment} (number : x.user.id = t.accounts.next)
    (inactive : x.user.isActive = false) (next : after.accounts.next = t.accounts.next + 1)
    (rows : ∀ id, after.accounts.get? id =
      if id = x.user.id then some (x.account false) else t.accounts.get? id)
    (invitations : after.invitations = t.invitations.set x.digest x.invitation) :
    Recorded (cs ++ [.enrolled x]) after := by
  have all : Chronicle.enrolments (cs ++ [.enrolled x]) = cs.enrolments ++ [x] :=
    Chronicle.enrolments_concat _
  have activations : Chronicle.activations (cs ++ [.enrolled x]) = cs.activations :=
    (Chronicle.activations_concat _).trans (List.append_nil _)
  have removals : Chronicle.removals (cs ++ [.enrolled x]) = cs.removals :=
    (Chronicle.removals_concat _).trans (List.append_nil _)
  obtain ⟨unactivated, unremoved⟩ := recorded.fresh number
  have cases {y : Enrolment} (among : y ∈ Chronicle.enrolments (cs ++ [.enrolled x])) :
      y ∈ cs.enrolments ∨ y = x := by
    rw [all] at among
    exact (List.mem_append.1 among).imp_right List.mem_singleton.1
  refine ⟨?_, ?_, ?_, ?_, ?_, ?_, ?_, ?_⟩
  · rw [all, List.pairwise_append]
    refine ⟨recorded.ordered, List.pairwise_singleton _ _, ?_⟩
    intro y among z last
    rw [List.mem_singleton.1 last, number]
    exact recorded.given y among
  · intro y among
    rcases cases among with old | rfl
    · have given := recorded.given y old
      omega
    · omega
  · intro y among
    rcases cases among with old | rfl
    · exact recorded.inactive y old
    · exact inactive
  · intro y among
    rw [rows, activations, removals]
    rcases cases among with old | rfl
    · have given := recorded.given y old
      rw [if_neg (by omega), recorded.row y old]
    · rw [if_pos rfl, if_neg unremoved, decide_eq_false unactivated]
  · intro digest
    rw [invitations, Table.Directory.get?_set, Chronicle.open?, Chronicle.latest?_concat]
    have settled (id : Int) : Chronicle.settled (cs ++ [.enrolled x]) id = cs.settled id := by
      rw [Chronicle.settled, activations, removals, Chronicle.settled]
    by_cases same : digest = x.digest
    · have open' : cs.settled x.user.id = false :=
        Chronicle.settled_eq_false.2 ⟨unactivated, unremoved⟩
      rw [if_pos same, same]
      simp only [Change.enrolment?, Option.filter_some, decide_true, ↓reduceIte, Option.some_or,
        settled, open', Bool.not_false, Option.map_some]
    · have apart : ¬x.digest = digest := fun equal => same equal.symm
      rw [if_neg same, recorded.invitation, Chronicle.open?]
      simp only [Change.enrolment?, Option.filter_some, apart, decide_false, Bool.false_eq_true,
        ↓reduceIte, Option.none_or, settled]
  · rw [activations]
    exact recorded.once
  · intro id among
    rw [activations] at among
    obtain ⟨y, registered, same⟩ := recorded.known id among
    refine ⟨y, ?_, same⟩
    rw [all]
    exact List.mem_append_left _ registered
  · intro id among
    rw [removals] at among
    have given := recorded.removed id among
    omega

theorem mem_concat_of_ne {numbers : List Int} {id other : Int} (apart : id ≠ other) :
    id ∈ numbers ++ [other] ↔ id ∈ numbers := by
  rw [List.mem_append, List.mem_singleton, or_iff_left apart]

theorem withdraw (recorded : Recorded cs t) {c : Change} {id : Int} (other : c.enrolment? = none)
    (settles : ∀ n, decide (c.activation? = some n ∨ c.removal? = some n) = decide (n = id))
    (digest : String) :
    (t.withdraw id).get? digest =
      (Chronicle.open? (cs ++ [c]) digest).map Enrolment.invitation := by
  rw [Tables.get?_withdraw_eq, recorded.invitation, Chronicle.open?_concat_of_settling other settles]
  cases cs.open? digest with
  | none => rfl
  | some x =>
    rw [Option.map_some, Option.filter_some, Option.filter_some]
    by_cases same : x.user.id = id
    · simp [Enrolment.invitation, same]
    · simp [Enrolment.invitation, same]

theorem activated (recorded : Recorded cs t) {digest : String} {i : Invitation}
    (found : t.invitations.get? digest = some i)
    (next : after.accounts.next = t.accounts.next)
    (rows : ∀ id, after.accounts.get? id =
      if id = i.userId then (t.accounts.get? i.userId).map Tables.activated
      else t.accounts.get? id)
    (invitations : after.invitations = t.withdraw i.userId) :
    Recorded (cs ++ [.activated i.userId]) after := by
  have all : Chronicle.enrolments (cs ++ [.activated i.userId]) = cs.enrolments :=
    (Chronicle.enrolments_concat _).trans (List.append_nil _)
  have activations : Chronicle.activations (cs ++ [.activated i.userId]) =
      cs.activations ++ [i.userId] := Chronicle.activations_concat _
  have removals : Chronicle.removals (cs ++ [.activated i.userId]) = cs.removals :=
    (Chronicle.removals_concat _).trans (List.append_nil _)
  rw [recorded.invitation] at found
  obtain ⟨x, opened, rfl⟩ := Option.map_eq_some_iff.1 found
  obtain ⟨last, unsettled⟩ := Chronicle.open?_eq_some.1 opened
  obtain ⟨registered, _⟩ := Chronicle.latest?_mem last
  refine ⟨?_, ?_, ?_, ?_, ?_, ?_, ?_, ?_⟩
  · rw [all]
    exact recorded.ordered
  · rw [all, next]
    exact recorded.given
  · rw [all]
    exact recorded.inactive
  · intro y among
    rw [all] at among
    rw [rows, activations, removals]
    by_cases same : y.user.id = x.invitation.userId
    · rw [if_pos same, ← same, recorded.row y among]
      split
      · rfl
      · rw [Option.map_some, Enrolment.activated_account,
          decide_eq_true (List.mem_append_right _ (List.mem_singleton.2 rfl))]
    · rw [if_neg same, recorded.row y among]
      simp only [mem_concat_of_ne same]
  · intro digest
    rw [invitations]
    refine recorded.withdraw rfl (fun n => ?_) digest
    simp only [Change.activation?, Change.removal?, Option.some.injEq, reduceCtorEq, or_false,
      eq_comm]
  · rw [activations, List.nodup_append]
    refine ⟨recorded.once, List.nodup_singleton _, ?_⟩
    rintro a among b last rfl
    rw [List.mem_singleton.1 last] at among
    exact (Chronicle.settled_eq_false.1 unsettled).1 among
  · intro id among
    rw [activations] at among
    rw [all]
    rcases List.mem_append.1 among with old | new
    · exact recorded.known id old
    · exact ⟨x, registered, (List.mem_singleton.1 new).symm⟩
  · rw [removals, next]
    exact recorded.removed

theorem taken (recorded : Recorded cs t) {target : Int}
    (stood : t.accounts.contains target = true)
    (next : after.accounts.next = t.accounts.next)
    (rows : ∀ id, after.accounts.get? id = if id = target then none else t.accounts.get? id)
    (invitations : after.invitations = t.withdraw target) :
    Recorded (cs ++ [.removed target]) after := by
  have all : Chronicle.enrolments (cs ++ [.removed target]) = cs.enrolments :=
    (Chronicle.enrolments_concat _).trans (List.append_nil _)
  have activations : Chronicle.activations (cs ++ [.removed target]) = cs.activations :=
    (Chronicle.activations_concat _).trans (List.append_nil _)
  have removals : Chronicle.removals (cs ++ [.removed target]) = cs.removals ++ [target] :=
    Chronicle.removals_concat _
  refine ⟨?_, ?_, ?_, ?_, ?_, ?_, ?_, ?_⟩
  · rw [all]
    exact recorded.ordered
  · rw [all, next]
    exact recorded.given
  · rw [all]
    exact recorded.inactive
  · intro y among
    rw [all] at among
    rw [rows, activations, removals]
    by_cases same : y.user.id = target
    · rw [if_pos same, if_pos (List.mem_append_right _ (List.mem_singleton.2 same))]
    · rw [if_neg same, recorded.row y among]
      simp only [mem_concat_of_ne same]
  · intro digest
    rw [invitations]
    refine recorded.withdraw rfl (fun n => ?_) digest
    simp only [Change.activation?, Change.removal?, Option.some.injEq, reduceCtorEq, false_or,
      eq_comm]
  · rw [activations]
    exact recorded.once
  · rw [activations, all]
    exact recorded.known
  · intro id among
    rw [removals] at among
    rw [next]
    rcases List.mem_append.1 among with old | new
    · exact recorded.removed id old
    · obtain ⟨a, found⟩ := Option.isSome_iff_exists.1 stood
      rw [List.mem_singleton.1 new]
      exact Ledger.lt_next_of_get? found

end Recorded

theorem chronicle_concat (history : List Event) (e : Event) :
    chronicle (history ++ [e]) =
      chronicle history ++ (change? (ofHistory history) e).toList := yields_concat _ _ _ _

/-- Whatever an operation does is noted. -/
theorem Recorded.next {s : Store} (up : s.available = true) {cs : Chronicle}
    (recorded : Recorded cs s.tables) (e : Event) :
    Recorded (cs ++ (change? s e).toList) (e.next s).tables := by
  cases changeStep up e with
  | kept next rows invitations noted =>
    rw [noted, Option.toList_none, List.append_nil]
    exact recorded.kept next rows invitations
  | enrolled x number inactive next rows invitations noted =>
    rw [noted]
    exact recorded.enrolled number inactive next rows invitations
  | activated digest i found next rows invitations noted =>
    rw [noted]
    exact recorded.activated found next rows invitations
  | removed target stood next rows invitations noted =>
    rw [noted]
    exact recorded.taken stood next rows invitations

/-- After any history of a new store, the store holds what the chronicle of the history tells. -/
theorem recorded (history : List Event) :
    Recorded (chronicle history) (ofHistory history).tables := by
  induction history using List.reverseRecOn with
  | nil => exact recorded_new
  | append_singleton history e ih =>
    rw [chronicle_concat, ofHistory_concat]
    exact ih.next (ofHistory_available history) e

/-- The account of a number is there, and still to be activated. -/
def Dormant (t : Tables) (id : Int) : Prop :=
  ∃ a, t.accounts.get? id = some a ∧ a.user.isActive = false

theorem Recorded.dormant_iff {cs : Chronicle} {t : Tables} (recorded : Recorded cs t)
    {x : Enrolment} (registered : x ∈ cs.enrolments) :
    Dormant t x.user.id ↔ cs.settled x.user.id = false := by
  rw [Dormant, recorded.row x registered, Chronicle.settled_eq_false]
  by_cases gone : x.user.id ∈ cs.removals
  · rw [if_pos gone]
    constructor
    · rintro ⟨a, impossible, _⟩
      cases impossible
    · rintro ⟨_, stays⟩
      exact absurd gone stays
  · rw [if_neg gone]
    constructor
    · rintro ⟨a, same, inactive⟩
      cases same
      exact ⟨of_decide_eq_false inactive, gone⟩
    · rintro ⟨unactivated, _⟩
      exact ⟨_, rfl, decide_eq_false unactivated⟩

theorem activate_succeeds_iff {s : Store} (up : s.available = true) {cs : Chronicle}
    (recorded : Recorded cs s.tables) (now : Stamp) (digest : String) (id : Int) :
    (s.perform now (.activate digest)).1 = .ok id ↔
      ∃ x, cs.latest? digest = some x ∧ x.user.id = id ∧ Dormant s.tables id ∧
        now.before x.expires = true := by
  rcases perform_activate up now digest with ⟨i, found, valid, _, done⟩ | ⟨refused, failed⟩
  · rw [recorded.invitation] at found
    obtain ⟨x, opened, rfl⟩ := Option.map_eq_some_iff.1 found
    obtain ⟨last, unsettled⟩ := Chronicle.open?_eq_some.1 opened
    obtain ⟨registered, _⟩ := Chronicle.latest?_mem last
    rw [done]
    constructor
    · intro same
      cases same
      exact ⟨x, last, rfl, (recorded.dormant_iff registered).2 unsettled, valid⟩
    · rintro ⟨y, last', rfl, _, _⟩
      cases last.symm.trans last'
      rfl
  · rw [failed]
    constructor
    · intro impossible
      cases impossible
    · rintro ⟨x, last, rfl, dormant, valid⟩
      obtain ⟨registered, _⟩ := Chronicle.latest?_mem last
      have unsettled := (recorded.dormant_iff registered).1 dormant
      have opened := Chronicle.open?_eq_some.2 ⟨last, unsettled⟩
      obtain ⟨a, stored, _⟩ := dormant
      have stands : s.tables.accounts.contains x.invitation.userId = true :=
        Option.isSome_iff_exists.2 ⟨a, stored⟩
      have found : s.tables.invitations.get? digest = some x.invitation := by
        rw [recorded.invitation, opened, Option.map_some]
      exact absurd ⟨valid, stands⟩ (refused _ found)

/-- After any history of a new store, an activation succeeds exactly if the last registration with
its digest made an account that is still there and still to be activated, and has not expired; it
is answered with the number of that account, which it activates and whose invitations it takes out,
and nothing else. So no account is activated twice; one that was registered is active exactly if it
has been activated, for as long as it is there; and an activation that fails changes nothing. -/
theorem activation_needs_open_invitation (history : List Event) :
    let s := ofHistory history
    let cs := chronicle history
    (∀ now digest id, (s.perform now (.activate digest)).1 = .ok id ↔
      ∃ x, cs.latest? digest = some x ∧ x.user.id = id ∧ Dormant s.tables id ∧
        now.before x.expires = true) ∧
    (∀ now digest id, (s.perform now (.activate digest)).1 = .ok id →
      (s.perform now (.activate digest)).2 =
        s.withAccounts (s.tables.accounts.modify id Tables.activated Tables.number_activated)
          (s.tables.invitations.filter fun _ i => i.userId ≠ id)) ∧
    cs.enrolments.Pairwise (fun x y => x.user.id < y.user.id) ∧
    cs.activations.Nodup ∧
    (∀ x ∈ cs.enrolments, x.user.isActive = false ∧
      s.tables.accounts.get? x.user.id =
        if x.user.id ∈ cs.removals then none
        else some (x.account (decide (x.user.id ∈ cs.activations)))) ∧
    ∀ now digest e, (s.perform now (.activate digest)).1 = .error e →
      (s.perform now (.activate digest)).2 = s := by
  intro s cs
  have up : s.available = true := ofHistory_available history
  have holds : Recorded cs s.tables := recorded history
  refine ⟨activate_succeeds_iff up holds, ?_, holds.ordered, holds.once, ?_, ?_⟩
  · intro now digest id success
    rcases perform_activate up now digest with ⟨i, _, _, _, done⟩ | ⟨_, failed⟩
    · rw [done] at success
      cases success
      rw [done]
      rfl
    · rw [failed] at success
      cases success
  · intro x registered
    exact ⟨holds.inactive x registered, holds.row x registered⟩
  · intro now digest e failed
    exact perform_of_failed failed

/-- Of two registrations with one digest the later one is opened by it, once. -/
example :
    let moment : Stamp := ⟨0, 0⟩
    let register (name email : String) : Event :=
      ⟨moment, .createAndInvite ⟨name, email, "", "user"⟩ "d" ⟨1, 0⟩⟩
    let use : Event := ⟨moment, .activate "d"⟩
    (chronicle [register "ada" "a@", register "bob" "b@", use, use]).activations = [2] := by
  decide

end Agora.Store
