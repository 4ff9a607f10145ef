import Agora.Proofs.AccountRequests
import Agora.Proofs.DistinctAccounts

set_option autoImplicit false

namespace Agora

open Store (Change Chronicle Enrolment User)

namespace Store

/-- The store holds what a chronicle tells, and no other accounts, and can tell them apart. -/
structure Booked (cs : Chronicle) (s : Store) : Prop where
  recorded : Recorded cs s.tables
  distinct : s.tables.Distinct
  enrolled : ∀ a ∈ s.tables.accounts.rows, ∃ x ∈ cs.enrolments, x.user.id = a.user.id

theorem booked_new (s : Store) (fresh : s.tables = {}) : Booked [] s where
  recorded := fresh ▸ recorded_new
  distinct := fresh ▸ distinct_new
  enrolled := by
    rw [fresh]
    exact nofun

theorem Chronicle.enrolments_append (first second : Chronicle) :
    Chronicle.enrolments (first ++ second) = first.enrolments ++ second.enrolments :=
  List.filterMap_append

theorem Chronicle.mem_view {α : Type} {view : Change → Option α} {make : α → Change} {value : α}
    (kind : ∀ c, view c = some value ↔ c = make value) (cs : Chronicle) :
    value ∈ cs.filterMap view ↔ make value ∈ cs := by
  simp only [List.mem_filterMap, kind, exists_eq_right]

theorem Chronicle.mem_enrolments {cs : Chronicle} {x : Enrolment} :
    x ∈ cs.enrolments ↔ .enrolled x ∈ cs :=
  mem_view (fun c => by cases c <;> simp [Change.enrolment?]) cs

theorem Chronicle.mem_activations {cs : Chronicle} {id : Int} :
    id ∈ cs.activations ↔ .activated id ∈ cs :=
  mem_view (fun c => by cases c <;> simp [Change.activation?]) cs

theorem Chronicle.mem_removals {cs : Chronicle} {id : Int} :
    id ∈ cs.removals ↔ .removed id ∈ cs :=
  mem_view (fun c => by cases c <;> simp [Change.removal?]) cs

theorem Recorded.eq_of_number {cs : Chronicle} {t : Tables} (recorded : Recorded cs t)
    {x y : Enrolment} (one : x ∈ cs.enrolments) (other : y ∈ cs.enrolments)
    (same : x.user.id = y.user.id) : x = y := by
  have distinct : (cs.enrolments.map (·.user.id)).Nodup :=
    List.pairwise_map.2 (recorded.ordered.imp Int.ne_of_lt)
  exact List.inj_on_of_nodup_map distinct one other same

/-- Where nothing is seeded, the accounts that are made are those that register. -/
theorem change?_of_opened {s : Store} {e : Event} {made : Account} (unseeded : e.call.seed? = none)
    (opened : opened? s e = some made) :
    ∃ x, change? s e = some (.enrolled x) ∧ x.user = made.user := by
  obtain ⟨now, c⟩ := e
  cases c with
  | createAndInvite new digest expires =>
    obtain ⟨user, answered, rfl⟩ := Option.map_eq_some_iff.1 opened
    refine ⟨⟨user, new.passwordHash, digest, expires⟩, ?_, rfl⟩
    rw [change?, answered, Option.map_some]
  | seedUser new active => cases unseeded
  | _ => cases opened

namespace Booked

variable {cs : Chronicle} {s after : Store}

theorem same (booked : Booked cs s) (accounts : after.tables.accounts = s.tables.accounts)
    (invitations : after.tables.invitations = s.tables.invitations) : Booked cs after where
  recorded := by
    refine booked.recorded.kept ?_ ?_ invitations
    · exact Int.le_of_eq (by rw [accounts])
    · intro id _
      rw [accounts]
  distinct := by
    constructor
    · rw [accounts]
      exact booked.distinct.email
    · rw [accounts]
      exact booked.distinct.username
  enrolled := by
    rw [accounts]
    exact booked.enrolled

theorem next (booked : Booked cs s) (up : s.available = true) {e : Event}
    (unseeded : e.call.seed? = none) : Booked (cs ++ (change? s e).toList) (e.next s) where
  recorded := booked.recorded.next up e
  distinct := by
    refine distinct_next booked.distinct fun new seeded => ?_
    rw [unseeded] at seeded
    cases seeded
  enrolled := by
    intro b stored
    rw [Chronicle.enrolments_append]
    cases rowStep s e with
    | opened made number next rows noted free =>
      rw [rows] at stored
      rcases List.mem_append.1 stored with old | new
      · obtain ⟨x, among, same⟩ := booked.enrolled b old
        exact ⟨x, List.mem_append_left _ among, same⟩
      · obtain ⟨x, change, same⟩ := change?_of_opened unseeded noted
        rw [List.mem_singleton.1 new, change]
        exact ⟨x, List.mem_append_right _ List.mem_cons_self, congrArg User.id same⟩
    | aged next rows noted =>
      obtain ⟨a, old, aged⟩ := rows b stored
      obtain ⟨x, among, same⟩ := booked.enrolled a old
      exact ⟨x, List.mem_append_left _ among, same.trans aged.number.symm⟩

end Booked

end Store

namespace Service

open Credential (Invitation)
open Http (Request Response isSuccess)
open Store (Booked)

/-- The change that an event makes to accounts. -/
def Event.change? (setting : Setting) (s : State) : Event → Option Change
  | .request o q =>
    if isSuccess (respond (setting.env o) q s).1.status then
      (accountCall? (setting.env o) q).bind fun c => Store.change? s.store ⟨o.now, c⟩
    else none
  | _ => none

def Event.seeds : Event → Bool
  | .seed .. => true
  | _ => false

namespace Setting

variable (setting : Setting)

/-- The changes that events make to accounts, in order. -/
def changes : State → List Event → Chronicle
  | _, [] => []
  | s, e :: rest => (e.change? setting s).toList ++ changes (e.next setting s) rest

/-- The changes of a session. -/
def chronicle (history : List Event) : Chronicle :=
  setting.changes (State.ofConfig setting.config) history

theorem changes_append (s : State) (first second : List Event) :
    setting.changes s (first ++ second) =
      setting.changes s first ++ setting.changes (setting.after s first) second := by
  induction first generalizing s with
  | nil => rfl
  | cons e rest ih =>
    rw [List.cons_append, changes, changes, ih, List.append_assoc]
    rfl

/-- The changes that there were before an event, the event's own, and those after it. -/
theorem chronicle_append_cons (before rest : List Event) (e : Event) :
    setting.chronicle (before ++ e :: rest) =
      setting.chronicle before ++ ((e.change? setting (setting.course before)).toList ++
        setting.changes (e.next setting (setting.course before)) rest) :=
  setting.changes_append _ _ _

theorem mem_changes {c : Change} {s : State} {history : List Event} :
    c ∈ setting.changes s history ↔ ∃ before e rest, history = before ++ e :: rest ∧
      e.change? setting (setting.after s before) = some c := by
  induction history generalizing s with
  | nil =>
    constructor
    · intro impossible
      cases impossible
    · rintro ⟨before, e, rest, moment, _⟩
      cases before <;> cases moment
  | cons e rest ih =>
    rw [changes, List.mem_append, Option.mem_toList, ih]
    constructor
    · rintro (now | ⟨before, later, rest, rfl, noted⟩)
      · exact ⟨[], e, rest, rfl, now⟩
      · exact ⟨e :: before, later, rest, rfl, noted⟩
    · rintro ⟨before, later, rest', moment, noted⟩
      cases before with
      | nil =>
        cases moment
        exact .inl noted
      | cons first before =>
        cases moment
        exact .inr ⟨before, later, rest', rfl, noted⟩

end Setting

/-- No request comes to an account that is seeded. -/
theorem accountCall?_seed {env : Env} {q : Request} {c : Store.Call}
    (comes : accountCall? env q = some c) : c.seed? = none := by
  unfold accountCall? at comes
  split at comes
  · simp only [Option.bind_eq_bind, Option.bind_eq_some_iff, Option.pure_def,
      Option.some.injEq] at comes
    obtain ⟨_, _, _, _, rfl⟩ := comes
    rfl
  · obtain ⟨_, _, rfl⟩ := Option.map_eq_some_iff.1 comes
    rfl
  · obtain ⟨_, _, rfl⟩ := Option.map_eq_some_iff.1 comes
    rfl
  · cases comes

theorem Event.next_booked (setting : Setting) {cs : Chronicle} {s : State}
    (booked : Booked cs s.store) {e : Event} (unseeded : e.seeds = false) :
    Booked (cs ++ (e.change? setting s).toList) (e.next setting s).store := by
  have silent (e : Event) (none : e.change? setting s = none) :
      cs ++ (e.change? setting s).toList = cs := by
    rw [none, Option.toList_none, List.append_nil]
  cases e with
  | request o q =>
    rcases respond_registry (setting.env o) q s with
      ⟨c, a, comes, success, performed⟩ | ⟨idle, accounts, invitations⟩
    · have up : s.store.available = true := Store.available_of_ok performed
      have noted : (Event.request o q).change? setting s = Store.change? s.store ⟨o.now, c⟩ := by
        rw [change?, if_pos success, comes, Option.bind_some]
      have next : (Event.next setting s (.request o q)).store = Store.Event.next s.store ⟨o.now, c⟩ :=
        (congrArg Prod.snd performed).symm
      rw [noted, next]
      exact booked.next up (accountCall?_seed comes)
    · have noted : (Event.request o q).change? setting s = none := by
        rw [change?]
        split
        · rename_i success
          rw [idle success, Option.bind_none]
        · rfl
      rw [silent _ noted]
      exact booked.same accounts invitations
  | seed o new active => cases unseeded
  | putRole o name level =>
    obtain ⟨accounts, invitations⟩ :=
      @Store.perform_registry s.store o.now (.putRole name level) rfl
    rw [silent (.putRole o name level) rfl]
    exact booked.same accounts invitations
  | setAvailable up =>
    rw [silent (.setAvailable up) rfl]
    exact booked.same rfl rfl
  | advance span =>
    rw [silent (.advance span) rfl, Event.next, State.advance, State.rest_store]
    exact booked

theorem Setting.after_booked (setting : Setting) {cs : Chronicle} {s : State}
    (booked : Booked cs s.store) {history : List Event}
    (unseeded : ∀ e ∈ history, e.seeds = false) :
    Booked (cs ++ setting.changes s history) (setting.after s history).store := by
  induction history generalizing cs s with
  | nil =>
    rw [changes, List.append_nil]
    exact booked
  | cons e rest ih =>
    have once := e.next_booked setting booked (unseeded e List.mem_cons_self)
    rw [changes, ← List.append_assoc]
    exact ih once fun later among => unseeded later (List.mem_cons_of_mem e among)

/-- What a session that seeds no accounts has come to is what its chronicle tells. -/
theorem Setting.course_booked (setting : Setting) {history : List Event}
    (unseeded : ∀ e ∈ history, e.seeds = false) :
    Booked (setting.chronicle history) (setting.course history).store :=
  setting.after_booked (Store.booked_new _ rfl) unseeded

/-- The request registers a person, and is answered so, with a token. -/
structure Registers (env : Env) (q : Request) (s : State) (r : Registration) (user : User)
    (token hash : String) : Prop where
  posts : q.method = .post
  found : resource? env.config q = some .registration
  read : Registration.ofRequest env.config.listener.maxBodySize q = .ok r
  hashed : env.hasher.hash r.password env.config.auth.passwordCost env.draws.salt = .ok hash
  status : (respond env q s).1.status = 201
  body : (respond env q s).1.body =
    .json (.object [("data", .object (user.members ++ [("token", .string token)]))])

/-- The request uses an invitation by its token, and is answered so. -/
structure Redeems (env : Env) (q : Request) (s : State) (token : String) : Prop where
  puts : q.method = .put
  found : ∃ segment, resource? env.config q = some (.activation segment) ∧
    Http.pathText? segment = some token
  status : (respond env q s).1.status = 200

/-- The request takes the account of a number out, and is answered so. -/
structure Expels (env : Env) (q : Request) (s : State) (id : Int) : Prop where
  deletes : q.method = .delete
  found : ∃ segment, resource? env.config q = some (.account segment) ∧ names segment id
  status : (respond env q s).1.status = 204

section

variable {setting : Setting} {s : State} {o : Occasion} {q : Request}

theorem change?_of_call {c : Store.Call} (success : isSuccess (respond (setting.env o) q s).1.status)
    (comes : accountCall? (setting.env o) q = some c) :
    (Event.request o q).change? setting s = Store.change? s.store ⟨o.now, c⟩ := by
  rw [Event.change?, if_pos success, comes, Option.bind_some]

theorem Registers.unique {env : Env} {r r' : Registration} {user user' : User}
    {token token' hash hash' : String} (one : Registers env q s r user token hash)
    (other : Registers env q s r' user' token' hash') :
    r = r' ∧ user.id = user'.id ∧ token = token' ∧ hash = hash' := by
  have read := one.read.symm.trans other.read
  cases read
  have hashed := one.hashed.symm.trans other.hashed
  cases hashed
  have body := one.body.symm.trans other.body
  simp only [User.members, List.cons_append, List.nil_append, Http.Body.json.injEq,
    Json.Value.object.injEq, List.cons.injEq, Prod.mk.injEq, Json.Value.whole.injEq,
    Json.Value.string.injEq, true_and, and_true] at body
  exact ⟨rfl, body.1, body.2.2.2.2.2.2, rfl⟩

/-- A registration that succeeds: what is noted of it, and what the answer tells. -/
theorem registration_change (found : resource? setting.config q = some .registration)
    (success : isSuccess (respond (setting.env o) q s).1.status) :
    ∃ r x, Registers (setting.env o) q s r x.user
        (Invitation.ofDraw o.draws.invitation).token x.passwordHash ∧
      (Event.request o q).change? setting s = some (.enrolled x) ∧
      x.digest = (Invitation.ofDraw o.draws.invitation).digest ∧ x.user.email = r.email := by
  obtain ⟨r, hash, user, posts, read, hashed, comes, performed, answered⟩ :=
    @registration_of_success (setting.env o) q s found success
  have whole : q.method ≠ .head := by
    rw [posts]
    decide
  refine ⟨r, ⟨user, hash, (Invitation.ofDraw o.draws.invitation).digest,
    o.now.plus setting.config.auth.invitationTtl⟩, ⟨posts, found, read, hashed, ?_, ?_⟩, ?_, rfl, ?_⟩
  · rw [answered, finish_status]
    rfl
  · rw [answered, finish_body, if_neg whole]
    rfl
  · have made : (s.store.perform o.now (registering (setting.env o) r hash)).1 = .ok user :=
      congrArg Prod.fst performed
    have noted : Store.change? s.store ⟨o.now, registering (setting.env o) r hash⟩ =
        (s.store.perform o.now (registering (setting.env o) r hash)).1.toOption.map fun user =>
          .enrolled ⟨user, hash, (Invitation.ofDraw o.draws.invitation).digest,
            o.now.plus setting.config.auth.invitationTtl⟩ := rfl
    rw [change?_of_call success comes, noted, made]
    rfl
  · exact Store.email_of_createAndInvite (Store.available_of_ok performed) o.now performed

/-- The use of an invitation that succeeds: what is noted of it, and what the answer tells. -/
theorem activation_change {segment : String}
    (found : resource? setting.config q = some (.activation segment))
    (success : isSuccess (respond (setting.env o) q s).1.status) :
    ∃ token id, Http.pathText? segment = some token ∧ Redeems (setting.env o) q s token ∧
      (Event.request o q).change? setting s = some (.activated id) ∧
      s.store.perform o.now (.activate (Credential.hashToken token)) =
        (.ok id, (respond (setting.env o) q s).2.store) := by
  obtain ⟨token, id, puts, text, comes, performed, answered⟩ :=
    @activation_of_success (setting.env o) q s segment found success
  refine ⟨token, id, text, ⟨puts, ⟨segment, found, text⟩, ?_⟩, ?_, performed⟩
  · rw [answered, finish_status]
    rfl
  · have made : (s.store.perform o.now (.activate (Credential.hashToken token))).1 = .ok id :=
      congrArg Prod.fst performed
    rw [change?_of_call success comes, Store.change?, made]
    rfl

/-- The deletion of an account that succeeds: what is noted of it, and what the answer tells. -/
theorem account_change {segment : String}
    (found : resource? setting.config q = some (.account segment))
    (success : isSuccess (respond (setting.env o) q s).1.status) :
    ∃ id, names segment id ∧ Expels (setting.env o) q s id ∧
      (Event.request o q).change? setting s = some (.removed id) := by
  obtain ⟨id, deletes, named, comes, performed, answered⟩ :=
    @account_of_success (setting.env o) q s segment found success
  refine ⟨id, named, ⟨deletes, ⟨segment, found, named⟩, ?_⟩, ?_⟩
  · rw [answered, finish_status]
    rfl
  · have made : (s.store.perform o.now (.deleteUser id)).1 = .ok () :=
      congrArg Prod.fst performed
    rw [change?_of_call success comes, Store.change?, made]
    rfl

/-- Only requests to the three resources are noted, and only if they succeed. -/
theorem request_of_change {e : Event} {c : Change} (noted : e.change? setting s = some c) :
    ∃ o q r, e = .request o q ∧ isSuccess (respond (setting.env o) q s).1.status = true ∧
      resource? setting.config q = some r ∧ r.registers = true := by
  cases e with
  | request o q =>
    rw [Event.change?] at noted
    split at noted
    · rename_i success
      by_cases other : ∀ r, resource? setting.config q = some r → r.registers = false
      · rw [@accountCall?_of_bystander (setting.env o) q other] at noted
        cases noted
      · simp only [not_forall, Bool.not_eq_false] at other
        obtain ⟨r, found, concerns⟩ := other
        exact ⟨o, q, r, rfl, success, found, concerns⟩
    · cases noted
  | _ => cases noted

end

/-- What is noted of an event, the answer tells. -/
theorem change_cases {setting : Setting} {s : State} {e : Event} {c : Change}
    (noted : e.change? setting s = some c) : ∃ o q, e = .request o q ∧
      ((∃ r x, c = .enrolled x ∧ Registers (setting.env o) q s r x.user
          (Invitation.ofDraw o.draws.invitation).token x.passwordHash ∧
          x.digest = (Invitation.ofDraw o.draws.invitation).digest ∧ x.user.email = r.email) ∨
        (∃ id token, c = .activated id ∧ Redeems (setting.env o) q s token ∧
          s.store.perform o.now (.activate (Credential.hashToken token)) =
            (.ok id, (respond (setting.env o) q s).2.store)) ∨
        ∃ id, c = .removed id ∧ Expels (setting.env o) q s id) := by
  obtain ⟨o, q, r, rfl, success, found, concerns⟩ := request_of_change noted
  refine ⟨o, q, rfl, ?_⟩
  cases r with
  | registration =>
    obtain ⟨r, x, registers, change, digest, email⟩ := registration_change found success
    cases noted.symm.trans change
    exact .inl ⟨r, x, rfl, registers, digest, email⟩
  | activation segment =>
    obtain ⟨token, id, _, redeems, change, performed⟩ := activation_change found success
    cases noted.symm.trans change
    exact .inr (.inl ⟨id, token, rfl, redeems, performed⟩)
  | account segment =>
    obtain ⟨id, _, expels, change⟩ := account_change found success
    cases noted.symm.trans change
    exact .inr (.inr ⟨id, rfl, expels⟩)
  | _ => cases concerns

section

variable (setting : Setting) (history : List Event)

/-- A registration of the session was answered with a user and a token. -/
def Registered (r : Registration) (user : User) (token hash : String) : Prop :=
  ∃ before o q rest, history = before ++ .request o q :: rest ∧
    Registers (setting.env o) q (setting.course before) r user token hash

/-- An invitation was used in the session, by its token. -/
def Redeemed (token : String) : Prop :=
  ∃ before o q rest, history = before ++ .request o q :: rest ∧
    Redeems (setting.env o) q (setting.course before) token

def digest? : Event → Option String
  | .request o q =>
    if q.method = .post ∧ resource? setting.config q = some .registration then
      some (Invitation.ofDraw o.draws.invitation).digest
    else none
  | _ => none

/-- The digests of the invitations that are drawn for the registrations of a session. -/
def drawnDigests : List String := history.filterMap (digest? setting)

end

section

variable {setting : Setting} {history : List Event}

theorem mem_chronicle {c : Change} :
    c ∈ setting.chronicle history ↔ ∃ before e rest, history = before ++ e :: rest ∧
      e.change? setting (setting.course before) = some c := setting.mem_changes

theorem registered_of_enrolled {x : Enrolment}
    (among : x ∈ (setting.chronicle history).enrolments) :
    ∃ r token, Registered setting history r x.user token x.passwordHash ∧
      x.digest = Credential.hashToken token ∧ x.user.email = r.email := by
  obtain ⟨before, e, rest, moment, noted⟩ := mem_chronicle.1 (Chronicle.mem_enrolments.1 among)
  obtain ⟨o, q, rfl, told⟩ := change_cases noted
  rcases told with ⟨r, y, same, registers, digest, email⟩ | ⟨id, token, other, _⟩ | ⟨id, other, _⟩
  · cases same
    exact ⟨r, _, ⟨before, o, q, rest, moment, registers⟩, digest, email⟩
  · cases other
  · cases other

theorem enrolled_of_registered {r : Registration} {user : User} {token hash : String}
    (registered : Registered setting history r user token hash) :
    ∃ x ∈ (setting.chronicle history).enrolments, x.user.id = user.id ∧ x.passwordHash = hash ∧
      x.digest = Credential.hashToken token ∧ x.user.email = r.email := by
  obtain ⟨before, o, q, rest, moment, registers⟩ := registered
  have success := isSuccess_of_status registers.status rfl
  obtain ⟨r', x, told, noted, digest, email⟩ := registration_change registers.found success
  obtain ⟨rfl, number, drawn, rfl⟩ := registers.unique told
  refine ⟨x, ?_, number.symm, rfl, ?_, email⟩
  · exact Chronicle.mem_enrolments.2 (mem_chronicle.2 ⟨before, _, rest, moment, noted⟩)
  · rw [digest, drawn]
    rfl

theorem expelled_iff {id : Int} :
    Expelled setting history id ↔ id ∈ (setting.chronicle history).removals := by
  rw [Chronicle.mem_removals, mem_chronicle]
  constructor
  · rintro ⟨before, o, q, rest, segment, moment, _, found, named, status⟩
    have success := isSuccess_of_status status rfl
    obtain ⟨other, alsoNamed, _, noted⟩ := account_change found success
    rw [names_unique named alsoNamed] at noted
    exact ⟨before, _, rest, moment, noted⟩
  · rintro ⟨before, e, rest, moment, noted⟩
    obtain ⟨o, q, rfl, told⟩ := change_cases noted
    rcases told with ⟨r, y, other, _⟩ | ⟨n, token, other, _⟩ | ⟨n, same, expels⟩
    · cases other
    · cases other
    · cases same
      obtain ⟨segment, found, named⟩ := expels.found
      exact ⟨before, o, q, rest, segment, moment, expels.deletes, found, named, expels.status⟩

theorem enrolled_mono {before rest : List Event} {e : Event} {x : Enrolment}
    (among : x ∈ (setting.chronicle before).enrolments) :
    x ∈ (setting.chronicle (before ++ e :: rest)).enrolments := by
  rw [Setting.chronicle_append_cons, Chronicle.enrolments_append]
  exact List.mem_append_left _ among

/-- Whoever uses an invitation in a session that seeds no accounts activates someone whose
registration was answered with its token, or one of the same digest. -/
theorem activation_of_registered {before rest : List Event} {e : Event}
    (unseeded : ∀ one ∈ before ++ e :: rest, one.seeds = false) {now : Time.Stamp} {digest : String}
    {id : Int} {after : Store}
    (performed : (setting.course before).store.perform now (.activate digest) = (.ok id, after)) :
    ∃ x ∈ (setting.chronicle (before ++ e :: rest)).enrolments,
      x.user.id = id ∧ x.digest = digest := by
  have booked := setting.course_booked fun one among => unseeded one (List.mem_append_left _ among)
  have up := Store.available_of_ok performed
  obtain ⟨x, last, same, _⟩ := (Store.activate_succeeds_iff up booked.recorded now digest id).1
    (congrArg Prod.fst performed)
  obtain ⟨registered, sameDigest⟩ := Chronicle.latest?_mem last
  exact ⟨x, enrolled_mono registered, same, sameDigest⟩

theorem redeemed_of_activated (unseeded : ∀ e ∈ history, e.seeds = false) {id : Int}
    (among : id ∈ (setting.chronicle history).activations) :
    ∃ token, Redeemed setting history token ∧
      ∃ x ∈ (setting.chronicle history).enrolments,
        x.user.id = id ∧ x.digest = Credential.hashToken token := by
  obtain ⟨before, e, rest, rfl, noted⟩ := mem_chronicle.1 (Chronicle.mem_activations.1 among)
  obtain ⟨o, q, rfl, told⟩ := change_cases noted
  rcases told with ⟨r, y, other, _⟩ | ⟨n, token, same, redeems, performed⟩ | ⟨n, other, _⟩
  · cases other
  · cases same
    exact ⟨token, ⟨before, o, q, rest, rfl, redeems⟩, activation_of_registered unseeded performed⟩
  · cases other

theorem activated_of_redeemed (unseeded : ∀ e ∈ history, e.seeds = false) {token : String}
    (redeemed : Redeemed setting history token) :
    ∃ x ∈ (setting.chronicle history).enrolments,
      x.digest = Credential.hashToken token ∧
        x.user.id ∈ (setting.chronicle history).activations := by
  obtain ⟨before, o, q, rest, rfl, redeems⟩ := redeemed
  obtain ⟨segment, found, text⟩ := redeems.found
  have success := isSuccess_of_status redeems.status rfl
  obtain ⟨token', id, text', _, noted, performed⟩ := activation_change found success
  cases text.symm.trans text'
  obtain ⟨x, registered, same, digest⟩ := activation_of_registered unseeded performed
  refine ⟨x, registered, digest, ?_⟩
  rw [same]
  exact Chronicle.mem_activations.2 (mem_chronicle.2 ⟨before, _, rest, rfl, noted⟩)

theorem enrolments_digests (s : State) (history : List Event) :
    List.Sublist ((Chronicle.enrolments (setting.changes s history)).map (·.digest))
      (drawnDigests setting history) := by
  induction history generalizing s with
  | nil => exact .slnil
  | cons e rest ih =>
    rw [Setting.changes, Chronicle.enrolments_append, List.map_append]
    have cons : drawnDigests setting (e :: rest) =
        (digest? setting e).toList ++ drawnDigests setting rest := by
      rw [drawnDigests, drawnDigests, List.filterMap_cons]
      cases digest? setting e <;> rfl
    rw [cons]
    refine List.Sublist.append ?_ (ih _)
    cases noted : e.change? setting s with
    | none => exact List.nil_sublist _
    | some c =>
      obtain ⟨o, q, rfl, told⟩ := change_cases noted
      rcases told with ⟨r, x, rfl, registers, digest, _⟩ | ⟨id, token, rfl, _⟩ | ⟨id, rfl, _⟩
      · have drawn : digest? setting (.request o q) = some x.digest := by
          rw [digest?, if_pos ⟨registers.posts, registers.found⟩, digest]
        rw [drawn]
        exact List.Sublist.refl _
      · exact List.nil_sublist _
      · exact List.nil_sublist _

/-- Where no digest is drawn twice, one digest has one registration. -/
theorem eq_of_digest (apart : (drawnDigests setting history).Nodup) {x y : Enrolment}
    (one : x ∈ (setting.chronicle history).enrolments)
    (other : y ∈ (setting.chronicle history).enrolments) (same : x.digest = y.digest) : x = y := by
  have drawn := @enrolments_digests setting (State.ofConfig setting.config) history
  exact List.inj_on_of_nodup_map (drawn.nodup apart) one other same

end

end Service

end Agora
