import Agora.Proofs.CacheDiscipline
import Agora.Proofs.PostGates

/-!
Deleting an account while its user is being authenticated. What is atomic is a step, so requests
that are under way together take turns on one state, in any order. A reader that has loaded the user
before the account is deleted may keep it after the entry has been dropped, and then the deleted
user is authenticated for as long as the entry lives; in every other order of the steps the deletion
leaves no entry behind.
-/

set_option autoImplicit false

namespace Agora.Service

open Http (Response)
open Store (Account User)
open Time (Span)

namespace Plan

/-- A turn of a plan, which nothing cuts off: what is left of it, the state then, and the step that
was taken unless the plan had ended. -/
def turn {α : Type} (env : Env) : Plan α → State → Plan α × State × Option Step
  | .step first next, s =>
    match first.perform env none s with
    | (some answer, after) => (next answer, after, some first)
    | (none, after) => (.step first next, after, none)
  | ended, s => (ended, s, none)

/-- The plan has no step left. -/
def Ended {α : Type} : Plan α → Prop
  | .step _ _ => False
  | _ => True

end Plan

theorem Step.perform_uncut (env : Env) (step : Step) (s : State) :
    ∃ answer after, step.perform env none s = (some answer, after) := by
  cases step with
  | call c => exact performCall_uncut env c s
  | _ => exact ⟨_, _, rfl⟩

/-- A plan that has taken a turn goes on as it would have without. -/
theorem Plan.run_turn {α : Type} (env : Env) (p : Plan α) (s : State) :
    (p.turn env s).1.run env none (p.turn env s).2.1 = p.run env none s := by
  cases p with
  | done value => rfl
  | halt why => rfl
  | step first next =>
    obtain ⟨answer, after, performed⟩ := first.perform_uncut env s
    simp only [turn, run, performed]

/-- Who is under way: some readers of one user, and the operator who deletes the account. -/
inductive Party (n : Nat) where
  | reader (i : Fin n)
  | deleter

structure Act (n : Nat) where
  who : Party n
  step : Step

/-- What is left to be done, the state that is shared, and the steps so far in their order. -/
structure Pool (n : Nat) where
  readers : Fin n → Plan (Except Store.Error User)
  deleter : Plan Response
  state : State
  log : List (Act n) := []

namespace Pool

variable {n : Nat}

def start (id : Int) (segment : String) (s : State) : Pool n where
  readers _ := resolve id
  deleter := deleteAccount segment
  state := s

def turn (env : Party n → Env) (p : Pool n) : Party n → Pool n
  | .reader i =>
    let (left, state, taken) := (p.readers i).turn (env (.reader i)) p.state
    { p with
      readers := fun j => if j = i then left else p.readers j
      state
      log := p.log ++ taken.toList.map (⟨.reader i, ·⟩) }
  | .deleter =>
    let (left, state, taken) := p.deleter.turn (env .deleter) p.state
    { p with deleter := left, state, log := p.log ++ taken.toList.map (⟨.deleter, ·⟩) }

/-- The parties take turns in the order of a schedule. -/
def run (env : Party n → Env) (schedule : List (Party n)) (p : Pool n) : Pool n :=
  schedule.foldl (turn env) p

/-- All parties have come to their end. -/
structure Finished (p : Pool n) : Prop where
  readers : ∀ i, (p.readers i).Ended
  deleter : p.deleter.Ended

end Pool

section

variable {n : Nat} {id : Int} {a : Account}

/-- A reader has loaded the user before the account was deleted, and keeps it after the entry was
dropped. -/
def Straddled (id : Int) (log : List (Act n)) : Prop :=
  ∃ i u, [⟨.reader i, .call (.user id)⟩, ⟨.deleter, .call (.deleteUser id)⟩,
    ⟨.deleter, .evict id⟩, ⟨.reader i, .keep u⟩].Sublist log

/-- The cache holds no entry of a number, and whenever a request may start, it is not authenticated
as the user of the number. -/
structure Invalidated (id : Int) (s : State) : Prop where
  dropped : s.identities.held? id = none
  refused : ∀ env cutoff span user,
    ((resolve id).run env cutoff (s.advance span)).1 ≠ .done (.ok user)

/-- The cache is there, a user that the parties keep in it lives for a while, and it can be read
back. -/
structure Lasting (env : Party n → Env) (u : User) (s : State) : Prop where
  enabled : s.identities.backend.isSome = true
  positive : ∀ who, 0 < s.identities.lifetime (env who).draws.jitter
  inRange : ∀ who, s.clock + s.identities.lifetime (env who).draws.jitter < Time.clockEnd
  readable : u.Storable
  proper : u.createdAt.Proper

/-- What is left for a reader whom the cache does not give the user. -/
def load (id : Int) : Plan (Except Store.Error User) :=
  .step (.call (.user id)) fun
    | .ok user => .step (.keep user) fun () => .done (.ok user)
    | .error e => .done (.error e)

/-- What is left for a reader when the cache has answered. -/
def look (id : Int) : Option User → Plan (Except Store.Error User)
  | some user => .done (.ok user)
  | none => load id

/-- What is left of a deletion once the account is gone. -/
def drop (id : Int) : Plan Response := .step (.evict id) fun () => .done (.ofStatus 204)

inductive Phase where
  | before
  | between
  | after
  deriving DecidableEq

namespace Phase

/-- What is left of the deletion. -/
def left (id : Int) : Phase → Plan Response
  | .before => .step (.call (.deleteUser id)) fun
    | .ok () => drop id
    | .error e => Plan.fail (.ofStore e)
  | .between => drop id
  | .after => .done (.ofStatus 204)

def acts (id : Int) : Phase → List (Act n)
  | .before => []
  | .between => [⟨.deleter, .call (.deleteUser id)⟩]
  | .after => [⟨.deleter, .call (.deleteUser id)⟩, ⟨.deleter, .evict id⟩]

def stored (a : Account) : Phase → Option Account
  | .before => some a
  | _ => none

end Phase

section

variable {env : Env} {s : State}

theorem deleteAccount_of_names {segment : String} (named : names segment id) :
    deleteAccount segment = Phase.before.left id := by
  rw [deleteAccount, pathId_of_names named]
  change Plan.step (.call (.deleteUser id)) _ = Plan.step (.call (.deleteUser id)) _
  refine congrArg (Plan.step (.call (.deleteUser id))) (funext fun answer => ?_)
  cases answer with
  | ok nothing => rfl
  | error e => rfl

theorem turn_resolve (env : Env) (id : Int) (s : State) :
    (resolve id).turn env s =
      (look id (s.identities.lookUp s.clock id).1.2, s.looked id, some (.lookUp id)) := by
  have same : resolve id = .step (.lookUp id) (look id) := by
    refine congrArg (Plan.step (.lookUp id)) (funext fun found => ?_)
    cases found with
    | some user => rfl
    | none =>
      refine congrArg (Plan.step (.call (.user id))) (funext fun answer => ?_)
      cases answer with
      | ok user => rfl
      | error e => rfl
  rw [same]
  rfl

theorem turn_load (prompt : env.delay = 0) (up : s.store.available = true) (id : Int) :
    (load id).turn env s =
      (match s.store.tables.accounts.get? id with
        | some a => .step (.keep a.user) fun () => .done (.ok a.user)
        | none => .done (.error .notFound), s, some (.call (.user id))) := by
  simp only [load, Plan.turn, Step.perform]
  rw [performCall_of_prompt prompt, Store.perform_user up]
  cases s.store.tables.accounts.get? id with
  | none => rfl
  | some a => rfl

theorem turn_delete (prompt : env.delay = 0) (up : s.store.available = true)
    (stored : s.store.tables.accounts.get? id = some a) :
    ∃ t, (Phase.before.left id).turn env s =
        (Phase.between.left id, { s with store := t }, some (.call (.deleteUser id))) ∧
      t.available = true ∧ t.tables.accounts.get? id = none := by
  have stands : s.store.tables.accounts.contains id = true := by
    rw [Table.Ledger.contains, stored]
    rfl
  have made : s.store.perform env.now (.deleteUser id) =
      (.ok (), (s.store.perform env.now (.deleteUser id)).2) := by
    rw [Store.perform_of_ok up]
    simp only [Store.Tables.apply, Store.Tables.deleteUser, stands, ↓reduceIte]
    rfl
  refine ⟨(s.store.perform env.now (.deleteUser id)).2, ?_,
    (Store.perform_available _ _ _).trans up, (Store.vacant_of_perform_deleteUser made).missing⟩
  simp only [Phase.left, Plan.turn, Step.perform]
  rw [performCall_of_prompt prompt, made]

end

/-- How far a reader has come. It is about to keep the user only if it has loaded it. -/
inductive Reading (id : Int) (a : Account) (loaded : Prop) :
    Plan (Except Store.Error User) → Prop where
  | begun : Reading id a loaded (resolve id)
  | missed : Reading id a loaded (load id)
  | holding (saw : loaded) : Reading id a loaded (.step (.keep a.user) fun () => .done (.ok a.user))
  | ended (found : Except Store.Error User) : Reading id a loaded (.done found)

theorem Reading.mono {before after : Prop} (grows : before → after)
    {p : Plan (Except Store.Error User)} (reading : Reading id a before p) :
    Reading id a after p := by
  cases reading with
  | begun => exact .begun
  | missed => exact .missed
  | holding saw => exact .holding (grows saw)
  | ended found => exact .ended found

/-- The cache holds a user under a number, and has not for too long. -/
def Holds (id : Int) (u : User) (s : State) : Prop :=
  ∃ e, s.identities.held? id = some e ∧ e.payload = u.encode ∧
    Cache.Backend.fresh s.clock e = true

/-- What the cache holds of the user once the deletion has come to its end: nothing without a
straddle, and with one the user, given that what is kept lasts. -/
structure Settled (lasts : Prop) (id : Int) (a : Account) (s : State) (log : List (Act n)) :
    Prop where
  dropped : ¬Straddled id log → s.identities.held? id = none
  stale : lasts → Straddled id log → Holds id a.user s

/-- What is so at every moment while the parties take turns. -/
structure Under (lasts : Prop) (env : Party n → Env) (id : Int) (a : Account) (phase : Phase)
    (p : Pool n) : Prop where
  deleter : p.deleter = phase.left id
  up : p.state.store.available = true
  stored : p.state.store.tables.accounts.get? id = phase.stored a
  readers : ∀ i, Reading id a
    ((⟨.reader i, .call (.user id)⟩ :: phase.acts id).Sublist p.log) (p.readers i)
  lasting : lasts → Lasting env a.user p.state
  clean : phase ≠ .after → ⟨.deleter, .evict id⟩ ∉ p.log
  settled : phase = .after → Settled lasts id a p.state p.log

section

variable {lasts : Prop} {env : Party n → Env} {phase : Phase} {p : Pool n} {log : List (Act n)}

theorem sublist_of_concat {β : Type} {l m : List β} {x y : β} (other : x ≠ y)
    (sub : (l ++ [x]).Sublist (m ++ [y])) : (l ++ [x]).Sublist m := by
  rw [← List.reverse_sublist, List.reverse_append, List.reverse_append] at sub
  rw [← List.reverse_sublist, List.reverse_append]
  rcases List.sublist_cons_iff.1 sub with earlier | ⟨rest, same, _⟩
  · exact earlier
  · exact absurd (List.cons.inj same).1 other

/-- Only what is kept completes a straddle. -/
theorem straddled_concat {act : Act n} (other : ∀ u, act.step ≠ .keep u) :
    Straddled id (log ++ [act]) ↔ Straddled id log := by
  constructor
  · rintro ⟨i, u, sub⟩
    have apart : (⟨.reader i, .keep u⟩ : Act n) ≠ act := fun same => other u (by rw [← same])
    exact ⟨i, u, sublist_of_concat (l := [_, _, _]) apart sub⟩
  · rintro ⟨i, u, sub⟩
    exact ⟨i, u, List.sublist_append_of_sublist_left sub⟩

theorem Lasting.next {u : User} {s t : State} (lasting : Lasting env u s)
    (clock : t.clock = s.clock)
    (enabled : t.identities.backend.isSome = s.identities.backend.isSome)
    (lifetime : ∀ draw, t.identities.lifetime draw = s.identities.lifetime draw) :
    Lasting env u t := by
  refine ⟨enabled.trans lasting.enabled, fun who => ?_, fun who => ?_, lasting.readable,
    lasting.proper⟩
  · rw [lifetime]
    exact lasting.positive who
  · rw [clock, lifetime]
    exact lasting.inRange who

theorem Lasting.looked {u : User} {s : State} (lasting : Lasting env u s) (id : Int) :
    Lasting env u (s.looked id) := by
  have kept := Cache.Identities.lookUp_kept s.identities s.clock id
  exact lasting.next rfl kept.1 kept.2

theorem Lasting.kept {u : User} {s : State} (lasting : Lasting env u s) (e : Env) (v : User) :
    Lasting env u (s.kept e v) :=
  lasting.next rfl Option.isSome_map fun _ => rfl

theorem Lasting.evict {u : User} {s : State} (lasting : Lasting env u s) (id : Int) :
    Lasting env u { s with identities := s.identities.evict id } :=
  lasting.next rfl Option.isSome_map fun _ => rfl

theorem Settled.concat {s : State} {act : Act n} (settled : Settled lasts id a s log)
    (other : ∀ u, act.step ≠ .keep u) : Settled lasts id a s (log ++ [act]) :=
  ⟨fun apart => settled.dropped fun straddled => apart ((straddled_concat other).2 straddled),
    fun well straddled => settled.stale well ((straddled_concat other).1 straddled)⟩

theorem Holds.lookUp {s : State} {u : User} (holds : Holds id u s) (readable : u.Storable)
    (proper : u.createdAt.Proper) : (s.identities.lookUp s.clock id).1.2 = some u := by
  obtain ⟨e, held, payload, fresh⟩ := holds
  rw [Cache.Identities.lookUp_eq, held, Option.bind_some, fresh, if_pos rfl, payload,
    User.decode?_encode proper, if_pos readable]

/-- A look-up finds the entry that a straddle has left, and otherwise nothing. -/
theorem Settled.looked {s : State} (settled : Settled lasts id a s log)
    (lasting : lasts → Lasting env a.user s) : Settled lasts id a (s.looked id) log := by
  have held : (s.looked id).identities.held? id =
      if (s.identities.lookUp s.clock id).1.2 = none then none else s.identities.held? id := by
    refine (Cache.Identities.held?_lookUp s.identities s.clock id id).trans ?_
    simp only [true_and]
  refine ⟨fun apart => ?_, fun well straddled => ?_⟩
  · rw [held, settled.dropped apart, ite_self]
  · have hit := (settled.stale well straddled).lookUp (lasting well).readable (lasting well).proper
    obtain ⟨e, found, payload, fresh⟩ := settled.stale well straddled
    refine ⟨e, ?_, payload, fresh⟩
    rw [held, hit, if_neg nofun, found]

/-- A user that is kept late is held, given that what is kept lasts. -/
theorem Settled.kept {s : State} (straddled : Straddled id log) (number : a.user.id = id)
    (lasting : lasts → Lasting env a.user s) (who : Party n) :
    Settled lasts id a (s.kept (env who) a.user) log := by
  refine ⟨fun apart => absurd straddled apart, fun well _ => ?_⟩
  have lasting := lasting well
  have held := Cache.Identities.held?_keep s.identities s.clock id (env who).draws.jitter a.user
  rw [if_pos ⟨lasting.enabled, number.symm, lasting.inRange who⟩] at held
  exact ⟨_, held, rfl, decide_eq_true (Nat.lt_add_of_pos_right (lasting.positive who))⟩

/-- What is so is so after a reader's turn that leaves the store alone. -/
theorem Under.read (under : Under lasts env id a phase p) {i : Fin n}
    {left : Plan (Except Store.Error User)} {state : State} {taken : Option Step}
    (turn : (p.readers i).turn (env (.reader i)) p.state = (left, state, taken))
    (store : state.store = p.state.store) (lasting : lasts → Lasting env a.user state)
    (reading : Reading id a ((⟨.reader i, .call (.user id)⟩ :: phase.acts id).Sublist
      (p.log ++ taken.toList.map (⟨.reader i, ·⟩))) left)
    (settled : phase = .after →
      Settled lasts id a state (p.log ++ taken.toList.map (⟨.reader i, ·⟩))) :
    Under lasts env id a phase (p.turn env (.reader i)) := by
  rw [Pool.turn, turn]
  refine ⟨under.deleter, ?_, ?_, fun j => ?_, lasting, fun early => ?_, settled⟩
  · rw [store]
    exact under.up
  · rw [store]
    exact under.stored
  · dsimp only
    split
    · rename_i same
      rw [same]
      exact reading
    · exact (under.readers j).mono List.sublist_append_of_sublist_left
  · intro dropped
    rcases List.mem_append.1 dropped with before | now
    · exact under.clean early before
    · obtain ⟨step, _, same⟩ := List.mem_map.1 now
      cases same

variable (prompt : ∀ who, (env who).delay = 0) (number : a.user.id = id)

include prompt number in
theorem Under.reader (under : Under lasts env id a phase p) (i : Fin n) :
    Under lasts env id a phase (p.turn env (.reader i)) := by
  have reading := under.readers i
  generalize same : p.readers i = plan at reading
  cases reading with
  | begun =>
    have turn := turn_resolve (env (.reader i)) id p.state
    rw [← same] at turn
    refine under.read turn rfl (fun well => (under.lasting well).looked id) ?_ fun late =>
      ((under.settled late).looked under.lasting).concat nofun
    cases (p.state.identities.lookUp p.state.clock id).1.2 with
    | some user => exact .ended _
    | none => exact .missed
  | missed =>
    have turn := turn_load (prompt (.reader i)) under.up id
    rw [← same] at turn
    refine under.read turn rfl under.lasting ?_ fun late => (under.settled late).concat nofun
    rw [under.stored]
    cases phase with
    | before => exact .holding (List.sublist_append_right _ _)
    | between => exact .ended _
    | after => exact .ended _
  | holding saw =>
    have turn : (p.readers i).turn (env (.reader i)) p.state = (.done (.ok a.user),
        p.state.kept (env (.reader i)) a.user, some (.keep a.user)) := by
      rw [same]
      rfl
    refine under.read turn rfl (fun well => (under.lasting well).kept _ _) (.ended _) fun late => ?_
    subst late
    have straddled : Straddled id (p.log ++ [⟨.reader i, .keep a.user⟩]) :=
      ⟨i, a.user, saw.append (List.Sublist.refl [_])⟩
    exact .kept straddled number under.lasting (.reader i)
  | ended found =>
    have turn : (p.readers i).turn (env (.reader i)) p.state = (.done found, p.state, none) := by
      rw [same]
      rfl
    refine under.read turn rfl under.lasting (.ended found) fun late => ?_
    have settled := under.settled late
    rwa [← List.append_nil p.log] at settled

include prompt in
theorem Under.delete (under : Under lasts env id a phase p) :
    ∃ later, Under lasts env id a later (p.turn env .deleter) := by
  cases phase with
  | before =>
    obtain ⟨t, turn, up, gone⟩ := turn_delete (prompt .deleter) under.up under.stored
    rw [← under.deleter] at turn
    refine ⟨.between, ?_⟩
    rw [Pool.turn, turn]
    refine ⟨rfl, up, gone, fun i => ?_, fun well => (under.lasting well).next rfl rfl fun _ => rfl,
      fun _ => ?_, nofun⟩
    · exact (under.readers i).mono fun saw => saw.append (List.Sublist.refl [_])
    · intro dropped
      rcases List.mem_append.1 dropped with before | now
      · exact under.clean nofun before
      · cases List.mem_singleton.1 now
  | between =>
    have turn : p.deleter.turn (env .deleter) p.state = (Phase.after.left id,
        { p.state with identities := p.state.identities.evict id }, some (.evict id)) := by
      rw [under.deleter]
      rfl
    refine ⟨.after, ?_⟩
    rw [Pool.turn, turn]
    refine ⟨rfl, under.up, under.stored, fun i => ?_,
      fun well => (under.lasting well).evict id,
      fun early => absurd rfl early, fun _ => ?_⟩
    · exact (under.readers i).mono fun saw => saw.append (List.Sublist.refl [_])
    · refine ⟨fun _ => ?_, fun _ straddled => ?_⟩
      · exact (Cache.Identities.held?_evict p.state.identities id id).trans (if_pos rfl)
      · have drops : ∀ u, (⟨.deleter, .evict id⟩ : Act n).step ≠ .keep u := nofun
        obtain ⟨i, u, sub⟩ := (straddled_concat drops).1 straddled
        exact absurd (sub.subset (by simp)) (under.clean nofun)
  | after =>
    have turn : p.deleter.turn (env .deleter) p.state = (Phase.after.left id, p.state, none) := by
      rw [under.deleter]
      rfl
    refine ⟨.after, ?_⟩
    rw [Pool.turn, turn]
    simp only [Option.toList_none, List.map_nil, List.append_nil]
    exact ⟨rfl, under.up, under.stored, under.readers, under.lasting, under.clean, under.settled⟩

include prompt number in
theorem Under.turn (under : Under lasts env id a phase p) (who : Party n) :
    ∃ later, Under lasts env id a later (p.turn env who) := by
  cases who with
  | reader i => exact ⟨phase, under.reader prompt number i⟩
  | deleter => exact under.delete prompt

include prompt number in
theorem Under.run (under : Under lasts env id a phase p) (schedule : List (Party n)) :
    ∃ later, Under lasts env id a later (p.run env schedule) := by
  induction schedule generalizing phase p with
  | nil => exact ⟨phase, under⟩
  | cons who rest ih =>
    obtain ⟨later, under⟩ := under.turn prompt number who
    exact ih under

end

/-- An account stands, and the store answers everybody at once. -/
structure Standing (env : Party n → Env) (id : Int) (a : Account) (s : State) : Prop where
  prompt : ∀ who, (env who).delay = 0
  up : s.store.available = true
  stored : s.store.tables.accounts.get? id = some a

theorem Standing.under {env : Party n → Env} {segment : String} {s : State}
    (standing : Standing env id a s) (named : names segment id) :
    Under (Lasting env a.user s) env id a .before (Pool.start id segment s) where
  deleter := deleteAccount_of_names named
  up := standing.up
  stored := standing.stored
  readers _ := .begun
  lasting well := well
  clean _ := nofun
  settled := nofun

section

variable {s : State}

/-- Without an entry and without an account nobody is found, at whatever time. -/
theorem invalidated (dropped : s.identities.held? id = none)
    (gone : s.store.tables.accounts.get? id = none) : Invalidated id s := by
  refine ⟨dropped, fun env cutoff span user => ?_⟩
  have entries : (s.advance span).identities.held? id = none := by
    rw [State.advance, State.rest_identities]
    exact dropped
  have accounts : (s.advance span).store.tables.accounts.get? id = none := by
    rw [State.advance, State.rest_store]
    exact gone
  generalize s.advance span = later at entries accounts ⊢
  have miss : (later.identities.lookUp later.clock id).1.2 = none := by
    rw [Cache.Identities.lookUp_eq, entries, Option.bind_none]
  rw [run_resolve, miss]
  dsimp only
  split
  · rename_i u after made
    obtain ⟨a, stored, _⟩ := Store.get?_of_perform_user (performCall_ok made).2
    have same : (later.looked id).store = later.store := rfl
    rw [same, accounts] at stored
    cases stored
  · exact nofun
  · exact nofun

/-- When all have come to their end the account is gone, and the cache holds its user only if a
reader has straddled the deletion. -/
theorem Standing.settled {env : Party n → Env} {segment : String}
    (standing : Standing env id a s) (named : names segment id) {schedule : List (Party n)}
    (finished : ((Pool.start id segment s).run env schedule).Finished) :
    ((Pool.start id segment s).run env schedule).state.store.tables.accounts.get? id = none ∧
      Settled (Lasting env a.user s) id a ((Pool.start id segment s).run env schedule).state
        ((Pool.start id segment s).run env schedule).log := by
  have number : a.user.id = id := Table.Ledger.number_of_get? standing.stored
  obtain ⟨phase, under⟩ := (standing.under named).run standing.prompt number schedule
  have ended := finished.deleter
  rw [under.deleter] at ended
  cases phase with
  | before => exact ended.elim
  | between => exact ended.elim
  | after => exact ⟨under.stored, under.settled rfl⟩

/-- If no reader straddles the deletion of an account, the deletion leaves no entry behind, and
nobody is authenticated as the deleted user any more. If one does, and what is kept lasts, there is
an entry, and the deleted user is still authenticated. -/
theorem deletion_invalidates {env : Party n → Env} {segment : String} (schedule : List (Party n))
    (standing : Standing env id a s) (named : names segment id)
    (finished : ((Pool.start id segment s).run env schedule).Finished) :
    (¬Straddled id ((Pool.start id segment s).run env schedule).log →
      Invalidated id ((Pool.start id segment s).run env schedule).state) ∧
    (Lasting env a.user s → Straddled id ((Pool.start id segment s).run env schedule).log →
      ¬Invalidated id ((Pool.start id segment s).run env schedule).state ∧
      ∀ env' cutoff,
        ((resolve id).run env' cutoff ((Pool.start id segment s).run env schedule).state).1 =
          .done (.ok a.user)) := by
  obtain ⟨gone, settled⟩ := standing.settled named finished
  refine ⟨fun apart => invalidated (settled.dropped apart) gone, fun well straddled => ?_⟩
  have holds := settled.stale well straddled
  refine ⟨fun fine => ?_, fun env' cutoff => ?_⟩
  · obtain ⟨e, held, _⟩ := holds
    rw [fine.dropped] at held
    cases held
  · rw [run_resolve, holds.lookUp well.readable well.proper]

end

end

namespace Sample

def cached : State :=
  { State.ofConfig { config with cache := { enabled := true } } with store := store 1 }

def account : Account := ⟨ada, ""⟩

def parties : Party 1 → Env := fun _ => env 0

/-- The reader keeps the user while the account is gone and its entry is not yet dropped. -/
def within : List (Party 1) := [.reader 0, .reader 0, .deleter, .reader 0, .deleter]

def late : List (Party 1) := [.reader 0, .reader 0, .deleter, .deleter, .reader 0]

theorem standing : Standing parties 1 account cached := ⟨fun _ => rfl, rfl, rfl⟩

theorem lasting : Lasting parties ada cached := by
  refine ⟨rfl, fun who => ?_, fun who => ?_, by decide, .inl (by decide)⟩
  · change 0 < cached.identities.lifetime 0
    decide
  · change cached.clock + cached.identities.lifetime 0 < Time.clockEnd
    decide

theorem late_log : ((Pool.start 1 "1" cached).run parties late).log =
    [⟨.reader 0, .lookUp 1⟩, ⟨.reader 0, .call (.user 1)⟩, ⟨.deleter, .call (.deleteUser 1)⟩,
      ⟨.deleter, .evict 1⟩, ⟨.reader 0, .keep ada⟩] := by
  rw [Pool.start, deleteAccount_of_names named]
  rfl

theorem within_log : ((Pool.start 1 "1" cached).run parties within).log =
    [⟨.reader 0, .lookUp 1⟩, ⟨.reader 0, .call (.user 1)⟩, ⟨.deleter, .call (.deleteUser 1)⟩,
      ⟨.reader 0, .keep ada⟩, ⟨.deleter, .evict 1⟩] := by
  rw [Pool.start, deleteAccount_of_names named]
  rfl

theorem late_finished : ((Pool.start 1 "1" cached).run parties late).Finished := by
  rw [Pool.start, deleteAccount_of_names named]
  exact ⟨fun i => match i with | 0 => trivial, trivial⟩

theorem within_finished : ((Pool.start 1 "1" cached).run parties within).Finished := by
  rw [Pool.start, deleteAccount_of_names named]
  exact ⟨fun i => match i with | 0 => trivial, trivial⟩

theorem late_straddled : Straddled 1 ((Pool.start 1 "1" cached).run parties late).log := by
  rw [late_log]
  exact ⟨0, ada, (List.Sublist.refl _).cons _⟩

theorem within_apart : ¬Straddled 1 ((Pool.start 1 "1" cached).run parties within).log := by
  rw [within_log]
  rintro ⟨i, u, sub⟩
  have drops : (⟨.reader i, .keep u⟩ : Act 1) ≠ ⟨.deleter, .evict 1⟩ := nofun
  have earlier := sublist_of_concat (l := [_, _, _]) (m := [_, _, _, _]) drops sub
  simpa using earlier.subset (List.mem_cons_of_mem _ (List.mem_cons_of_mem _ List.mem_cons_self))

end Sample

/-- A reader that keeps the user just before its entry is dropped does no harm; one that keeps it
after leaves the deleted user authenticated. -/
theorem early_keep_harmless :
    Standing Sample.parties 1 Sample.account Sample.cached ∧ names "1" 1 ∧
    (((Pool.start 1 "1" Sample.cached).run Sample.parties Sample.within).Finished ∧
      ¬Straddled 1 ((Pool.start 1 "1" Sample.cached).run Sample.parties Sample.within).log ∧
      Invalidated 1 ((Pool.start 1 "1" Sample.cached).run Sample.parties Sample.within).state) ∧
    ((Pool.start 1 "1" Sample.cached).run Sample.parties Sample.late).Finished ∧
    Lasting Sample.parties Sample.ada Sample.cached ∧
    Straddled 1 ((Pool.start 1 "1" Sample.cached).run Sample.parties Sample.late).log ∧
    ∀ env cutoff, ((resolve 1).run env cutoff
      ((Pool.start 1 "1" Sample.cached).run Sample.parties Sample.late).state).1 =
        .done (.ok Sample.ada) := by
  have within := deletion_invalidates Sample.within Sample.standing Sample.named
    Sample.within_finished
  have late := deletion_invalidates Sample.late Sample.standing Sample.named Sample.late_finished
  exact ⟨Sample.standing, Sample.named,
    ⟨Sample.within_finished, Sample.within_apart, within.1 Sample.within_apart⟩,
    Sample.late_finished, Sample.lasting, Sample.late_straddled,
    (late.2 Sample.lasting Sample.late_straddled).2⟩

/-- A reader that keeps the user when the deletion is over undoes it: all are done, and there is an
entry of the user whose account is gone. -/
theorem late_keep_undoes_deletion :
    ((Pool.start 1 "1" Sample.cached).run Sample.parties Sample.late).Finished ∧
    ¬Invalidated 1 ((Pool.start 1 "1" Sample.cached).run Sample.parties Sample.late).state := by
  refine ⟨Sample.late_finished, fun fine => ?_⟩
  obtain ⟨_, settled⟩ := Sample.standing.settled Sample.named Sample.late_finished
  obtain ⟨e, held, _⟩ := settled.stale Sample.lasting Sample.late_straddled
  rw [fine.dropped] at held
  cases held

end Agora.Service
