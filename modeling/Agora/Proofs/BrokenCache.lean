import Agora.Proofs.CacheDiscipline
import Agora.Proofs.ConfiguredLimits

/-!
Looking a user up in spite of the cache. Whatever octets stand under whatever keys, a look-up fails
only as asking the store alone fails, and an entry from which no user can be read has no say in the
answer. It is gone afterwards, and in its place stands the user that the store has given, if it has
given one. The entries of other keys, and the store, are left alone.
-/

set_option autoImplicit false

namespace Agora

open Cache (Backend Entry Identities)
open Store (User)
open Time (Span)

namespace Cache

namespace Backend

variable {b : Backend} {now : Span} {key other : String}

theorem get?_delete (apart : other ≠ key) :
    (b.delete key).entries.get? other = b.entries.get? other := by
  rw [delete, Table.Directory.get?_erase, if_neg apart]

theorem get?_get (apart : other ≠ key) :
    (b.get now key).2.entries.get? other = b.entries.get? other := by
  unfold get
  split
  · split
    · rfl
    · exact get?_delete apart
  · rfl

theorem get?_set {payload : Bytes} {ttl : Span} (apart : other ≠ key) :
    (b.set now key payload ttl).entries.get? other = b.entries.get? other := by
  unfold set
  split
  · rw [Table.Directory.get?_set, if_neg apart]
  · rfl

end Backend

namespace Identities

/-- What stands under a key, be it that of a user or not. -/
def under? (c : Identities) (k : String) : Option Entry := c.backend.bind fun b => b.entries.get? k

/-- A look-up at a moment finds the user under its number: the entry is there, has not expired and
can be read. -/
def Legible (c : Identities) (now : Span) (id : Int) (u : User) : Prop :=
  ∃ e, c.under? (key id) = some e ∧ Backend.fresh now e = true ∧ User.decode? e.payload = some u

/-- Under the number of a user nothing stands that is of use: the entry is missing, has expired or
cannot be read. -/
def Broken (c : Identities) (now : Span) (id : Int) : Prop :=
  ∀ e, c.under? (key id) = some e → Backend.fresh now e = true → User.decode? e.payload = none

variable {c : Identities} {now : Span} {id : Int} {u : User}

theorem lookUp_of_legible (legible : c.Legible now id u) : (c.lookUp now id).1.2 = some u := by
  obtain ⟨e, held, fresh, read⟩ := legible
  rw [lookUp_eq]
  show (c.under? (key id)).bind _ = some u
  rw [held, Option.bind_some, if_pos fresh, read]

theorem lookUp_of_broken (broken : c.Broken now id) : (c.lookUp now id).1.2 = none := by
  rw [lookUp_eq]
  show (c.under? (key id)).bind _ = none
  cases held : c.under? (key id) with
  | none => rfl
  | some e =>
    rw [Option.bind_some]
    split
    · rename_i fresh
      exact broken e held fresh
    · rfl

theorem legible_or_broken (c : Identities) (now : Span) (id : Int) :
    (∃ u, c.Legible now id u) ∨ c.Broken now id := by
  cases found : (c.lookUp now id).1.2 with
  | some u =>
    rw [lookUp_eq] at found
    obtain ⟨e, held, read⟩ := Option.bind_eq_some_iff.1 found
    split at read
    · rename_i fresh
      exact .inl ⟨u, e, held, fresh, read⟩
    · cases read
  | none =>
    refine .inr fun e held fresh => ?_
    rw [lookUp_eq] at found
    have unread := Option.bind_eq_none_iff.1 found e held
    rwa [if_pos fresh] at unread

theorem under?_lookUp {k : String} (apart : k ≠ key id) :
    (c.lookUp now id).2.under? k = c.under? k := by
  cases backend : c.backend with
  | none => simp only [under?, lookUp, backend]
  | some b =>
    simp only [under?, lookUp, backend, Option.bind_some]
    split
    · rw [Backend.get?_delete apart, Backend.get?_get apart]
    · exact Backend.get?_get apart

theorem under?_keep {draw : Nat} {k : String} (apart : k ≠ key u.id) :
    (c.keep now draw u).under? k = c.under? k := by
  cases backend : c.backend with
  | none => simp only [under?, keep, backend, Option.map_none]
  | some b =>
    simp only [under?, keep, backend, Option.map_some, Option.bind_some]
    exact Backend.get?_set apart

/-- A look-up of a user that can be read leaves the entry, and any other drops it. -/
theorem under?_key_lookUp :
    (c.lookUp now id).2.under? (key id) =
      if (c.lookUp now id).1.2 = none then none else c.under? (key id) := by
  have held := held?_lookUp c now id id
  simp only [true_and] at held
  exact held

/-- A user that is kept can be read for the time of its entry. -/
theorem legible_keep {draw : Nat} (memory : c.backend.isSome) (lasting : 0 < c.lifetime draw)
    (inRange : now + c.lifetime draw < Time.clockEnd) (storable : u.Storable)
    (proper : u.createdAt.Proper) : (c.keep now draw u).Legible now u.id u := by
  refine ⟨⟨u.encode, now + c.lifetime draw⟩, ?_, ?_, ?_⟩
  · have kept := held?_keep c now u.id draw u
    rwa [if_pos ⟨memory, rfl, inRange⟩] at kept
  · exact decide_eq_true (Nat.lt_add_of_pos_right lasting)
  · rw [User.decode?_encode proper, if_pos storable]

end Identities

end Cache

namespace Service

section

variable {env : Env} {cutoff : Option Span} {id : Int} {s : State}

/-- Ask the store for a user, and nobody else. -/
def askStore (id : Int) : Plan (Except Store.Error User) := Plan.ask (.call (.user id))

/-- How a plan ends that only hands on the answer of a call. -/
def Ending.ofAnswer {α : Type} (answer : Option α) : Ending α := answer.elim .cutOff .done

theorem run_askStore (env : Env) (cutoff : Option Span) (id : Int) (s : State) :
    (askStore id).run env cutoff s =
      (.ofAnswer (performCall env cutoff (.user id) s).1,
        (performCall env cutoff (.user id) s).2) := by
  unfold askStore Plan.ask
  simp only [Plan.run, Step.perform]
  cases performCall env cutoff (.user id) s with
  | mk answer after => cases answer <;> rfl

/-- What a call is answered depends on the store and on the moment, and on nothing else. -/
theorem performCall_answer_congr {t : State} (store : t.store = s.store) (clock : t.clock = s.clock)
    (c : Store.Call) : (performCall env cutoff c t).1 = (performCall env cutoff c s).1 := by
  rw [performCall_eq, performCall_eq, clock]
  cases fate env cutoff s.clock with
  | made moment => simp only [Fate.outcome, State.perform, State.wait_store, store]
  | overdue moment => rfl
  | cutOff moment => rfl

/-- A call that is not overdue takes no longer than its deadline, if there is one. -/
theorem delay_le_of_punctual {start : Span} (soon : punctual env start = true)
    (inRange : start + env.deadline < Time.clockEnd) : env.delay ≤ env.deadline := by
  rw [punctual, Time.limit?, if_pos inRange, Time.inTime, Option.all_some, Bool.or_eq_true,
    decide_eq_true_eq, decide_eq_true_eq] at soon
  rcases soon with prompt | within
  · rw [prompt]
    exact Nat.zero_le _
  · exact within

/-- How the request for a user fares: it is cut off, or it is overdue and this is the error, or the
answer is that of the store. -/
theorem askStore_cases (env : Env) (cutoff : Option Span) (id : Int) (s : State) :
    (((askStore id).run env cutoff s).1 = .cutOff ∧ cutoff ≠ none) ∨
    (punctual env s.clock = false ∧ ((askStore id).run env cutoff s).1 =
      .done (.error (.unavailable (.overdue env.deadline)))) ∨
    (punctual env s.clock = true ∧ ((askStore id).run env cutoff s).1 =
      .done (s.store.perform env.now (.user id)).1) := by
  rw [run_askStore]
  rcases performCall_cases env cutoff (.user id) s with ⟨moment, run⟩ | ⟨moment, late, run⟩ |
    ⟨soon, run⟩
  · refine .inl ⟨by rw [run]; rfl, ?_⟩
    rintro rfl
    obtain ⟨_, _, answered⟩ := performCall_uncut env (.user id) s
    rw [answered] at run
    cases run
  · rw [run]
    exact .inr (.inl ⟨late, rfl⟩)
  · rw [run]
    exact .inr (.inr ⟨soon, rfl⟩)

theorem resolve_of_legible {u : User} (legible : s.identities.Legible s.clock id u) :
    (resolve id).run env cutoff s = (.done (.ok u), s.looked id) := by
  rw [run_resolve, Identities.lookUp_of_legible legible]

/-- Without an entry of use the store is asked. If it gives a user, the user is kept; whatever else
comes of it is handed on. -/
theorem resolve_of_broken (env : Env) (cutoff : Option Span)
    (broken : s.identities.Broken s.clock id) :
    ((resolve id).run env cutoff s).1 = ((askStore id).run env cutoff s).1 ∧
    ∃ called : State, called.identities = (s.identities.lookUp s.clock id).2 ∧
      called.store = s.store ∧
      ((∃ u, (resolve id).run env cutoff s = (.done (.ok u), called.kept env u) ∧
          s.store.perform env.now (.user id) = (.ok u, s.store) ∧
          punctual env s.clock = true ∧ called.clock = s.clock + env.delay) ∨
        ((∀ u, ((resolve id).run env cutoff s).1 ≠ .done (.ok u)) ∧
          ((resolve id).run env cutoff s).2 = called)) := by
  have reads : (s.store.perform env.now (.user id)).2 = s.store := Store.perform_of_reads rfl
  have same : (performCall env cutoff (.user id) s).1 =
      (performCall env cutoff (.user id) (s.looked id)).1 :=
    performCall_answer_congr (s := s.looked id) (t := s) rfl rfl (.user id)
  rw [run_resolve, Identities.lookUp_of_broken broken, run_askStore, same]
  dsimp only
  rcases performCall_cases env cutoff (.user id) (s.looked id) with ⟨moment, run⟩ |
    ⟨moment, _, run⟩ | ⟨soon, run⟩
  · rw [run]
    exact ⟨rfl, (s.looked id).wait moment, State.wait_identities _ _, State.wait_store _ _,
      .inr ⟨nofun, rfl⟩⟩
  · rw [run]
    exact ⟨rfl, (s.looked id).wait moment, State.wait_identities _ _, State.wait_store _ _,
      .inr ⟨nofun, rfl⟩⟩
  · rw [run]
    have kept : ((s.looked id).afterCall env (.user id)).store = s.store := reads
    have answered : (s.looked id).store.perform env.now (.user id) =
        s.store.perform env.now (.user id) := rfl
    rw [answered]
    cases given : s.store.perform env.now (.user id) with
    | mk answer store =>
      rw [given] at reads
      cases reads
      cases answer with
      | ok u =>
        exact ⟨rfl, (s.looked id).afterCall env (.user id), State.afterCall_identities _ _ _, kept,
          .inl ⟨u, rfl, rfl, soon, State.afterCall_clock _ _ _⟩⟩
      | error e =>
        exact ⟨rfl, (s.looked id).afterCall env (.user id), State.afterCall_identities _ _ _, kept,
          .inr ⟨nofun, rfl⟩⟩

/-- What is no user is what comes of asking the store alone. -/
theorem resolve_alone (none : ∀ u, ((resolve id).run env cutoff s).1 ≠ .done (.ok u)) :
    ((resolve id).run env cutoff s).1 = ((askStore id).run env cutoff s).1 := by
  rcases Identities.legible_or_broken s.identities s.clock id with ⟨u, legible⟩ | broken
  · exact absurd (congrArg Prod.fst (resolve_of_legible legible)) (none u)
  · exact (resolve_of_broken env cutoff broken).1

/-- A look-up touches one key at most, and nothing that is stored. -/
theorem resolve_frame (env : Env) (cutoff : Option Span) (id : Int) (s : State) :
    (∀ k, k ≠ Identities.key id →
      ((resolve id).run env cutoff s).2.identities.under? k = s.identities.under? k) ∧
    ((resolve id).run env cutoff s).2.store = s.store := by
  have looked {k : String} (apart : k ≠ Identities.key id) :
      (s.identities.lookUp s.clock id).2.under? k = s.identities.under? k :=
    Identities.under?_lookUp apart
  rcases Identities.legible_or_broken s.identities s.clock id with ⟨u, legible⟩ | broken
  · rw [resolve_of_legible legible]
    exact ⟨fun k apart => looked apart, rfl⟩
  · obtain ⟨_, called, identities, store, ⟨u, run, given, _, _⟩ | ⟨_, run⟩⟩ :=
      resolve_of_broken env cutoff broken
    · obtain ⟨_, _, _, number⟩ := Store.get?_of_perform_user given
      rw [run]
      refine ⟨fun k apart => ?_, store⟩
      show (called.identities.keep called.clock env.draws.jitter u).under? k = _
      rw [Identities.under?_keep (number.symm ▸ apart), identities, looked apart]
    · rw [run]
      refine ⟨fun k apart => ?_, store⟩
      rw [identities, looked apart]

/-- Every account has a number that fits, and was made at a moment of the calendar. -/
def AllStorable (store : Store) : Prop :=
  ∀ id a, store.tables.accounts.get? id = some a → a.user.Storable ∧ a.user.createdAt.Proper

/-- If nobody is found, no entry is left. -/
theorem resolve_drops (broken : s.identities.Broken s.clock id)
    (missing : ∀ u, ((resolve id).run env cutoff s).1 ≠ .done (.ok u)) :
    ((resolve id).run env cutoff s).2.identities.under? (Identities.key id) = none := by
  obtain ⟨_, called, identities, _, ⟨u, run, _⟩ | ⟨_, run⟩⟩ := resolve_of_broken env cutoff broken
  · exact absurd (congrArg Prod.fst run) (missing u)
  · rw [run, identities, Identities.under?_key_lookUp, if_pos (Identities.lookUp_of_broken broken)]

/-- If the store gives a user, the entry of no use gives way to that of the user. -/
theorem resolve_heals (memory : s.identities.backend.isSome) (lasting : 0 < s.identities.ttl)
    (room : s.clock + (env.deadline + (s.identities.ttl + s.identities.jitter)) < Time.clockEnd)
    (storable : AllStorable s.store) (broken : s.identities.Broken s.clock id) {u : User}
    (found : ((resolve id).run env cutoff s).1 = .done (.ok u)) :
    ((resolve id).run env cutoff s).2.identities.Legible
      ((resolve id).run env cutoff s).2.clock id u := by
  obtain ⟨there, lifetime⟩ := Identities.lookUp_kept s.identities s.clock id
  obtain ⟨_, called, identities, _, ⟨v, run, given, soon, clock⟩ | ⟨missing, _⟩⟩ :=
    resolve_of_broken env cutoff broken
  · rw [run] at found ⊢
    cases found
    obtain ⟨a, stored, rfl, rfl⟩ := Store.get?_of_perform_user given
    obtain ⟨readable, proper⟩ := storable _ a stored
    obtain ⟨least, most⟩ := s.identities.lifetime_bounds env.draws.jitter
    have same : called.identities.lifetime env.draws.jitter =
        s.identities.lifetime env.draws.jitter := by
      rw [identities, lifetime]
    have inRange : s.clock + env.deadline < Time.clockEnd :=
      Nat.lt_of_le_of_lt (Nat.add_le_add_left (Nat.le_add_right _ _) _) room
    have early : called.clock ≤ s.clock + env.deadline := by
      rw [clock]
      exact Nat.add_le_add_left (delay_le_of_punctual soon inRange) _
    refine Identities.legible_keep ?_ ?_ ?_ readable proper
    · rw [identities, there, memory]
    · rw [same]
      exact Nat.lt_of_lt_of_le lasting least
    · rw [same]
      refine Nat.lt_of_le_of_lt (Nat.add_le_add early most) ?_
      rwa [Nat.add_assoc]
  · exact absurd found (missing u)

/-- A call, the wait for it included, and the entry that is made of its answer take three years at
most. -/
theorem entry_room {c : Config} (valid : c.Valid) :
    Span.ofSeconds c.timeouts.storeCall + (Span.ofSeconds c.cache.ttl +
      Span.ofSeconds c.cache.jitter) ≤ Span.ofSeconds 94608000 := by
  have call : Span.ofSeconds c.timeouts.storeCall ≤ Span.ofSeconds 31536000 :=
    Nat.mul_le_mul_left _ valid.bounds.storeCall.2
  have years : Span.ofSeconds 31536000 + Span.ofSeconds 63072000 = Span.ofSeconds 94608000 :=
    (Nat.mul_add Span.second 31536000 63072000).symm
  exact years ▸ Nat.add_le_add call valid.bounds.entry_life

end

/-- The same service with a cache in memory that has the settings of a configuration and holds
whatever it may hold. -/
def State.caching (c : Config.Cache) (contents : Table.Directory String Entry) (s : State) :
    State :=
  { s with identities := ⟨some ⟨contents⟩, Span.ofSeconds c.ttl, Span.ofSeconds c.jitter⟩ }

/-- Whatever the cache holds, a user is looked up as if there were no entry from which none can be
read: what is no user is what comes of asking the store alone, and the entry is gone, or gives way
to that of the user. Nothing else that is kept or stored changes. Under a valid configuration the
new entry can be read, given that the clock has the three years left that the longest delay and the
longest life of an entry take. -/
theorem lookup_despite_cache (env : Env) (s : State) (contents : Table.Directory String Entry)
    (id : Int) (cutoff : Option Span) :
    let before := s.caching env.config.cache contents
    let alone := ((askStore id).run env cutoff before).1
    let ending := ((resolve id).run env cutoff before).1
    let after := ((resolve id).run env cutoff before).2
    ((alone = .cutOff ∧ cutoff ≠ none) ∨
      (punctual env s.clock = false ∧
        alone = .done (.error (.unavailable (.overdue env.deadline)))) ∨
      (punctual env s.clock = true ∧ alone = .done (s.store.perform env.now (.user id)).1)) ∧
    ((∀ u, ending ≠ .done (.ok u)) → ending = alone) ∧
    (∀ u, before.identities.Legible s.clock id u →
      ending = .done (.ok u) ∧
        after.identities.under? (Identities.key id) = contents.get? (Identities.key id)) ∧
    (before.identities.Broken s.clock id →
      ending = alone ∧
      (env.config.Valid → AllStorable s.store →
        s.clock + Span.ofSeconds 94608000 < Time.clockEnd →
        ∀ u, ending = .done (.ok u) → after.identities.Legible after.clock id u) ∧
      ((∀ u, ending ≠ .done (.ok u)) →
        after.identities.under? (Identities.key id) = none)) ∧
    (∀ k, k ≠ Identities.key id → after.identities.under? k = contents.get? k) ∧
    after.store = s.store := by
  intro before alone ending after
  have frame := resolve_frame env cutoff id before
  refine ⟨askStore_cases env cutoff id before, resolve_alone, fun u legible => ?_, fun broken =>
    ⟨(resolve_of_broken env cutoff broken).1, fun valid storable room u found => ?_,
      resolve_drops broken⟩, frame.1, frame.2⟩
  · have run : (resolve id).run env cutoff before = (.done (.ok u), before.looked id) :=
      resolve_of_legible legible
    have kept : (before.identities.lookUp before.clock id).2.under? (Identities.key id) =
        contents.get? (Identities.key id) := by
      have found : (before.identities.lookUp before.clock id).1.2 = some u :=
        Identities.lookUp_of_legible legible
      rw [Identities.under?_key_lookUp, found, if_neg nofun]
      rfl
    refine ⟨congrArg Prod.fst run, ?_⟩
    show ((resolve id).run env cutoff before).2.identities.under? _ = _
    rw [run]
    exact kept
  · have lasting : 0 < before.identities.ttl := Nat.mul_pos (by decide) valid.bounds.ttl.1
    have longest := Nat.lt_of_le_of_lt (Nat.add_le_add_left (entry_room valid) s.clock) room
    exact resolve_heals rfl lasting longest storable broken found

namespace Sample

def lone : Store :=
  Store.ofHistory [⟨⟨0, 0⟩, .seedUser ⟨"eve", "eve@example.com", "", "user"⟩ true⟩]

def eve : User := ⟨1, "eve", "eve@example.com", ⟨0, 0⟩, true, "user"⟩

/-- Octets that are no document, under the key of the account, and others elsewhere. -/
def debris : Table.Directory String Entry :=
  .ofList [("user:1", ⟨Bytes.ofString "\x7bnot json", Span.ofSeconds 100⟩), ("other", ⟨[255], 0⟩)]

def loneState : State := { State.ofConfig {} with store := lone }

def loneEnv : Env := { now := ⟨0, 0⟩ }

theorem lone_storable : AllStorable lone := by
  have all : ∀ a ∈ lone.tables.accounts.rows,
      Json.FitsInt64 a.user.id ∧ a.user.createdAt.representable = true ∧
        a.user.createdAt.nano < 1000000000 := by decide +kernel
  intro id a stored
  obtain ⟨fits, inside, nano⟩ := all a (Table.Ledger.mem_of_get? stored)
  exact ⟨⟨fits, inside⟩, .inl nano⟩

theorem debris_broken : (loneState.caching {} debris).identities.Broken loneState.clock 1 := by
  intro e held _
  have entry : (loneState.caching {} debris).identities.under? (Identities.key 1) =
      some ⟨Bytes.ofString "\x7bnot json", Span.ofSeconds 100⟩ := by decide +kernel
  rw [entry] at held
  cases held
  decide +kernel

end Sample

/-- The octets that are no document do no harm, and are replaced. -/
theorem debris_replaced :
    Sample.loneEnv.config.Valid ∧ AllStorable Sample.loneState.store ∧
    Sample.loneState.clock + Span.ofSeconds 94608000 < Time.clockEnd ∧
    (Sample.loneState.caching {} Sample.debris).identities.Broken Sample.loneState.clock 1 ∧
    ((resolve 1).run Sample.loneEnv none (Sample.loneState.caching {} Sample.debris)).1 =
      .done (.ok Sample.eve) ∧
    ((resolve 1).run Sample.loneEnv none
      (Sample.loneState.caching {} Sample.debris)).2.identities.Legible
        ((resolve 1).run Sample.loneEnv none (Sample.loneState.caching {} Sample.debris)).2.clock
        1 Sample.eve ∧
    ((resolve 1).run Sample.loneEnv none
      (Sample.loneState.caching {} Sample.debris)).2.identities.under? "other" =
        some ⟨[255], 0⟩ := by
  have valid : Sample.loneEnv.config.Valid := by decide +kernel
  have room : Sample.loneState.clock + Span.ofSeconds 94608000 < Time.clockEnd := by decide
  obtain ⟨_, _, _, broken, others, _⟩ :=
    lookup_despite_cache Sample.loneEnv Sample.loneState Sample.debris 1 none
  obtain ⟨alike, kept, _⟩ := broken Sample.debris_broken
  have alone : ((askStore 1).run Sample.loneEnv none
      (Sample.loneState.caching {} Sample.debris)).1 = .done (.ok Sample.eve) := rfl
  have found := alike.trans alone
  exact ⟨valid, Sample.lone_storable, room, Sample.debris_broken, found,
    kept valid Sample.lone_storable room _ found,
    (others "other" (by decide +kernel)).trans (by decide +kernel)⟩

end Service

end Agora
