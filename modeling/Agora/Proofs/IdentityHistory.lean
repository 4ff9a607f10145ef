import Agora.Proofs.PayloadHistory
import Agora.Proofs.UserCache
import Mathlib.Data.List.Nodup
import Mathlib.Data.Set.List

/-!
The cache of identities over time. What is done with it is done with payloads under the keys of the
users, and every payload reads back as the user that was kept; so a user that is found is the one
that was kept last under that number and not dropped since, for as long as its entry lives. Looking
up and counting change no later answer, except that entries which have expired and were met are no
longer there to be counted by whoever drops all of them.
-/

set_option autoImplicit false

namespace Agora.Cache

open Store (User)
open Time (Span)

def Timed.map {α β : Type} (f : α → β) (e : Timed α) : Timed β := ⟨e.now, f e.act⟩

section

variable {α β : Type} {history : List α} {e : α}

theorem InTime.map {now : Span} {history : List (Timed α)} (inTime : InTime now history)
    (f : α → β) : InTime now (history.map (Timed.map f)) where
  ordered := List.pairwise_map.2 inTime.ordered
  past := by
    intro e inside
    obtain ⟨before, among, rfl⟩ := List.mem_map.1 inside
    exact inTime.past before among

theorem lastOf_map {undoes : β → Prop} {f : α → β} {made : β} :
    LastOf undoes (history.map f) made ↔
      ∃ e, f e = made ∧ LastOf (fun other => undoes (f other)) history e := by
  constructor
  · rintro ⟨earlier, later, split, lasts⟩
    obtain ⟨before, rest, rfl, rfl, tail⟩ := List.map_eq_append_iff.1 split
    obtain ⟨e, after, rfl, rfl, rfl⟩ := List.map_eq_cons_iff.1 tail
    exact ⟨e, rfl, before, after, rfl, fun other inside => lasts _ (List.mem_map_of_mem inside)⟩
  · rintro ⟨e, rfl, earlier, later, rfl, lasts⟩
    refine ⟨earlier.map f, later.map f, by simp, fun other inside => ?_⟩
    obtain ⟨before, among, rfl⟩ := List.mem_map.1 inside
    exact lasts before among

/-- What comes last is told by what undoes it alone, if it counts as that itself. -/
theorem lastOf_filter (undoes : α → Bool) (counts : undoes e = true) :
    LastOf (fun other => undoes other = true) (history.filter undoes) e ↔
      LastOf (fun other => undoes other = true) history e := by
  induction history using List.reverseRecOn with
  | nil => exact Iff.rfl
  | append_singleton history last ih =>
    rw [List.filter_append, lastOf_concat]
    by_cases undone : undoes last = true
    · rw [List.filter_cons_of_pos undone, List.filter_nil, lastOf_concat, ih]
    · have apart : e ≠ last := fun same => undone (same ▸ counts)
      rw [List.filter_cons_of_neg undone, List.filter_nil, List.append_nil, ih]
      exact ⟨fun earlier => .inr ⟨undone, earlier⟩, fun either =>
        either.elim (fun same => absurd same apart) (·.2)⟩

end

namespace Identities

/-- What may be done with the cache. A user is kept with a drawn part of the jitter. -/
inductive Op where
  | keep (u : User) (draw : Nat)
  | lookUp (id : Int)
  | evict (id : Int)
  | flush
  | stats

def life (ttl jitter : Span) (draw : Nat) : Span := lifetime draw ⟨none, ttl, jitter⟩

namespace Op

def next (now : Span) (c : Identities) : Op → Identities
  | .keep u draw => c.keep now draw u
  | .lookUp id => (c.lookUp now id).2
  | .evict id => c.evict id
  | .flush => c.flush.2
  | .stats => (c.stats now).2

def concerns (id : Int) : Op → Bool
  | .keep u _ => u.id = id
  | .evict other => other = id
  | .flush => true
  | _ => false

/-- The operation is more than a look. -/
def writes : Op → Bool
  | .lookUp _ | .stats => false
  | _ => true

/-- A user that is kept can be written and read, and the longest life of its entry ends within the
clock's range. -/
def Fits (ttl jitter now : Span) : Op → Prop
  | .keep u _ => u.createdAt.Proper ∧ u.Storable ∧ now + (ttl + jitter) < Time.clockEnd
  | _ => True

/-- What the operation does with payloads. -/
def onPayloads (ttl jitter : Span) : Op → Backend.Op
  | .keep u draw => .set (key u.id) u.encode (life ttl jitter draw)
  | .lookUp id => .get (key id)
  | .evict id => .delete (key id)
  | .flush => .clear
  | .stats => .purge

end Op

/-- A new cache after a history. -/
def after (ttl jitter : Span) (history : List (Timed Op)) : Identities :=
  history.foldl (fun c e => e.act.next e.now c) ⟨some {}, ttl, jitter⟩

def payloads (ttl jitter : Span) (history : List (Timed Op)) : Backend :=
  Backend.after (history.map (Timed.map (Op.onPayloads ttl jitter)))

/-- The last operation on a user has kept it, at this moment and with this part of the jitter. -/
def LastKept (id : Int) (u : User) (draw : Nat) (moment : Span) (history : List (Timed Op)) :
    Prop :=
  LastOf (fun e => e.act.concerns id = true) history ⟨moment, .keep u draw⟩

def found (now : Span) (id : Int) (c : Identities) : Option User := (c.lookUp now id).1.2

section

variable {ttl jitter now : Span} {history : List (Timed Op)}

theorem life_bounds (ttl jitter : Span) (draw : Nat) :
    ttl ≤ life ttl jitter draw ∧ life ttl jitter draw ≤ ttl + jitter :=
  lifetime_bounds ⟨none, ttl, jitter⟩ draw

/-- In the clock's range, what concerns a user is what changes the payload under its key. -/
theorem Op.replaces_iff {op : Op} (fits : op.Fits ttl jitter now) (id : Int) :
    (op.onPayloads ttl jitter).replaces (key id) now ↔ op.concerns id = true := by
  have same (other : Int) : key other = key id ↔ other = id := ⟨key_inj, congrArg key⟩
  cases op with
  | keep u draw =>
    have inRange : now + life ttl jitter draw < Time.clockEnd :=
      Nat.lt_of_le_of_lt (Nat.add_le_add_left (life_bounds ttl jitter draw).2 now) fits.2.2
    simp only [onPayloads, Backend.Op.replaces, concerns, same, inRange, and_true,
      decide_eq_true_eq]
  | evict other =>
    simp only [onPayloads, Backend.Op.replaces, concerns, same, decide_eq_true_eq]
  | flush => exact iff_of_true trivial rfl
  | lookUp other => exact iff_of_false not_false nofun
  | stats => exact iff_of_false not_false nofun

variable (fits : ∀ e ∈ history, e.act.Fits ttl jitter e.now)

include fits in
/-- The payload that a key holds is that of the last user that was kept. -/
theorem lastKept_iff {id : Int} {payload : Bytes} {length moment : Span} :
    Backend.LastKept (key id) payload length moment
        (history.map (Timed.map (Op.onPayloads ttl jitter))) ↔
      ∃ u draw, LastKept id u draw moment history ∧
        u.id = id ∧ payload = u.encode ∧ length = life ttl jitter draw := by
  rw [Backend.LastKept, lastOf_map]
  have concerns : ∀ e ∈ history, (Timed.map (Op.onPayloads ttl jitter) e).act.replaces (key id)
      (Timed.map (Op.onPayloads ttl jitter) e).now ↔ e.act.concerns id = true :=
    fun e inside => Op.replaces_iff (fits e inside) id
  simp only [lastOf_congr concerns]
  constructor
  · rintro ⟨⟨⟨now, act⟩, made, last⟩, inRange⟩
    cases act with
    | keep u draw =>
      simp only [Timed.map, Op.onPayloads, Timed.mk.injEq, Backend.Op.set.injEq] at made
      obtain ⟨rfl, same, rfl, rfl⟩ := made
      exact ⟨u, draw, last, key_inj same, rfl, rfl⟩
    | _ => cases congrArg Timed.act made
  · rintro ⟨u, draw, last, rfl, rfl, rfl⟩
    refine ⟨⟨⟨moment, .keep u draw⟩, rfl, last⟩, ?_⟩
    obtain ⟨_, _, inRange⟩ := fits _ last.mem
    exact Nat.lt_of_le_of_lt (Nat.add_le_add_left (life_bounds ttl jitter draw).2 moment) inRange

variable (inTime : InTime now history)

include fits inTime in
/-- A payload under the key of a user is that of a user of this number who was kept, and reads back
as this user. -/
theorem found_payload_iff {id : Int} {payload : Bytes} :
    (payloads ttl jitter history).found now (key id) = some payload ↔
      ∃ u draw moment, LastKept id u draw moment history ∧
        u.id = id ∧ now < moment + life ttl jitter draw ∧ payload = u.encode := by
  rw [payloads, Backend.found_iff (inTime.map _)]
  simp only [lastKept_iff fits]
  constructor
  · rintro ⟨_, moment, ⟨u, draw, last, own, read, rfl⟩, stays⟩
    exact ⟨u, draw, moment, last, own, stays, read⟩
  · rintro ⟨u, draw, moment, last, own, stays, read⟩
    exact ⟨_, moment, ⟨u, draw, last, own, read, rfl⟩, stays⟩

include fits in
theorem decode?_kept {u : User} {draw : Nat} {moment : Span}
    (inside : ⟨moment, .keep u draw⟩ ∈ history) : User.decode? u.encode = some u := by
  obtain ⟨proper, storable, _⟩ := fits _ inside
  rw [User.decode?_encode proper, if_pos storable]

theorem payloads_concat (e : Timed Op) : payloads ttl jitter (history ++ [e]) =
    (e.act.onPayloads ttl jitter).next e.now (payloads ttl jitter history) := by
  rw [payloads, List.map_append, List.map_singleton, Backend.after_concat]
  rfl

include fits inTime in
/-- A look-up of a user is one of its payload, which reads back as the user. -/
theorem lookUp_payloads (id : Int) :
    lookUp now id ⟨some (payloads ttl jitter history), ttl, jitter⟩ =
      (judge ((payloads ttl jitter history).found now (key id)),
        ⟨some ((payloads ttl jitter history).get now (key id)).2, ttl, jitter⟩) := by
  have read : (judge ((payloads ttl jitter history).found now (key id))).1 ≠ .error := by
    cases given : (payloads ttl jitter history).found now (key id) with
    | none => simp [judge]
    | some payload =>
      obtain ⟨u, draw, moment, last, _, _, rfl⟩ := (found_payload_iff fits inTime).1 given
      simp [judge, decode?_kept fits last.mem]
  exact congrArg (fun b => (_, Identities.mk (some b) ttl jitter)) (if_neg read)

include fits inTime in
/-- The cache is that of the payloads, and its settings stay. -/
theorem after_eq :
    after ttl jitter history = ⟨some (payloads ttl jitter history), ttl, jitter⟩ := by
  induction history using List.reverseRecOn generalizing now with
  | nil => rfl
  | append_singleton history e ih =>
    obtain ⟨before, _⟩ := inTime.concat
    have earlier : ∀ e ∈ history, e.act.Fits ttl jitter e.now :=
      fun e inside => fits e (List.mem_append_left _ inside)
    have step : after ttl jitter (history ++ [e]) = e.act.next e.now (after ttl jitter history) :=
      List.foldl_append
    rw [step, ih earlier before, payloads_concat]
    obtain ⟨moment, act⟩ := e
    cases act with
    | lookUp id => exact congrArg Prod.snd (lookUp_payloads earlier before id)
    | _ => rfl

include fits inTime in
/-- The user that is found is the one that was kept last, as long as its entry lives. -/
theorem found_iff {id : Int} {u : User} : (after ttl jitter history).found now id = some u ↔
    ∃ draw moment, LastKept id u draw moment history ∧
      u.id = id ∧ now < moment + life ttl jitter draw := by
  have judged {payload : Option Bytes} :
      (judge payload).2 = some u ↔ ∃ b, payload = some b ∧ User.decode? b = some u := by
    cases payload with
    | none => simp [judge]
    | some b => cases read : User.decode? b <;> simp [judge, read]
  rw [found, after_eq fits inTime, lookUp_payloads fits inTime, judged]
  simp only [found_payload_iff fits inTime]
  constructor
  · rintro ⟨_, ⟨v, draw, moment, last, own, stays, rfl⟩, read⟩
    rw [decode?_kept fits last.mem, Option.some.injEq] at read
    subst read
    exact ⟨draw, moment, last, own, stays⟩
  · rintro ⟨draw, moment, last, own, stays⟩
    exact ⟨_, ⟨u, draw, moment, last, own, stays, rfl⟩, decode?_kept fits last.mem⟩

include fits inTime in
theorem found_of_concerns {other : List (Timed Op)} (also : InTime now other)
    (alike : ∀ e ∈ other, e.act.Fits ttl jitter e.now) {id : Int}
    (same : other.filter (·.act.concerns id) = history.filter (·.act.concerns id)) :
    (after ttl jitter other).found now id = (after ttl jitter history).found now id := by
  have kept (moment : Span) (u : User) (draw : Nat) (own : u.id = id) :
      LastKept id u draw moment other ↔ LastKept id u draw moment history := by
    have alone (h : List (Timed Op)) :
        LastKept id u draw moment (h.filter (·.act.concerns id)) ↔ LastKept id u draw moment h :=
      lastOf_filter (fun e : Timed Op => e.act.concerns id) (decide_eq_true own)
    rw [← alone other, same, alone history]
  refine Option.ext fun u => ?_
  rw [found_iff alike also, found_iff fits inTime]
  exact exists_congr fun draw => exists_congr fun moment =>
    and_congr_left fun rest => kept moment u draw rest.1

theorem Op.writes_of_concerns {op : Op} {id : Int} (concerns : op.concerns id = true) :
    op.writes = true := by
  cases op with
  | lookUp other => cases concerns
  | stats => cases concerns
  | _ => rfl

theorem Op.fits_of_looks {op : Op} (looks : op.writes = false) : op.Fits ttl jitter now := by
  cases op with
  | keep u draw => cases looks
  | _ => trivial

section

variable {other : List (Timed Op)}
  (same : other.filter (·.act.writes) = history.filter (·.act.writes))

include same in
/-- Histories that differ in looks only agree on what concerns a user. -/
theorem concerns_of_writes (id : Int) :
    other.filter (·.act.concerns id) = history.filter (·.act.concerns id) := by
  have among (h : List (Timed Op)) :
      (h.filter (·.act.writes)).filter (·.act.concerns id) = h.filter (·.act.concerns id) := by
    rw [List.filter_filter]
    refine List.filter_congr fun e _ => ?_
    cases concerns : e.act.concerns id with
    | false => rfl
    | true => rw [Op.writes_of_concerns concerns, Bool.and_self]
  rw [← among other, same, among]

include fits same in
theorem fits_of_writes : ∀ e ∈ other, e.act.Fits ttl jitter e.now := by
  intro e inside
  cases writes : e.act.writes with
  | false => exact Op.fits_of_looks writes
  | true =>
    have among : e ∈ history.filter (·.act.writes) := same ▸ List.mem_filter.2 ⟨inside, writes⟩
    exact fits e (List.mem_filter.1 among).1

end

theorem mem_keys {d : Table.Directory String Entry} {k : String} :
    k ∈ d.entries.map (·.1) ↔ (d.get? k).isSome = true := by
  rw [Table.Directory.get?, Option.isSome_map, List.find?_isSome, List.mem_map]
  simp only [decide_eq_true_eq]

include fits inTime in
theorem isSome_found (id : Int) :
    ((payloads ttl jitter history).found now (key id)).isSome =
      ((after ttl jitter history).found now id).isSome := by
  rw [Bool.eq_iff_iff, Option.isSome_iff_exists, Option.isSome_iff_exists]
  simp only [found_payload_iff fits inTime, found_iff fits inTime]
  constructor
  · rintro ⟨_, u, draw, moment, last, own, stays, _⟩
    exact ⟨u, draw, moment, last, own, stays⟩
  · rintro ⟨u, draw, moment, last, own, stays⟩
    exact ⟨_, u, draw, moment, last, own, stays, rfl⟩

include inTime in
/-- Every payload that is found is under the key of a user. -/
theorem key_of_found {k : String} {payload : Bytes}
    (given : (payloads ttl jitter history).found now k = some payload) : k ∈ Set.range key := by
  obtain ⟨length, moment, ⟨last, _⟩, _⟩ := (Backend.found_iff (inTime.map _)).1 given
  obtain ⟨⟨now, act⟩, made, _⟩ := lastOf_map.1 last
  cases act with
  | keep u draw =>
    simp only [Timed.map, Op.onPayloads, Timed.mk.injEq, Backend.Op.set.injEq] at made
    exact ⟨u.id, made.2.1⟩
  | _ => cases congrArg Timed.act made

include fits inTime in
/-- The number of entries that operators see is that of the users who are found. -/
theorem stats_counts : ∃ ids : List Int, ids.Nodup ∧
    (∀ id, id ∈ ids ↔ ((after ttl jitter history).found now id).isSome = true) ∧
    ((after ttl jitter history).stats now).1 = ⟨"memory", ids.length⟩ := by
  let left := ((payloads ttl jitter history).purge now).entries
  have keeps (k : String) : k ∈ left.entries.map (·.1) ↔
      ((payloads ttl jitter history).found now k).isSome = true := by
    rw [mem_keys, ← Backend.purge_found, Option.isSome_map]
  have users : ∀ k ∈ left.entries.map (·.1), k ∈ Set.range key := by
    intro k inside
    obtain ⟨payload, given⟩ := Option.isSome_iff_exists.1 ((keeps k).1 inside)
    exact key_of_found inTime given
  obtain ⟨ids, keys⟩ : left.entries.map (·.1) ∈ Set.range (List.map key) := by
    rw [Set.range_list_map]
    exact users
  refine ⟨ids, ?_, fun id => ?_, ?_⟩
  · have distinct : (ids.map key).Nodup := keys ▸ List.pairwise_map.2 left.distinct
    exact List.Nodup.of_map key distinct
  · rw [← isSome_found fits inTime, ← keeps, ← keys]
    exact (List.mem_map_of_injective fun _ _ => key_inj).symm
  · have length : left.entries.length = ids.length := by
      rw [← List.length_map (f := (·.1)), ← keys, List.length_map]
    rw [after_eq fits inTime, ← length]
    rfl

include fits inTime in
theorem stats_of_writes {other : List (Timed Op)} (also : InTime now other)
    (same : other.filter (·.act.writes) = history.filter (·.act.writes)) :
    ((after ttl jitter other).stats now).1 = ((after ttl jitter history).stats now).1 := by
  have alike := fits_of_writes fits same
  obtain ⟨ids, distinct, members, counted⟩ := stats_counts fits inTime
  obtain ⟨others, apart, found, count⟩ := stats_counts alike also
  have users : others.Perm ids := by
    refine (List.perm_ext_iff_of_nodup apart distinct).2 fun id => ?_
    rw [found, members, found_of_concerns fits inTime also alike (concerns_of_writes same id)]
  rw [counted, count, users.length_eq]

include fits inTime in
/-- Who drops all entries counts those that live, and the expired ones that no look has met. -/
theorem flush_counts : (after ttl jitter history).flush.1 =
    ((after ttl jitter history).stats now).1.entries +
      (after ttl jitter history).backend.elim 0 (Backend.purged now) := by
  rw [after_eq fits inTime]
  exact (Nat.add_sub_cancel' (Backend.size_purge_le _)).symm

end

/-- A user that is found has the number that was asked for, and is the one that was kept last under
it and not dropped since, less than the longest life ago; and a user that was kept less than the
shortest life ago is found as it was. What does not concern a user makes no difference to it, and
looks make no difference to later looks. The number of entries that operators see is that of the
users who are found; who drops all entries counts the expired ones too that no look has met. -/
theorem identities_remembered {ttl jitter now : Span} {history : List (Timed Op)}
    (inTime : InTime now history) (fits : ∀ e ∈ history, e.act.Fits ttl jitter e.now) :
    let c := after ttl jitter history
    (∀ id u, c.found now id = some u → u.id = id ∧
      ∃ draw moment, LastKept id u draw moment history ∧ now < moment + (ttl + jitter)) ∧
    (∀ u draw moment, LastKept u.id u draw moment history → now < moment + ttl →
      c.found now u.id = some u) ∧
    (∀ id other, InTime now other → (∀ e ∈ other, e.act.Fits ttl jitter e.now) →
      other.filter (·.act.concerns id) = history.filter (·.act.concerns id) →
        (after ttl jitter other).found now id = c.found now id) ∧
    (∀ other, InTime now other →
      other.filter (·.act.writes) = history.filter (·.act.writes) →
        (∀ id, (after ttl jitter other).found now id = c.found now id) ∧
          ((after ttl jitter other).stats now).1 = (c.stats now).1) ∧
    (∃ ids : List Int, ids.Nodup ∧ (∀ id, id ∈ ids ↔ (c.found now id).isSome = true) ∧
      (c.stats now).1 = ⟨"memory", ids.length⟩) ∧
    c.flush.1 = (c.stats now).1.entries + c.backend.elim 0 (Backend.purged now) := by
  intro c
  refine ⟨fun id u found => ?_, fun u draw moment last lives => ?_,
    fun id other also alike same => ?_, fun other also same => ⟨fun id => ?_, ?_⟩,
    stats_counts fits inTime, flush_counts fits inTime⟩
  · obtain ⟨draw, moment, last, own, stays⟩ := (found_iff fits inTime).1 found
    have bound := Nat.add_le_add_left (life_bounds ttl jitter draw).2 moment
    exact ⟨own, draw, moment, last, Nat.lt_of_lt_of_le stays bound⟩
  · have bound := Nat.add_le_add_left (life_bounds ttl jitter draw).1 moment
    exact (found_iff fits inTime).2 ⟨draw, moment, last, rfl, Nat.lt_of_lt_of_le lives bound⟩
  · exact found_of_concerns fits inTime also alike same
  · exact found_of_concerns fits inTime also (fits_of_writes fits same) (concerns_of_writes same id)
  · exact stats_of_writes fits inTime also same

namespace Sample

def ada : User := ⟨1, "ada", "ada@example.com", ⟨1704067200, 0⟩, true, "user"⟩

def kept : List (Timed Op) := [⟨0, .keep ada 0⟩]

/-- The user is kept, and looked up when its time is over. -/
def missed : List (Timed Op) := kept ++ [⟨Span.ofSeconds 700, .lookUp 1⟩]

/-- The user is kept with half a second of the jitter; another one is dropped, and it is counted. -/
def busy : List (Timed Op) :=
  [⟨0, .keep ada 500⟩, ⟨Span.ofSeconds 300, .evict 2⟩, ⟨Span.ofSeconds 400, .stats⟩]

end Sample

/-- For as long as the base time a user is found, whatever is done with others. -/
theorem identity_remembered_for_base_time :
    InTime (Span.ofMillis 599999) Sample.busy ∧
    (∀ e ∈ Sample.busy, e.act.Fits (Span.ofSeconds 600) (Span.ofSeconds 30) e.now) ∧
    (after (Span.ofSeconds 600) (Span.ofSeconds 30) Sample.busy).found (Span.ofMillis 599999) 1 =
      some Sample.ada := by
  have inTime : InTime (Span.ofMillis 599999) Sample.busy := ⟨by decide, by decide⟩
  have fits : ∀ e ∈ Sample.busy, e.act.Fits (Span.ofSeconds 600) (Span.ofSeconds 30) e.now := by
    intro e inside
    simp only [Sample.busy, List.mem_cons, List.not_mem_nil, or_false] at inside
    rcases inside with rfl | rfl | rfl
    · exact ⟨.inl (by decide), by decide, by decide⟩
    · trivial
    · trivial
  have last : LastKept 1 Sample.ada 500 0 Sample.busy := ⟨[], Sample.busy.tail, rfl, by decide⟩
  exact ⟨inTime, fits, (identities_remembered inTime fits).2.1 Sample.ada 500 0 last (by decide)⟩

/-- A look-up that meets an expired entry leaves one less for who drops all of them to count. -/
theorem expired_identity_uncounted :
    InTime (Span.ofSeconds 700) Sample.missed ∧
    (∀ e ∈ Sample.missed, e.act.Fits (Span.ofSeconds 600) (Span.ofSeconds 30) e.now) ∧
    Sample.missed.filter (·.act.writes) = Sample.kept.filter (·.act.writes) ∧
    (after (Span.ofSeconds 600) (Span.ofSeconds 30) Sample.kept).flush.1 = 1 ∧
    (after (Span.ofSeconds 600) (Span.ofSeconds 30) Sample.missed).flush.1 = 0 := by
  refine ⟨⟨by decide, by decide⟩, fun e inside => ?_, rfl, by decide, by decide⟩
  simp only [Sample.missed, Sample.kept, List.cons_append, List.nil_append, List.mem_cons,
    List.not_mem_nil, or_false] at inside
  rcases inside with rfl | rfl
  · exact ⟨.inl (by decide), by decide, by decide⟩
  · trivial

end Identities

end Agora.Cache
