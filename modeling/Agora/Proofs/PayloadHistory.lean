import Agora.Cache.Backend
import Mathlib.Data.List.Induction

/-!
Payloads over time. What a key gives is the payload that was kept last and not dropped since, until
its time is over; expired entries leave no trace, whichever look-up or purge drops them. But a
payload that would last past the clock's range is not kept, and then it does not take the place of
the one before it either, which is given out until its own time is over.
-/

set_option autoImplicit false

namespace Agora.Cache

open Table (Directory)
open Time (Span)

/-- Something that is done at a moment. -/
structure Timed (α : Type) where
  now : Span
  act : α

/-- What is done in the order of time, and up to a moment. -/
structure InTime {α : Type} (now : Span) (history : List (Timed α)) : Prop where
  ordered : history.Pairwise fun a b => a.now ≤ b.now
  past : ∀ e ∈ history, e.now ≤ now

/-- One thing in a history after which nothing has come that undoes it. -/
def LastOf {α : Type} (undoes : α → Prop) (history : List α) (e : α) : Prop :=
  ∃ earlier later, history = earlier ++ e :: later ∧ ∀ other ∈ later, ¬undoes other

section

variable {α : Type} {now : Span}

theorem InTime.concat {history : List (Timed α)} {e : Timed α}
    (inTime : InTime now (history ++ [e])) : InTime e.now history ∧ e.now ≤ now := by
  obtain ⟨before, _, across⟩ := List.pairwise_append.1 inTime.ordered
  refine ⟨⟨before, fun a inside => across a inside e (List.mem_singleton.2 rfl)⟩, ?_⟩
  exact inTime.past e (List.mem_append_right _ (List.mem_singleton.2 rfl))

variable {undoes : α → Prop} {history : List α} {e last : α}

theorem not_lastOf_nil : ¬LastOf undoes [] e := by
  rintro ⟨earlier, later, split, _⟩
  cases earlier <;> cases split

theorem lastOf_concat :
    LastOf undoes (history ++ [last]) e ↔ e = last ∨ ¬undoes last ∧ LastOf undoes history e := by
  constructor
  · rintro ⟨earlier, later, split, lasts⟩
    rcases List.eq_nil_or_concat later with rfl | ⟨later, final, rfl⟩
    · obtain ⟨_, same⟩ := List.append_inj' split rfl
      cases same
      exact .inl rfl
    · rw [List.concat_eq_append, ← List.cons_append, ← List.append_assoc] at split
      obtain ⟨rfl, same⟩ := List.append_inj' split rfl
      cases same
      refine .inr ⟨lasts last (by simp), earlier, later, rfl, fun other inside => ?_⟩
      exact lasts other (by simp [inside])
  · rintro (rfl | ⟨stays, earlier, later, rfl, lasts⟩)
    · exact ⟨history, [], rfl, nofun⟩
    · refine ⟨earlier, later ++ [last], by simp, fun other inside => ?_⟩
      rcases List.mem_append.1 inside with inside | inside
      · exact lasts other inside
      · cases List.mem_singleton.1 inside
        exact stays

theorem LastOf.mem (lasts : LastOf undoes history e) : e ∈ history := by
  obtain ⟨earlier, later, rfl, _⟩ := lasts
  exact List.mem_append_right _ List.mem_cons_self

theorem LastOf.mono {less : α → Prop} (lasts : LastOf undoes history e)
    (among : ∀ other ∈ history, less other → undoes other) : LastOf less history e := by
  obtain ⟨earlier, later, rfl, stays⟩ := lasts
  refine ⟨earlier, later, rfl, fun other inside => mt (among other ?_) (stays other inside)⟩
  exact List.mem_append_right _ (.tail _ inside)

theorem lastOf_congr {others : α → Prop} (same : ∀ other ∈ history, undoes other ↔ others other) :
    LastOf undoes history e ↔ LastOf others history e :=
  ⟨fun lasts => lasts.mono fun other inside => (same other inside).2,
    fun lasts => lasts.mono fun other inside => (same other inside).1⟩

end

namespace Backend

/-- What may be done with payloads. -/
inductive Op where
  | set (key : String) (payload : Bytes) (ttl : Span)
  | get (key : String)
  | delete (key : String)
  | purge
  | clear
  deriving DecidableEq

namespace Op

def next (now : Span) (b : Backend) : Op → Backend
  | .set key payload ttl => b.set now key payload ttl
  | .get key => (b.get now key).2
  | .delete key => b.delete key
  | .purge => b.purge now
  | .clear => b.clear

/-- The operation is more than a look-up or a purge. -/
def writes : Op → Bool
  | .get _ | .purge => false
  | _ => true

/-- The operation sets or drops what is kept under a key. -/
def concerns (key : String) : Op → Prop
  | .set other _ _ => other = key
  | .delete other => other = key
  | .clear => True
  | _ => False

/-- The operation changes what is kept under a key: a payload that would last past the clock's range
does not. -/
def replaces (key : String) (now : Span) : Op → Prop
  | .set other _ ttl => other = key ∧ now + ttl < Time.clockEnd
  | .delete other => other = key
  | .clear => True
  | _ => False

/-- What stands under a key after an operation, its expiry left aside. -/
def leaves (key : String) (now : Span) (held : Option Entry) : Op → Option Entry
  | .set other payload ttl =>
    if other = key ∧ now + ttl < Time.clockEnd then some ⟨payload, now + ttl⟩ else held
  | .delete other => if other = key then none else held
  | .clear => none
  | .get _ | .purge => held

end Op

/-- A new backend after a history. -/
def after (history : List (Timed Op)) : Backend :=
  history.foldl (fun b e => e.act.next e.now b) {}

/-- The payload that a look-up gives. -/
def found (now : Span) (key : String) (b : Backend) : Option Bytes := (b.get now key).1

/-- The number that a purge answers. -/
def purged (now : Span) (b : Backend) : Nat := b.size - (b.purge now).size

/-- What stands under a key after a history, its expiry left aside. -/
def standing (key : String) (history : List (Timed Op)) : Option Entry :=
  history.foldl (fun held e => e.act.leaves key e.now held) none

/-- The last operation on a key has set this payload, at this moment and for this time. -/
def LastSet (key : String) (payload : Bytes) (ttl moment : Span) (history : List (Timed Op)) :
    Prop :=
  LastOf (fun e => e.act.concerns key) history ⟨moment, .set key payload ttl⟩

/-- The last operation that has changed what a key holds has set this payload, at this moment and
for this time. -/
def LastKept (key : String) (payload : Bytes) (ttl moment : Span) (history : List (Timed Op)) :
    Prop :=
  LastOf (fun e => e.act.replaces key e.now) history ⟨moment, .set key payload ttl⟩ ∧
    moment + ttl < Time.clockEnd

section

variable {now : Span} {key : String} {history : List (Timed Op)}

theorem after_concat (e : Timed Op) : after (history ++ [e]) = e.act.next e.now (after history) :=
  List.foldl_append

theorem standing_concat (e : Timed Op) :
    standing key (history ++ [e]) = e.act.leaves key e.now (standing key history) :=
  List.foldl_append

theorem Op.concerns_of_replaces {op : Op} (replaces : op.replaces key now) : op.concerns key := by
  cases op with
  | set other payload ttl => exact replaces.1
  | _ => exact replaces

theorem Op.leaves_of_other {op : Op} (other : ¬op.replaces key now) (held : Option Entry) :
    op.leaves key now held = held := by
  cases op with
  | set k payload ttl => exact if_neg other
  | delete k => exact if_neg other
  | clear => exact absurd trivial other
  | _ => rfl

theorem Op.leaves_of_replaces {op : Op} (replaces : op.replaces key now) {held : Option Entry}
    {e : Entry} : op.leaves key now held = some e ↔
      ∃ payload ttl, op = .set key payload ttl ∧ e = ⟨payload, now + ttl⟩ := by
  cases op with
  | set k payload ttl =>
    obtain ⟨rfl, inRange⟩ := replaces
    rw [leaves, if_pos ⟨rfl, inRange⟩, Option.some.injEq]
    constructor
    · rintro rfl
      exact ⟨payload, ttl, rfl, rfl⟩
    · rintro ⟨_, _, same, rfl⟩
      cases same
      rfl
  | delete k =>
    cases replaces
    rw [leaves, if_pos rfl]
    exact ⟨nofun, nofun⟩
  | clear => exact ⟨nofun, nofun⟩
  | _ => exact replaces.elim

/-- What stands under a key was set by the last operation that changed what it holds. -/
theorem standing_iff {held : Entry} : standing key history = some held ↔
    ∃ payload ttl moment, LastKept key payload ttl moment history ∧
      held = ⟨payload, moment + ttl⟩ := by
  induction history using List.reverseRecOn with
  | nil =>
    constructor
    · intro none
      cases none
    · rintro ⟨_, _, _, ⟨last, _⟩, _⟩
      exact absurd last not_lastOf_nil
  | append_singleton history e ih =>
    rw [standing_concat]
    simp only [LastKept, lastOf_concat]
    by_cases replaces : e.act.replaces key e.now
    · rw [Op.leaves_of_replaces replaces]
      constructor
      · rintro ⟨payload, ttl, act, rfl⟩
        rw [act] at replaces
        exact ⟨payload, ttl, e.now, ⟨.inl (by rw [← act]), replaces.2⟩, rfl⟩
      · rintro ⟨payload, ttl, moment, ⟨rfl | ⟨stays, _⟩, _⟩, rfl⟩
        · exact ⟨payload, ttl, rfl, rfl⟩
        · exact absurd replaces stays
    · rw [Op.leaves_of_other replaces, ih]
      constructor
      · rintro ⟨payload, ttl, moment, ⟨last, inRange⟩, rfl⟩
        exact ⟨payload, ttl, moment, ⟨.inr ⟨replaces, last⟩, inRange⟩, rfl⟩
      · rintro ⟨payload, ttl, moment, ⟨rfl | ⟨_, last⟩, inRange⟩, rfl⟩
        · exact absurd ⟨rfl, inRange⟩ replaces
        · exact ⟨payload, ttl, moment, ⟨last, inRange⟩, rfl⟩

theorem standing_writes :
    standing key (history.filter (·.act.writes)) = standing key history := by
  rw [standing, List.foldl_filter]
  refine congrArg (fun step => history.foldl step none) (funext fun held => funext fun e => ?_)
  cases act : e.act with
  | get other => rfl
  | purge => rfl
  | _ => rfl

theorem fresh_of_later {e : Entry} {moment : Span} (later : moment ≤ now)
    (stays : fresh now e = true) : fresh moment e = true := by
  simp only [fresh, decide_eq_true_eq] at stays ⊢
  exact Nat.lt_of_le_of_lt later stays

theorem fresh_get (b : Backend) (other : String) :
    ((b.get now other).2.entries.get? key).filter (fresh now) =
      (b.entries.get? key).filter (fresh now) := by
  rw [get]
  cases held : b.entries.get? other with
  | none => rfl
  | some e =>
    cases stays : fresh now e with
    | true => simp only [stays, ↓reduceIte]
    | false =>
      simp only [stays, Bool.false_eq_true, ↓reduceIte, Directory.get?_erase]
      by_cases same : key = other
      · rw [if_pos same, same, held, Option.filter_some, if_neg (by simp [stays])]
        rfl
      · rw [if_neg same]

/-- No operation makes a difference but the one that is meant, if expired entries do not count. -/
theorem fresh_next (b : Backend) (op : Op) :
    ((op.next now b).entries.get? key).filter (fresh now) =
      (op.leaves key now (b.entries.get? key)).filter (fresh now) := by
  cases op with
  | set other payload ttl =>
    rw [Op.next, Op.leaves, set]
    by_cases inRange : now + ttl < Time.clockEnd
    · rw [if_pos inRange, Directory.get?_set]
      by_cases same : key = other
      · rw [if_pos same, if_pos ⟨same.symm, inRange⟩]
      · rw [if_neg same, if_neg fun both => same both.1.symm]
    · rw [if_neg inRange, if_neg fun both => inRange both.2]
  | get other => exact fresh_get b other
  | delete other =>
    rw [Op.next, Op.leaves, delete, Directory.get?_erase]
    simp only [eq_comm]
  | purge =>
    rw [Op.next, Op.leaves, purge, Directory.get?_filter, Option.filter_filter]
    simp only [Bool.and_self]
  | clear => rfl

theorem leaves_fresh (op : Op) {held other : Option Entry}
    (same : held.filter (fresh now) = other.filter (fresh now)) :
    (op.leaves key now held).filter (fresh now) = (op.leaves key now other).filter (fresh now) := by
  by_cases replaces : op.replaces key now
  · have equal : op.leaves key now held = op.leaves key now other := by
      refine Option.ext fun e => ?_
      rw [Op.leaves_of_replaces replaces, Op.leaves_of_replaces replaces]
    rw [equal]
  · rw [Op.leaves_of_other replaces, Op.leaves_of_other replaces, same]

theorem filter_fresh_later {moment : Span} (later : moment ≤ now) {held other : Option Entry}
    (same : held.filter (fresh moment) = other.filter (fresh moment)) :
    held.filter (fresh now) = other.filter (fresh now) := by
  have twice (o : Option Entry) :
      o.filter (fresh now) = (o.filter (fresh moment)).filter (fresh now) := by
    cases o with
    | none => rfl
    | some e =>
      cases stays : fresh now e with
      | true => simp [Option.filter_some, stays, fresh_of_later later stays]
      | false => cases before : fresh moment e <;> simp [Option.filter_some, stays, before]
  rw [twice held, twice other, same]

/-- At any moment a key holds what stands under it, if that has not expired. -/
theorem held_eq_standing (inTime : InTime now history) :
    ((after history).entries.get? key).filter (fresh now) =
      (standing key history).filter (fresh now) := by
  induction history using List.reverseRecOn generalizing now with
  | nil => rfl
  | append_singleton history e ih =>
    obtain ⟨before, later⟩ := inTime.concat
    refine filter_fresh_later later ?_
    rw [after_concat, standing_concat, fresh_next]
    exact leaves_fresh e.act (ih before)

theorem found_eq (b : Backend) :
    b.found now key = ((b.entries.get? key).filter (fresh now)).map (·.payload) := by
  rw [found, get]
  cases b.entries.get? key with
  | none => rfl
  | some e => cases stays : fresh now e <;> simp [Option.filter_some, stays]

theorem found_after (inTime : InTime now history) :
    (after history).found now key =
      ((standing key history).filter (fresh now)).map (·.payload) := by
  rw [found_eq, held_eq_standing inTime]

theorem LastKept.set {payload : Bytes} {ttl moment : Span}
    (kept : LastKept key payload ttl moment history) :
    ∃ payload ttl moment, LastSet key payload ttl moment history := by
  obtain ⟨last, _⟩ := kept
  induction history using List.reverseRecOn with
  | nil => exact absurd last not_lastOf_nil
  | append_singleton history e ih =>
    rcases lastOf_concat.1 last with rfl | ⟨stays, earlier⟩
    · exact ⟨_, _, _, lastOf_concat.2 (.inl rfl)⟩
    · by_cases concerns : e.act.concerns key
      · obtain ⟨now, act⟩ := e
        cases act with
        | set other payload ttl =>
          cases concerns
          exact ⟨_, _, _, lastOf_concat.2 (.inl rfl)⟩
        | get other => exact concerns.elim
        | purge => exact concerns.elim
        | _ => exact absurd concerns stays
      · obtain ⟨payload, ttl, moment, set⟩ := ih earlier
        exact ⟨payload, ttl, moment, lastOf_concat.2 (.inr ⟨concerns, set⟩)⟩

/-- A look-up gives the payload that was kept last, until its time is over. -/
theorem found_iff (inTime : InTime now history) {payload : Bytes} :
    (after history).found now key = some payload ↔
      ∃ ttl moment, LastKept key payload ttl moment history ∧ now < moment + ttl := by
  simp only [found_after inTime, Option.map_eq_some_iff, Option.filter_eq_some_iff, standing_iff,
    fresh, decide_eq_true_eq]
  constructor
  · rintro ⟨e, ⟨⟨payload, ttl, moment, last, rfl⟩, stays⟩, rfl⟩
    exact ⟨ttl, moment, last, stays⟩
  · rintro ⟨ttl, moment, last, stays⟩
    exact ⟨_, ⟨⟨payload, ttl, moment, last, rfl⟩, stays⟩, rfl⟩

/-- Look-ups and purges in the course of a history change nothing that is found later. -/
theorem found_of_writes {other : List (Timed Op)} (inTime : InTime now history)
    (also : InTime now other)
    (same : other.filter (·.act.writes) = history.filter (·.act.writes)) :
    (after other).found now key = (after history).found now key := by
  rw [found_after also, found_after inTime, ← standing_writes, same, standing_writes]

/-- A purge drops exactly the entries that have expired. -/
theorem purged_eq (b : Backend) :
    b.purged now = b.entries.entries.countP fun e => !fresh now e.2 := by
  have parts := List.length_eq_countP_add_countP (fun e : String × Entry => fresh now e.2)
    (l := b.entries.entries)
  rw [purged, size, Directory.size, size, Directory.size, purge, Directory.filter,
    ← List.countP_eq_length_filter]
  simp only [Bool.not_eq_true, Bool.decide_eq_false] at parts
  omega

theorem size_purge_le (b : Backend) : (b.purge now).size ≤ b.size :=
  List.length_filter_le _ _

theorem purge_found (b : Backend) :
    ((b.purge now).entries.get? key).map (·.payload) = b.found now key := by
  rw [found_eq, purge, Directory.get?_filter]

end

/-- At any moment a key gives the payload that was kept last and not dropped since, until its time
is over. So it gives the payload that was set last, unless that would last past the clock's range
and was not kept; and a key gives nothing that has not been set, or dropped since. Look-ups and
purges make no difference to what is found later. A purge drops just the entries that have expired,
answers how many there were, and leaves what look-ups give. -/
theorem payload_served {now : Span} {history : List (Timed Op)} (inTime : InTime now history)
    (key : String) :
    let b := after history
    (∀ payload, b.found now key = some payload ↔
      ∃ ttl moment, LastKept key payload ttl moment history ∧ now < moment + ttl) ∧
    (∀ payload ttl moment, LastSet key payload ttl moment history →
      moment + ttl < Time.clockEnd →
        b.found now key = if now < moment + ttl then some payload else none) ∧
    ((∀ payload ttl moment, ¬LastSet key payload ttl moment history) → b.found now key = none) ∧
    (∀ other, InTime now other →
      other.filter (·.act.writes) = history.filter (·.act.writes) →
        (after other).found now key = b.found now key) ∧
    b.purged now + (b.purge now).size = b.size ∧
    b.purged now = b.entries.entries.countP (fun e => !fresh now e.2) ∧
    ((b.purge now).entries.get? key).map (·.payload) = b.found now key := by
  intro b
  refine ⟨fun payload => found_iff inTime, ?_, ?_, fun other also same => ?_, ?_, purged_eq b,
    purge_found b⟩
  · intro payload ttl moment last inRange
    have kept : LastKept key payload ttl moment history :=
      ⟨last.mono fun _ _ => Op.concerns_of_replaces, inRange⟩
    have stands : standing key history = some ⟨payload, moment + ttl⟩ :=
      standing_iff.2 ⟨payload, ttl, moment, kept, rfl⟩
    rw [found_after inTime, stands, Option.filter_some]
    by_cases stays : now < moment + ttl
    · rw [if_pos stays, if_pos (by simpa only [fresh, decide_eq_true_eq] using stays),
        Option.map_some]
    · rw [if_neg stays, if_neg (by simpa only [fresh, decide_eq_true_eq] using stays),
        Option.map_none]
  · intro unset
    by_contra some
    obtain ⟨payload, found⟩ := Option.ne_none_iff_exists'.1 some
    obtain ⟨_, _, kept, _⟩ := (found_iff inTime).1 found
    obtain ⟨_, _, _, set⟩ := kept.set
    exact unset _ _ _ set
  · exact found_of_writes inTime also same
  · exact Nat.sub_add_cancel (size_purge_le b)

namespace Sample

/-- A payload is set, and another in its place before its time is over. -/
def renewed : List (Timed Op) :=
  [⟨0, .set "k" [1] (Span.ofSeconds 2)⟩, ⟨Span.ofSeconds 1, .set "k" [2] (Span.ofSeconds 2)⟩,
    ⟨Span.ofSeconds 2, .purge⟩]

/-- A payload is set, and another, but for longer than the clock goes. -/
def overlong : List (Timed Op) :=
  [⟨0, .set "k" [1] (Span.ofSeconds 60)⟩, ⟨0, .set "k" [2] (Span.ofSeconds (2 ^ 64 - 1))⟩]

end Sample

/-- The later payload is given out when the time of the earlier one would be over. -/
theorem renewed_payload_served :
    InTime (Span.ofMillis 2500) Sample.renewed ∧
    LastSet "k" [2] (Span.ofSeconds 2) (Span.ofSeconds 1) Sample.renewed ∧
    (after Sample.renewed).found (Span.ofMillis 2500) "k" = some [2] := by
  have inTime : InTime (Span.ofMillis 2500) Sample.renewed := ⟨by decide, by decide⟩
  have last : LastSet "k" [2] (Span.ofSeconds 2) (Span.ofSeconds 1) Sample.renewed :=
    ⟨Sample.renewed.take 1, [⟨Span.ofSeconds 2, .purge⟩], rfl, fun other inside => by
      cases List.mem_singleton.1 inside
      exact not_false⟩
  refine ⟨inTime, last, ?_⟩
  exact (payload_served inTime "k").2.1 [2] _ _ last (by decide)

/-- A payload that is not kept leaves the one before it, which goes on to be given out. -/
theorem superseded_payload_served :
    InTime 0 Sample.overlong ∧
    LastSet "k" [2] (Span.ofSeconds (2 ^ 64 - 1)) 0 Sample.overlong ∧
    (after Sample.overlong).found 0 "k" = some [1] :=
  ⟨⟨by decide, by decide⟩, ⟨[⟨0, .set "k" [1] (Span.ofSeconds 60)⟩], [], rfl, nofun⟩, by decide⟩

end Backend

end Agora.Cache
