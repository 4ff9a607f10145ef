import Agora.Shutdown
import Mathlib.Data.List.Induction
import Mathlib.Data.Set.Card

/-!
Who gets the signal to shut down. The channel of the signal could lose messages, to receivers that
come too late and to receivers that are too slow, but the signal goes out on it once at most. So
whoever listens at that moment is given it once, at the first look after it, and nobody else ever
is; nor has anyone ever missed a message.
-/

set_option autoImplicit false

namespace Agora

namespace Broadcast

variable {b : Broadcast} {i j p : Nat}

theorem lt_of_position? (listens : b.position? i = some p) : i < b.receivers.length := by
  refine Nat.lt_of_not_le fun missing => ?_
  rw [position?, List.getElem?_eq_none missing] at listens
  cases listens

theorem position?_subscribe :
    b.subscribe.2.position? j = if j = b.receivers.length then some b.sent else b.position? j := by
  simp only [subscribe, position?, List.getElem?_append, List.getElem?_singleton]
  by_cases old : j < b.receivers.length
  · rw [if_pos old, if_neg (Nat.ne_of_lt old)]
  · rw [if_neg old, List.getElem?_eq_none (Nat.le_of_not_lt old)]
    by_cases new : j = b.receivers.length
    · rw [if_pos new, if_pos (by omega)]
      rfl
    · rw [if_neg new, if_neg (by omega)]

theorem position?_drop : (b.drop i).position? j = if j = i then none else b.position? j := by
  simp only [drop, place, position?, List.getElem?_set]
  by_cases same : i = j
  · subst same
    rw [if_pos rfl, if_pos rfl]
    split <;> rfl
  · rw [if_neg same, if_neg fun equal => same equal.symm]

theorem position?_place (listens : b.position? i = some p) (position : Nat) :
    (b.place i (some position)).position? j = if j = i then some position else b.position? j := by
  have inside := lt_of_position? listens
  simp only [place, position?, List.getElem?_set]
  by_cases same : i = j
  · subst same
    rw [if_pos rfl, if_pos rfl, if_pos inside]
    rfl
  · rw [if_neg same, if_neg fun equal => same equal.symm]

@[simp] theorem receivers_send : b.send.receivers = b.receivers := by
  unfold send
  split <;> rfl

theorem sent_send (listens : b.position? i = some p) : b.send.sent = b.sent + 1 := by
  have some : 0 < b.listening := by
    refine List.countP_pos_iff.2 ⟨some p, ?_, rfl⟩
    exact List.mem_of_getElem? (Option.join_eq_some_iff.1 listens)
  rw [send, if_neg (Nat.ne_of_gt some)]

theorem receive_latest (listens : b.position? i = some p) (latest : p + 1 = b.sent) :
    b.receive i = (.message, b.place i (some b.sent)) := by
  rw [receive, listens]
  dsimp only
  rw [if_neg (by omega), if_pos latest]

theorem receive_nothing (idle : ∀ p, b.position? i = some p → p = b.sent) :
    b.receive i = (.nothing, b) := by
  rw [receive]
  cases stands : b.position? i with
  | none => rfl
  | some p => exact if_pos (Nat.le_of_eq (idle p stands).symm)

theorem listening_eq (b : Broadcast) : b.listening = {i | (b.position? i).isSome}.ncard := by
  obtain ⟨sent, receivers⟩ := b
  simp only [listening, position?]
  induction receivers using List.reverseRecOn with
  | nil => simp
  | append_singleton receivers last ih =>
    let standing : Set Nat := {i | receivers[i]?.join.isSome}
    have below : ∀ i ∈ standing, i < receivers.length := fun i stands => by
      refine Nat.lt_of_not_le fun missing => ?_
      rw [Set.mem_ofPred_eq, List.getElem?_eq_none missing] at stands
      cases stands
    have grown : {i : Nat | (receivers ++ [last])[i]?.join.isSome} =
        if last.isSome then insert receivers.length standing else standing := by
      ext i
      rw [Set.mem_ofPred_eq, List.getElem?_append]
      by_cases old : i < receivers.length
      · rw [if_pos old]
        change i ∈ standing ↔ _
        split
        · exact (Set.mem_insert_iff.trans (or_iff_right (Nat.ne_of_lt old))).symm
        · rfl
      · have out : i ∉ standing := fun inside => old (below i inside)
        rw [if_neg old, List.getElem?_singleton]
        by_cases new : i = receivers.length
        · subst new
          rw [if_pos (Nat.sub_self _)]
          cases last with
          | none => exact iff_of_false nofun out
          | some p => exact iff_of_true rfl (Set.mem_insert _ _)
        · rw [if_neg (by omega)]
          refine iff_of_false nofun fun inside => ?_
          split at inside
          · exact (Set.mem_insert_iff.1 inside).elim new out
          · exact out inside
    rw [List.countP_append, ih, grown]
    cases last with
    | none => rfl
    | some p =>
      have new : receivers.length ∉ standing := fun inside => Nat.lt_irrefl _ (below _ inside)
      exact (Set.ncard_insert_of_notMem new ((Set.finite_lt_nat _).subset below)).symm

end Broadcast

namespace Shutdown

inductive Event where
  | subscribe
  | drop (receiver : Nat)
  | trigger
  | receive (receiver : Nat)
  deriving DecidableEq, Repr

def Event.next (s : Shutdown) : Event → Shutdown
  | .subscribe => s.subscribe.2
  | .drop i => s.drop i
  | .trigger => s.trigger.2
  | .receive i => (s.receive i).2

/-- The signal after some events. -/
def after (history : List Event) : Shutdown := history.foldl Event.next {}

/-- What a receiver finds in the course of some events, at each of its looks. -/
def receipts (i : Nat) : Shutdown → List Event → List Receipt
  | _, [] => []
  | s, e :: rest =>
    if e = .receive i then (s.receive i).1 :: receipts i (e.next s) rest
    else receipts i (e.next s) rest

/-- The number of subscriptions. Receivers are numbered in their order, from zero. -/
def subscriptions (history : List Event) : Nat := history.count .subscribe

/-- An event has happened, at a time of a kind, and another has not happened since. -/
def Since (e : Event) (time : List Event → Prop) (ending : Event) (history : List Event) : Prop :=
  ∃ before later, history = before ++ e :: later ∧ time before ∧ ending ∉ later

/-- A receiver listens: it has subscribed, and has not been dropped. -/
def Listens (i : Nat) : List Event → Prop :=
  Since .subscribe (fun before => subscriptions before = i) (.drop i)

/-- A receiver is due the signal: it had subscribed when the signal was given first, and has not
looked since. -/
def Due (i : Nat) : List Event → Prop :=
  Since .trigger (fun before => .trigger ∉ before ∧ i < subscriptions before) (.receive i)

section

variable {e ending last : Event} {time : List Event → Prop} {history : List Event} {i : Nat}

theorem not_since_nil : ¬Since e time ending [] := by
  rintro ⟨before, later, split, _⟩
  cases before <;> cases split

theorem since_concat : Since e time ending (history ++ [last]) ↔
    e = last ∧ time history ∨ Since e time ending history ∧ ending ≠ last := by
  constructor
  · rintro ⟨before, later, split, timely, lasts⟩
    rcases List.eq_nil_or_concat later with rfl | ⟨later, final, rfl⟩
    · obtain ⟨rfl, same⟩ := List.append_inj' split rfl
      cases same
      exact .inl ⟨rfl, timely⟩
    · rw [List.concat_eq_append] at split lasts
      rw [← List.cons_append, ← List.append_assoc] at split
      obtain ⟨rfl, same⟩ := List.append_inj' split rfl
      cases same
      refine .inr ⟨⟨before, later, rfl, timely, fun inside => ?_⟩, ?_⟩
      · exact lasts (List.mem_append_left _ inside)
      · rintro rfl
        exact lasts (List.mem_append_right _ (.head _))
  · rintro (⟨rfl, timely⟩ | ⟨⟨before, later, rfl, timely, lasts⟩, apart⟩)
    · exact ⟨history, [], rfl, timely, List.not_mem_nil⟩
    · refine ⟨before, later ++ [last], by simp, timely, fun inside => ?_⟩
      rcases List.mem_append.1 inside with inside | inside
      · exact lasts inside
      · exact apart (List.mem_singleton.1 inside)

theorem after_concat : after (history ++ [last]) = last.next (after history) := by
  rw [after, List.foldl_append]
  rfl

theorem receipts_append (i : Nat) (s : Shutdown) (before rest : List Event) :
    receipts i s (before ++ rest) =
      receipts i s before ++ receipts i (before.foldl Event.next s) rest := by
  induction before generalizing s with
  | nil => rfl
  | cons e before ih =>
    simp only [List.cons_append, receipts, List.foldl_cons, ih]
    split <;> rfl

theorem receipts_concat (i : Nat) (history : List Event) (last : Event) :
    receipts i {} (history ++ [last]) = receipts i {} history ++
      if last = .receive i then [((after history).receive i).1] else [] := by
  rw [receipts_append]
  rfl

theorem subscriptions_concat : subscriptions (history ++ [last]) =
    subscriptions history + if last = .subscribe then 1 else 0 := by
  rw [subscriptions, List.count_append, List.count_singleton]
  simp [subscriptions]

theorem listens_concat : Listens i (history ++ [last]) ↔
    last = .subscribe ∧ subscriptions history = i ∨ Listens i history ∧ last ≠ .drop i := by
  rw [Listens, since_concat, eq_comm, ne_comm]

theorem due_concat : Due i (history ++ [last]) ↔
    last = .trigger ∧ .trigger ∉ history ∧ i < subscriptions history ∨
      Due i history ∧ last ≠ .receive i := by
  rw [Due, since_concat, eq_comm, ne_comm]

theorem due_concat_of_ne (other : last ≠ .trigger) (apart : last ≠ .receive i) :
    Due i (history ++ [last]) ↔ Due i history := by
  rw [due_concat]
  exact ⟨fun due => (due.resolve_left fun given => other given.1).1, fun due => .inr ⟨due, apart⟩⟩

/-- The signal has been given to whoever is due it, after the receiver had subscribed. -/
theorem Due.given (due : Due i history) : .trigger ∈ history ∧ i < subscriptions history := by
  obtain ⟨before, later, rfl, ⟨_, early⟩, _⟩ := due
  refine ⟨by simp, Nat.lt_of_lt_of_le early ?_⟩
  rw [subscriptions, subscriptions, List.count_append]
  exact Nat.le_add_right _ _

/-- A receiver that had not subscribed when the signal was given is never due it. -/
theorem not_due_of_late {before later : List Event} (split : history = before ++ .trigger :: later)
    (late : subscriptions before ≤ i) : ¬Due i history := by
  rintro ⟨first, rest, again, ⟨unsent, early⟩, _⟩
  rw [split] at again
  rcases List.append_eq_append_iff.1 again with ⟨between, rfl, more⟩ | ⟨between, rfl, _⟩
  · cases between with
    | nil =>
      rw [List.append_nil] at early
      exact Nat.not_le_of_lt early late
    | cons e between =>
      cases more
      exact unsent (List.mem_append_right _ (.head _))
  · rw [subscriptions, List.count_append] at late
    exact Nat.not_le_of_lt early (Nat.le_of_add_right_le late)

end

/-- The signal is as a history says: each receiver that listens stands at the end of the channel, or
one message before it if it is due the signal. -/
structure Tells (history : List Event) (s : Shutdown) : Prop where
  triggered : s.triggered = true ↔ .trigger ∈ history
  numbered : s.channel.receivers.length = subscriptions history
  listens (i : Nat) : (s.channel.position? i).isSome ↔ Listens i history
  stands (i p : Nat) : s.channel.position? i = some p →
    Due i history ∧ p + 1 = s.channel.sent ∨ ¬Due i history ∧ p = s.channel.sent

theorem tells_nil : Tells [] {} where
  triggered := by simp
  numbered := rfl
  listens i := iff_of_false nofun not_since_nil
  stands i p stands := by cases stands

namespace Tells

variable {history : List Event} {s : Shutdown} {i : Nat}

theorem receive_due (tells : Tells history s) (due : Due i history) (listens : Listens i history) :
    ∃ p, s.channel.position? i = some p ∧
      s.channel.receive i = (.message, s.channel.place i (some s.channel.sent)) := by
  obtain ⟨p, stands⟩ := Option.isSome_iff_exists.1 ((tells.listens i).2 listens)
  rcases tells.stands i p stands with ⟨_, behind⟩ | ⟨idle, _⟩
  · exact ⟨p, stands, Broadcast.receive_latest stands behind⟩
  · exact absurd due idle

theorem receive_idle (tells : Tells history s) (idle : Due i history → ¬Listens i history) :
    s.channel.receive i = (.nothing, s.channel) := by
  refine Broadcast.receive_nothing fun p stands => ?_
  rcases tells.stands i p stands with ⟨due, _⟩ | ⟨_, latest⟩
  · exact absurd ((tells.listens i).1 (stands ▸ rfl)) (idle due)
  · exact latest

theorem subscribe (tells : Tells history s) : Tells (history ++ [.subscribe]) s.subscribe.2 where
  triggered := by simpa [Shutdown.subscribe] using tells.triggered
  numbered := by
    rw [subscriptions_concat, ← tells.numbered]
    exact List.length_append
  listens i := by
    rw [listens_concat, ← tells.numbered, ← tells.listens]
    change (s.channel.subscribe.2.position? i).isSome = true ↔ _
    rw [Broadcast.position?_subscribe]
    split
    · simp [*]
    · simp [Ne.symm ‹_›]
  stands i p stands := by
    have same : Due i (history ++ [.subscribe]) ↔ Due i history := due_concat_of_ne nofun nofun
    change s.channel.subscribe.2.position? i = some p at stands
    rw [Broadcast.position?_subscribe] at stands
    rw [same]
    split at stands
    · rename_i new
      have young : ¬Due i history := fun due =>
        Nat.not_lt_of_le (Nat.le_of_eq (tells.numbered.symm.trans new.symm)) due.given.2
      exact .inr ⟨young, (Option.some.inj stands).symm⟩
    · exact tells.stands i p stands

theorem drop (tells : Tells history s) (j : Nat) : Tells (history ++ [.drop j]) (s.drop j) where
  triggered := by simpa [Shutdown.drop] using tells.triggered
  numbered := by
    rw [subscriptions_concat, ← tells.numbered]
    exact List.length_set
  listens i := by
    rw [listens_concat, ← tells.listens]
    change ((s.channel.drop j).position? i).isSome = true ↔ _
    rw [Broadcast.position?_drop]
    split
    · simp [*]
    · simp [Ne.symm ‹_›]
  stands i p stands := by
    have same : Due i (history ++ [.drop j]) ↔ Due i history := due_concat_of_ne nofun nofun
    change (s.channel.drop j).position? i = some p at stands
    rw [Broadcast.position?_drop] at stands
    rw [same]
    split at stands
    · cases stands
    · exact tells.stands i p stands

/-- The first time that the signal is given, it is sent to all who listen. -/
theorem trigger (tells : Tells history s) : Tells (history ++ [.trigger]) s.trigger.2 := by
  have listens (i : Nat) : (s.channel.position? i).isSome ↔ Listens i (history ++ [.trigger]) := by
    rw [tells.listens, listens_concat]
    simp
  have numbered : s.channel.receivers.length = subscriptions (history ++ [.trigger]) := by
    rw [subscriptions_concat, tells.numbered]
    rfl
  by_cases again : s.triggered = true
  · have given := tells.triggered.1 again
    rw [Shutdown.trigger, if_pos again]
    refine ⟨iff_of_true again (by simp), numbered, listens, fun i p stands => ?_⟩
    have same : Due i (history ++ [.trigger]) ↔ Due i history := by
      simp [due_concat, given]
    rw [same]
    exact tells.stands i p stands
  · have unsent : .trigger ∉ history := fun given => again (tells.triggered.2 given)
    rw [Shutdown.trigger, if_neg again]
    have standing (i : Nat) : s.channel.send.position? i = s.channel.position? i := by
      rw [Broadcast.position?, Broadcast.receivers_send, Broadcast.position?]
    refine ⟨iff_of_true rfl (by simp), ?_, fun i => ?_, fun i p stands => ?_⟩
    · rw [← numbered, Broadcast.receivers_send]
    · rw [← listens, standing]
    · rw [standing] at stands
      rw [Broadcast.sent_send stands]
      have subscribed : i < subscriptions history :=
        tells.numbered ▸ Broadcast.lt_of_position? stands
      rcases tells.stands i p stands with ⟨due, _⟩ | ⟨_, latest⟩
      · exact absurd due.given.1 unsent
      · exact .inl ⟨due_concat.2 (.inl ⟨rfl, unsent, subscribed⟩), congrArg (· + 1) latest⟩

theorem receive (tells : Tells history s) (j : Nat) :
    Tells (history ++ [.receive j]) (s.receive j).2 := by
  have listens (i : Nat) : (s.channel.position? i).isSome ↔
      Listens i (history ++ [.receive j]) := by
    rw [tells.listens, listens_concat]
    simp
  have numbered : s.channel.receivers.length = subscriptions (history ++ [.receive j]) := by
    rw [subscriptions_concat, tells.numbered]
    rfl
  have triggered : s.triggered = true ↔ .trigger ∈ history ++ [.receive j] := by
    simpa using tells.triggered
  have other {i : Nat} (apart : i ≠ j) : Due i (history ++ [.receive j]) ↔ Due i history := by
    simp [due_concat, apart.symm]
  by_cases found : Due j history ∧ Listens j history
  · obtain ⟨p, here, looked⟩ := tells.receive_due found.1 found.2
    simp only [Shutdown.receive, looked]
    refine ⟨triggered, ?_, fun i => ?_, fun i q stands => ?_⟩
    · rw [← numbered]
      exact List.length_set
    · rw [← listens, Broadcast.position?_place here]
      split
      · simp [*]
      · rfl
    · rw [Broadcast.position?_place here] at stands
      by_cases same : i = j
      · subst same
        rw [if_pos rfl] at stands
        exact .inr ⟨by simp [due_concat], (Option.some.inj stands).symm⟩
      · rw [if_neg same] at stands
        rw [other same]
        exact tells.stands i q stands
  · have looked := tells.receive_idle fun due listens => found ⟨due, listens⟩
    simp only [Shutdown.receive, looked]
    refine ⟨triggered, numbered, listens, fun i q stands => ?_⟩
    rcases tells.stands i q stands with ⟨due, behind⟩ | ⟨idle, latest⟩
    · have apart : i ≠ j := by
        rintro rfl
        exact found ⟨due, (tells.listens i).1 (stands ▸ rfl)⟩
      exact .inl ⟨(other apart).2 due, behind⟩
    · refine .inr ⟨fun due => ?_, latest⟩
      rcases due_concat.1 due with ⟨none, _⟩ | ⟨due, _⟩
      · cases none
      · exact idle due

/-- What an event does to the signal is what it adds to the history. -/
theorem next (tells : Tells history s) (e : Event) : Tells (history ++ [e]) (e.next s) := by
  cases e with
  | subscribe => exact tells.subscribe
  | drop j => exact tells.drop j
  | trigger => exact tells.trigger
  | receive j => exact tells.receive j

end Tells

/-- In the course of any events the signal stays as the history says. -/
theorem tells_after (history : List Event) : Tells history (after history) := by
  induction history using List.reverseRecOn with
  | nil => exact tells_nil
  | append_singleton history last ih =>
    rw [after_concat]
    exact ih.next last

section

variable {history : List Event} {i : Nat}

theorem receive_of_due (due : Due i history) (listens : Listens i history) :
    ((after history).receive i).1 = .message := by
  obtain ⟨_, _, looked⟩ := (tells_after history).receive_due due listens
  exact congrArg Prod.fst looked

theorem receive_of_idle (idle : ¬(Due i history ∧ Listens i history)) :
    ((after history).receive i).1 = .nothing :=
  congrArg Prod.fst ((tells_after history).receive_idle fun due listens => idle ⟨due, listens⟩)

/-- A receiver that has been given the signal is not due it again. -/
theorem once_given (i : Nat) (history : List Event) :
    (receipts i {} history).count .message = 0 ∨
      (receipts i {} history).count .message = 1 ∧ .trigger ∈ history ∧ ¬Due i history := by
  induction history using List.reverseRecOn with
  | nil => exact .inl rfl
  | append_singleton history last ih =>
    have later (given : .trigger ∈ history) (idle : ¬Due i history) :
        ¬Due i (history ++ [last]) := by
      simp [due_concat, given, idle]
    rw [receipts_concat, List.count_append]
    by_cases looks : last = .receive i
    · subst looks
      rw [if_pos rfl]
      by_cases found : Due i history ∧ Listens i history
      · rw [receive_of_due found.1 found.2]
        rcases ih with none | ⟨_, _, idle⟩
        · refine .inr ⟨by rw [none]; rfl, List.mem_append_left _ found.1.given.1, ?_⟩
          simp [due_concat]
        · exact absurd found.1 idle
      · rw [receive_of_idle found]
        rcases ih with none | ⟨one, given, idle⟩
        · exact .inl none
        · exact .inr ⟨one, List.mem_append_left _ given, later given idle⟩
    · rw [if_neg looks]
      rcases ih with none | ⟨one, given, idle⟩
      · exact .inl none
      · exact .inr ⟨one, List.mem_append_left _ given, later given idle⟩

end

/-- What the signal and its receivers do after a history. -/
structure Delivers (history : List Event) : Prop where
  /-- Only the first time that the signal is given is told to be the first. -/
  first : (after history).trigger.1 = true ↔ .trigger ∉ history
  triggered : (after history).triggered = true ↔ .trigger ∈ history
  listening : (after history).listening = {i | Listens i history}.ncard
  given (i : Nat) :
    ((after history).receive i).1 = .message ↔ Due i history ∧ Listens i history
  idle (i : Nat) :
    ((after history).receive i).1 = .nothing ↔ ¬(Due i history ∧ Listens i history)
  /-- Who subscribes after the signal has been given finds nothing, ever. -/
  late (i : Nat) (before later : List Event) : history = before ++ .trigger :: later →
    subscriptions before ≤ i → ((after history).receive i).1 = .nothing
  once (i : Nat) : (receipts i {} history).count .message ≤ 1

/-- In every course of events, the signal is given to each receiver that had subscribed when it was
given first, once, at the first look after it, and to no other receiver; and nothing else is ever
found. -/
theorem signal_delivered_once (history : List Event) : Delivers history where
  first := by
    rw [← (tells_after history).triggered, trigger]
    split <;> simp [*]
  triggered := (tells_after history).triggered
  listening := by
    rw [listening, Broadcast.listening_eq]
    simp only [(tells_after history).listens]
  given i := by
    refine ⟨fun found => ?_, fun due => receive_of_due due.1 due.2⟩
    by_contra idle
    rw [receive_of_idle idle] at found
    cases found
  idle i := by
    refine ⟨fun found due => ?_, receive_of_idle⟩
    rw [receive_of_due due.1 due.2] at found
    cases found
  late i before later split late :=
    receive_of_idle fun due => not_due_of_late split late due.1
  once i := by
    rcases once_given i history with none | ⟨one, _⟩
    · exact Nat.le_trans (Nat.le_of_eq none) (Nat.zero_le 1)
    · exact Nat.le_of_eq one

/-- A receiver that has been dropped, one that looks twice, and one that comes too late. -/
example :
    let history : List Event :=
      [.subscribe, .subscribe, .receive 0, .subscribe, .drop 1, .trigger, .subscribe, .trigger,
        .receive 0, .receive 3, .receive 0]
    (receipts 0 {} history, receipts 2 {} (history ++ [.receive 2]), receipts 3 {} history,
      (after history).listening) =
        ([.nothing, .message, .nothing], [.message], [.nothing], 3) := by
  decide

end Shutdown

end Agora
