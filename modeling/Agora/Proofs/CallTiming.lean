import Agora.Service.Plan

set_option autoImplicit false

namespace Agora.Service

open Time (Span)

namespace State

variable (moment : Span) (s : State)

theorem catchUp_store : (s.catchUp moment).store = s.store := by
  unfold catchUp
  split <;> rfl

theorem catchUp_clock : (s.catchUp moment).clock = s.clock := by
  unfold catchUp
  split <;> rfl

theorem catchUp_identities : (s.catchUp moment).identities = s.identities := by
  unfold catchUp
  split <;> rfl

@[simp] theorem rest_store : s.rest.store = s.store := catchUp_store s.clock s

@[simp] theorem rest_clock : s.rest.clock = s.clock := catchUp_clock s.clock s

@[simp] theorem wait_store : (s.wait moment).store = s.store := by
  unfold wait
  split
  · rfl
  · dsimp only
    split
    · rw [catchUp_store, rest_store]
    · exact rest_store s

@[simp] theorem rest_identities : s.rest.identities = s.identities :=
  catchUp_identities s.clock s

@[simp] theorem wait_identities : (s.wait moment).identities = s.identities := by
  unfold wait
  split
  · rfl
  · dsimp only
    split
    · rw [catchUp_identities, rest_identities]
    · exact rest_identities s

@[simp] theorem wait_clock : (s.wait moment).clock = max s.clock moment := by
  unfold wait
  split
  · rename_i past
    exact (Nat.max_eq_left past).symm
  · rename_i ahead
    exact (Nat.max_eq_right (Nat.le_of_not_le ahead)).symm

@[simp] theorem wait_now : s.wait s.clock = s := by
  simp only [wait, Nat.le_refl, ↓reduceIte]

end State

theorem performCall_of_prompt {env : Env} (prompt : env.delay = 0) (cutoff : Option Span)
    (c : Store.Call) (s : State) :
    performCall env cutoff c s =
      (some (s.store.perform env.now c).1, { s with store := (s.store.perform env.now c).2 }) := by
  rw [performCall, if_pos prompt]
  rfl

/-- How a call fares, and when that is settled. -/
inductive Fate where
  | made (moment : Span)
  | overdue (moment : Span)
  | cutOff (moment : Span)
  deriving DecidableEq

namespace Fate

/-- How a call fares that is waited for until a moment, unless the request is cut off before. -/
def ofWait (cut : Option Span) (soon : Bool) (wake : Span) : Fate :=
  match cut with
  | some cut => .cutOff cut
  | none => if soon then .made wake else .overdue wake

/-- What a call with a fate is answered, and the state after it. -/
def outcome {α : Type} (deadline : Span) (act : State → Except Store.Error α × State) (s : State) :
    Fate → Option (Except Store.Error α) × State
  | .made moment => (some (act (s.wait moment)).1, (act (s.wait moment)).2)
  | .overdue moment => (some (.error (.unavailable (.overdue deadline))), s.wait moment)
  | .cutOff moment => (none, s.wait moment)

end Fate

def fate (env : Env) (cutoff : Option Span) (start : Span) : Fate :=
  if env.delay = 0 then .made start
  else
    let limit := Time.limit? start env.deadline
    let wake := start + Time.waitFor limit env.delay
    .ofWait (cutoff.filter (· ≤ wake)) (Time.inTime limit env.delay) wake

/-- A call is what its fate says, performed on the state that has waited. -/
theorem performCall_eq (env : Env) (cutoff : Option Span) (c : Store.Call) (s : State) :
    performCall env cutoff c s =
      (fate env cutoff s.clock).outcome env.deadline (State.perform env.now c) s := by
  unfold performCall fate
  by_cases prompt : env.delay = 0
  · rw [if_pos prompt, if_pos prompt, Fate.outcome, State.wait_now]
  · rw [if_neg prompt, if_neg prompt]
    dsimp only
    generalize Time.limit? s.clock env.deadline = limit
    cases cutoff.filter (· ≤ s.clock + Time.waitFor limit env.delay) with
    | some cut => rfl
    | none => cases Time.inTime limit env.delay <;> rfl

/-- The store answers within the deadline of a call that starts at a moment. -/
def punctual (env : Env) (start : Span) : Bool :=
  env.delay = 0 || Time.inTime (Time.limit? start env.deadline) env.delay

/-- A delay that a call can bear, later calls can bear. -/
theorem punctual_mono {env : Env} {start later : Span} (order : start ≤ later)
    (soon : punctual env start = true) : punctual env later = true := by
  simp only [punctual, Time.inTime, Time.limit?, Bool.or_eq_true, decide_eq_true_eq] at soon ⊢
  rcases soon with prompt | soon
  · exact .inl prompt
  · refine .inr ?_
    by_cases near : later + env.deadline < Time.clockEnd
    · have before := Nat.lt_of_le_of_lt (Nat.add_le_add_right order env.deadline) near
      simpa only [near, before, ↓reduceIte] using soon
    · simp only [near, ↓reduceIte, Option.all_none]

/-- A call that is not overdue is made after the delay, unless the request is cut off by then. -/
theorem fate_of_punctual {env : Env} {start : Span} (soon : punctual env start = true)
    (cutoff : Option Span) :
    fate env cutoff start =
      .ofWait (cutoff.filter fun cut => env.delay ≠ 0 ∧ cut ≤ start + env.delay) true
        (start + env.delay) := by
  by_cases prompt : env.delay = 0
  · cases cutoff <;> simp [fate, prompt, Option.filter, Fate.ofWait]
  · have inTime : Time.inTime (Time.limit? start env.deadline) env.delay = true := by
      simpa only [punctual, prompt, decide_false, Bool.false_or] using soon
    have waiting : Time.waitFor (Time.limit? start env.deadline) env.delay = env.delay := by
      cases limit : Time.limit? start env.deadline with
      | none => rfl
      | some most =>
        have bound : env.delay ≤ most := by simpa [limit, Time.inTime] using inTime
        simp only [Time.waitFor, Option.elim_some, Nat.min_eq_left bound]
    simp only [fate, prompt, inTime, waiting, ne_eq, not_false_eq_true, true_and, ↓reduceIte]

theorem fate_of_late {env : Env} {start : Span} (late : punctual env start = false)
    (cutoff : Option Span) :
    ∃ wake, fate env cutoff start = .ofWait (cutoff.filter (· ≤ wake)) false wake := by
  simp only [punctual, Bool.or_eq_false_iff, decide_eq_false_iff_not] at late
  refine ⟨start + Time.waitFor (Time.limit? start env.deadline) env.delay, ?_⟩
  simp only [fate, late.1, late.2, ↓reduceIte]

namespace State

def afterCall (env : Env) (c : Store.Call) (s : State) : State :=
  { s.wait (s.clock + env.delay) with store := (s.store.perform env.now c).2 }

variable (env : Env) (c : Store.Call) (s : State)

@[simp] theorem afterCall_store : (s.afterCall env c).store = (s.store.perform env.now c).2 := rfl

@[simp] theorem afterCall_clock : (s.afterCall env c).clock = s.clock + env.delay := by
  rw [afterCall, wait_clock]
  exact Nat.max_eq_right (Nat.le_add_right _ _)

@[simp] theorem afterCall_identities : (s.afterCall env c).identities = s.identities := by
  rw [afterCall, wait_identities]

theorem perform_wait :
    (s.wait (s.clock + env.delay)).perform env.now c =
      ((s.store.perform env.now c).1, s.afterCall env c) := by
  rw [perform, wait_store, afterCall]

end State

/-- A call that is not overdue is made unless the request is cut off before the answer comes. -/
theorem performCall_of_punctual {env : Env} {s : State} (soon : punctual env s.clock = true)
    (cut : Span) (c : Store.Call) :
    performCall env (some cut) c s =
      if env.delay ≠ 0 ∧ cut ≤ s.clock + env.delay then (none, s.wait cut)
      else (some (s.store.perform env.now c).1, s.afterCall env c) := by
  rw [performCall_eq, fate_of_punctual soon, Option.filter]
  by_cases struck : env.delay ≠ 0 ∧ cut ≤ s.clock + env.delay
  · rw [if_pos struck, if_pos (decide_eq_true struck)]
    rfl
  · rw [if_neg struck, if_neg (Bool.eq_false_iff.1 (decide_eq_false struck))]
    rw [Fate.ofWait, if_pos rfl, Fate.outcome, State.perform_wait]

/-- All that can become of a call: the request is cut off, or the call is overdue and not made, or
the store performs it after a wait. -/
theorem performCall_cases (env : Env) (cutoff : Option Span) (c : Store.Call) (s : State) :
    (∃ moment, performCall env cutoff c s = (none, s.wait moment)) ∨
    (∃ moment, punctual env s.clock = false ∧ performCall env cutoff c s =
      (some (.error (.unavailable (.overdue env.deadline))), s.wait moment)) ∨
    (punctual env s.clock = true ∧ performCall env cutoff c s =
      (some (s.store.perform env.now c).1, s.afterCall env c)) := by
  rw [performCall_eq]
  cases soon : punctual env s.clock with
  | false =>
    obtain ⟨wake, settled⟩ := fate_of_late soon cutoff
    rw [settled]
    cases cutoff.filter (· ≤ wake) with
    | some moment => exact .inl ⟨moment, rfl⟩
    | none => exact .inr (.inl ⟨wake, rfl, rfl⟩)
  | true =>
    rw [fate_of_punctual soon]
    generalize cutoff.filter _ = cut
    cases cut with
    | some moment => exact .inl ⟨moment, rfl⟩
    | none =>
      refine .inr (.inr ⟨rfl, ?_⟩)
      rw [Fate.ofWait, if_pos rfl, Fate.outcome, State.perform_wait]

theorem performCall_uncut (env : Env) (c : Store.Call) (s : State) :
    ∃ answer after, performCall env none c s = (some answer, after) := by
  unfold performCall
  split
  · exact ⟨_, _, rfl⟩
  · dsimp only [Option.filter]
    split
    · exact ⟨_, _, rfl⟩
    · exact ⟨_, _, rfl⟩

/-- A call changes nothing in the store unless the store performs it. -/
theorem performCall_store (env : Env) (cutoff : Option Span) (c : Store.Call) (s : State) :
    (performCall env cutoff c s).2.store = s.store ∨
      performCall env cutoff c s = (some (s.store.perform env.now c).1, s.afterCall env c) := by
  rcases performCall_cases env cutoff c s with ⟨moment, run⟩ | ⟨moment, _, run⟩ | ⟨_, run⟩
  · rw [run]
    exact .inl (State.wait_store moment s)
  · rw [run]
    exact .inl (State.wait_store moment s)
  · exact .inr run

theorem performCall_ok {env : Env} {cutoff : Option Span} {c : Store.Call} {s after : State}
    {a : c.Answer} (made : performCall env cutoff c s = (some (.ok a), after)) :
    punctual env s.clock = true ∧ s.store.perform env.now c = (.ok a, after.store) := by
  rcases performCall_cases env cutoff c s with ⟨moment, run⟩ | ⟨moment, _, run⟩ | ⟨soon, run⟩
  · rw [run] at made
    cases made
  · rw [run] at made
    cases made
  · rw [run] at made
    obtain ⟨answer, rfl⟩ := Prod.mk.inj made
    exact ⟨soon, Prod.ext (Option.some.inj answer) rfl⟩

end Agora.Service
