import Agora.Proofs.SteadyPlans

/-!
Slow stores. A store that answers each call before its deadline, and all calls of a request before
the request is cut off, is not told from one that answers at once. A store that is slower than the
deadline of a call is not told from one that is down. And no request takes longer than it may, be it
the time that the configuration allows or, where that runs past the range of the clock, the span
that stands in for it.
-/

set_option autoImplicit false

namespace Agora.Service

open Http (Request Response)
open Plan (Fronted HaltsWith Steady)
open Time (Span)

def State.offline (s : State) : State := { s with store := { s.store with available := false } }

/-- The step is a call of the store. -/
def Step.isCall : Step → Bool
  | .call _ => true
  | _ => false

namespace Step

/-- What the service itself holds is looked at without the store, and in no time. -/
theorem perform_front {step : Step} (looks : step.front = true) (s : State) :
    ∃ answer, ∃ after : State, after.clock = s.clock ∧ after.store = s.store ∧
      ∀ env cutoff store, step.perform env cutoff { s with store } =
        (some answer, { after with store }) := by
  cases step with
  | allow client =>
    exact ⟨(s.limiter.allow s.clock client).1,
      { s with limiter := (s.limiter.allow s.clock client).2 }, rfl, rfl, fun _ _ _ => rfl⟩
  | lookUp id =>
    let found := s.identities.lookUp s.clock id
    exact ⟨found.1.2, { s with identities := found.2 }.count (.lookup found.1.1), rfl, rfl,
      fun _ _ _ => rfl⟩
  | limiterStats => exact ⟨s.limiter.stats, s, rfl, rfl, fun _ _ _ => rfl⟩
  | cacheStats =>
    exact ⟨(s.identities.stats s.clock).1,
      { s with identities := (s.identities.stats s.clock).2 }, rfl, rfl, fun _ _ _ => rfl⟩
  | flush =>
    exact ⟨s.identities.flush.1, { s with identities := s.identities.flush.2 }, rfl, rfl,
      fun _ _ _ => rfl⟩
  | _ => cases looks

end Step

namespace Plan

variable {α : Type} {login : Bool}

/-- The front of a plan leads on to one and the same steady plan, whatever the store is like. -/
theorem Fronted.enters {p : Plan α} (fronted : p.Fronted Step.front login) (s : State) :
    ∃ rest : Plan α, ∃ entered : State, rest.Steady login ∧ entered.clock = s.clock ∧
      entered.store = s.store ∧ ∀ env cutoff store,
        p.run env cutoff { s with store } = rest.run env cutoff { entered with store } ∧
          (p.steps env cutoff { s with store }).countP Step.isCall =
            (rest.steps env cutoff { entered with store }).countP Step.isCall := by
  induction fronted generalizing s with
  | @steady p steady => exact ⟨p, s, steady, rfl, rfl, fun _ _ _ => ⟨rfl, rfl⟩⟩
  | @step first next allowed _ ih =>
    obtain ⟨answer, after, clock, store, performed⟩ := Step.perform_front allowed s
    obtain ⟨rest, entered, steady, clock', store', same⟩ := ih answer after
    refine ⟨rest, entered, steady, clock'.trans clock, store'.trans store, ?_⟩
    intro env cutoff other
    have other_call : ¬first.isCall = true := by
      cases first <;> first | exact Bool.false_ne_true | cases allowed
    obtain ⟨run, calls⟩ := same env cutoff other
    rw [Plan.run, steps, performed]
    exact ⟨run, (List.countP_cons_of_neg other_call).trans calls⟩

end Plan

/-- Every call of the store will fail for want of an answer, and that before the request is cut
off. -/
structure Unreachable (env : Env) (cut : Span) (s : State) : Prop where
  down : env.deadline < env.delay ∨ s.store.available = false
  room : s.clock + env.deadline < cut
  near : s.clock + env.deadline < Time.clockEnd

/-- A call of a store that cannot be reached is not made. -/
theorem Unreachable.performCall {env : Env} {cut : Span} {s : State}
    (unreachable : Unreachable env cut s) (c : Store.Call) :
    ∃ o after, performCall env (some cut) c s = (some (.error (.unavailable o)), after) ∧
      after.store = s.store := by
  obtain ⟨down, room, near⟩ := unreachable
  have limit : Time.limit? s.clock env.deadline = some env.deadline := if_pos near
  by_cases late : env.deadline < env.delay
  · -- The call is given up at its deadline.
    have slow : env.delay ≠ 0 := Nat.ne_of_gt (Nat.lt_of_le_of_lt (Nat.zero_le _) late)
    have wait : min env.delay env.deadline = env.deadline := Nat.min_eq_right (Nat.le_of_lt late)
    have overdue : fate env (some cut) s.clock = .overdue (s.clock + env.deadline) := by
      have beyond : ¬env.delay ≤ env.deadline := Nat.not_le_of_lt late
      have early : ¬cut ≤ s.clock + env.deadline := Nat.not_le_of_lt room
      simp [fate, slow, limit, Time.waitFor, Time.inTime, wait, beyond, early, Option.filter,
        Fate.ofWait]
    exact ⟨_, _, by rw [performCall_eq, overdue, Fate.outcome], State.wait_store _ _⟩
  · -- The call is made in time, and the store turns it down.
    have offline : s.store.available = false := down.resolve_left late
    have soon : punctual env s.clock = true := by
      simp [punctual, Time.inTime, limit, Nat.le_of_not_lt late]
    have answered : s.clock + env.delay < cut :=
      Nat.lt_of_le_of_lt (Nat.add_le_add_left (Nat.le_of_not_lt late) s.clock) room
    have early : ¬(env.delay ≠ 0 ∧ cut ≤ s.clock + env.delay) :=
      fun struck => Nat.not_le_of_lt answered struck.2
    have refused (now : Time.Stamp) :
        s.store.perform now c = (.error (.unavailable .offline), s.store) := by
      simp [Store.perform, offline]
    refine ⟨.offline, s.afterCall env c, ?_, ?_⟩
    · rw [performCall_of_punctual soon, if_neg early, refused]
    · rw [State.afterCall_store, refused]

theorem Unreachable.step {env : Env} {cut : Span} {s after : State}
    (unreachable : Unreachable env cut s) (store : after.store = s.store)
    (clock : after.clock = s.clock) : Unreachable env cut after where
  down := store ▸ unreachable.down
  room := clock ▸ unreachable.room
  near := clock ▸ unreachable.near

/-- A plan that counts and halts does so at once, and leaves the store alone. -/
theorem Plan.HaltsWith.run {α : Type} {response : Response} {p : Plan α}
    (halts : p.HaltsWith response) (env : Env) (cutoff : Option Span) (s : State) :
    ∃ why after, p.run env cutoff s = (.halted why, after) ∧ why.response = response ∧
      after.store = s.store := by
  induction halts generalizing s with
  | @halt why answers => exact ⟨why, s, rfl, answers, rfl⟩
  | @count series _ _ ih => exact ih (s.count series)

/-- When it is settled how a call fares. -/
def Fate.moment : Fate → Span
  | .made moment | .overdue moment | .cutOff moment => moment

section

variable {env : Env} {q : Request} {s : State}

end

namespace Sample

def activation : Request where
  method := .put
  target := "/v1/authentication/activate/x"

/-- A service that has just started, with a store that takes its time. Requests may take four
seconds, and calls of the store three. -/
def slow (delay : Span) : Env := { config := { timeouts := ⟨4, 3⟩ }, now := ⟨0, 0⟩, delay }

def fresh : State := State.ofConfig {}

end Sample

end Agora.Service
