import Agora.Proofs.CallTiming
import Agora.Proofs.StoreFrame

/-!
What running a plan may do to the store. A plan keeps the store if none of its steps writes. It
commits if it either leaves the store as it was or ends as it should, so that a request which fails
or is cut off has changed nothing: its one write must be followed by steps that cannot fail.
-/

set_option autoImplicit false

namespace Agora.Service

open Time (Span)

/-- The step does not write to the store. -/
def Step.reads : Step → Bool
  | .call c => c.reads
  | _ => true

namespace Step

variable (env : Env) (cutoff : Option Span) (s : State)

theorem perform_clock (step : Step) : s.clock ≤ (step.perform env cutoff s).2.clock := by
  cases step with
  | call c =>
    have waited (moment : Span) : s.clock ≤ (s.wait moment).clock := by
      rw [State.wait_clock]
      exact Nat.le_max_left _ _
    rcases performCall_cases env cutoff c s with ⟨moment, run⟩ | ⟨moment, _, run⟩ | ⟨_, run⟩
    · rw [perform, run]
      exact waited moment
    · rw [perform, run]
      exact waited moment
    · rw [perform, run, State.afterCall_clock]
      exact Nat.le_add_right _ _
  | pause => exact Nat.le_of_eq (State.rest_clock s).symm
  | _ => exact Nat.le_refl _

/-- A call of the store that has no answer, or the answer that it failed, has changed nothing. -/
theorem perform_call (c : Store.Call) :
    ((Step.call c).perform env cutoff s).2.store = s.store ∨
      ∃ a, ((Step.call c).perform env cutoff s).1 = some (.ok a) := by
  rcases performCall_store env cutoff c s with same | run
  · exact .inl same
  · rw [perform, run]
    cases result : (s.store.perform env.now c).1 with
    | ok a => exact .inr ⟨a, rfl⟩
    | error e => exact .inl (Store.perform_of_failed result)

theorem perform_store {step : Step} (looks : step.reads = true) :
    (step.perform env cutoff s).2.store = s.store := by
  cases step with
  | call c =>
    rcases performCall_store env cutoff c s with same | run
    · exact same
    · rw [perform, run]
      exact Store.perform_of_reads looks
  | pause => exact State.rest_store s
  | _ => rfl

end Step

namespace Plan

variable {env : Env} {cutoff : Option Span} {α β : Type}

theorem run_clock (p : Plan α) (s : State) : s.clock ≤ (p.run env cutoff s).2.clock := by
  induction p generalizing s with
  | done value => exact Nat.le_refl _
  | halt why => exact Nat.le_refl _
  | step first next ih =>
    have once := first.perform_clock env cutoff s
    rw [run]
    split
    · rename_i answer later result
      rw [result] at once
      exact Nat.le_trans once (ih answer later)
    · rename_i later result
      rwa [result] at once

theorem run_then (p : Plan α) (f : α → Plan β) (s : State) :
    (p >>= f).run env cutoff s =
      match p.run env cutoff s with
      | (.done value, s) => (f value).run env cutoff s
      | (.halted why, s) => (.halted why, s)
      | (.cutOff, s) => (.cutOff, s) := run_bind env cutoff p f s

theorem accept_then (value : α) (f : α → Plan β) : Plan.accept (.ok value) >>= f = f value := rfl

theorem clock_le_of_run {p : Plan α} {s after : State} {ending : Ending α}
    (ran : p.run env cutoff s = (ending, after)) : s.clock ≤ after.clock := by
  have clock : s.clock ≤ (p.run env cutoff s).2.clock := run_clock p s
  rwa [ran] at clock

/-- A sequence of plans ends with a value only if both do. -/
theorem run_then_done {p : Plan α} {f : α → Plan β} {s after : State} {b : β}
    (ended : (p >>= f).run env cutoff s = (.done b, after)) :
    ∃ a between, p.run env cutoff s = (.done a, between) ∧
      (f a).run env cutoff between = (.done b, after) := by
  rw [run_then] at ended
  cases first : p.run env cutoff s with
  | mk ending between =>
    rw [first] at ended
    cases ending with
    | done a => exact ⟨a, between, rfl, ended⟩
    | halted why => cases ended
    | cutOff => cases ended

theorem run_ask_call_done {c : Store.Call} {s after : State}
    {answer : Except Store.Error c.Answer}
    (ended : (Plan.ask (.call c)).run env cutoff s = (.done answer, after)) :
    performCall env cutoff c s = (some answer, after) := by
  simp only [Plan.ask, run, Step.perform] at ended
  split at ended
  · rename_i found later made
    cases ended
    exact made
  · cases ended

/-- A call ends with a value only if it is not overdue and the store answers with the value. -/
theorem run_call_done {c : Store.Call} {s after : State} {a : c.Answer}
    (ended : (Plan.call c).run env cutoff s = (.done a, after)) :
    punctual env s.clock = true ∧ s.store.perform env.now c = (.ok a, after.store) ∧
      s.clock ≤ after.clock := by
  have later := clock_le_of_run ended
  simp only [Plan.call, run, Step.perform] at ended
  split at ended
  · rename_i answer between made
    cases answer with
    | error e => cases ended
    | ok value =>
      cases ended
      obtain ⟨soon, performed⟩ := performCall_ok made
      exact ⟨soon, performed, later⟩
  · cases ended

/-- A call that is not overdue is made, or the request is cut off. -/
theorem run_ask_of_punctual {c : Store.Call} {f : Except Store.Error c.Answer → Plan β} {s : State}
    (soon : punctual env s.clock = true) (cut : Span) :
    (Plan.ask (.call c) >>= f).run env (some cut) s =
      if env.delay ≠ 0 ∧ cut ≤ s.clock + env.delay then (.cutOff, s.wait cut)
      else (f (s.store.perform env.now c).1).run env (some cut) (s.afterCall env c) := by
  have only : (Plan.ask (.call c) >>= f) = .step (.call c) f := rfl
  rw [only, run, Step.perform, performCall_of_punctual soon]
  by_cases struck : env.delay ≠ 0 ∧ cut ≤ s.clock + env.delay
  · rw [if_pos struck, if_pos struck]
  · rw [if_neg struck, if_neg struck]

theorem call_then {c : Store.Call} (f : c.Answer → Plan β) :
    Plan.call c >>= f = Plan.ask (.call c) >>= fun
      | .ok value => f value
      | .error error => Plan.fail (.ofStore error) := by
  refine congrArg (Plan.step (.call c)) (funext fun answer => ?_)
  cases answer <;> rfl

/-- After a call there is what follows on its value, unless the request is cut off or the store
fails. -/
theorem run_call_then {c : Store.Call} (f : c.Answer → Plan β) (s : State) :
    (Plan.call c >>= f).run env cutoff s =
      match performCall env cutoff c s with
      | (some (.ok value), after) => (f value).run env cutoff after
      | (some (.error e), after) => (.halted (.failed (.ofStore e)), after)
      | (none, after) => (.cutOff, after) := by
  have only : (Plan.call c >>= f) = .step (.call c) fun
      | .ok value => f value
      | .error e => Plan.fail (.ofStore e) := call_then f
  rw [only, run, Step.perform]
  rcases performCall env cutoff c s with ⟨_ | (_ | _), after⟩ <;> rfl

/-- The steps that a run performs, in order. -/
def steps (env : Env) (cutoff : Option Span) : Plan α → State → List Step
  | .done _, _ => []
  | .halt _, _ => []
  | .step first next, s =>
    first :: match first.perform env cutoff s with
      | (some answer, s) => (next answer).steps env cutoff s
      | (none, _) => []

theorem steps_then {p : Plan α} (f : α → Plan β) {s after : State} {value : α}
    (ended : p.run env cutoff s = (.done value, after)) :
    (p >>= f).steps env cutoff s = p.steps env cutoff s ++ (f value).steps env cutoff after := by
  induction p generalizing s with
  | done value =>
    cases ended
    rfl
  | halt why => cases ended
  | step first next ih =>
    have composed :
        (Plan.step first next >>= f) = .step first fun answer => next answer >>= f := rfl
    rw [composed, steps, steps, List.cons_append]
    rw [run] at ended
    cases performed : first.perform env cutoff s with
    | mk answer later =>
      rw [performed] at ended
      cases answer with
      | none => cases ended
      | some answer => exact congrArg (first :: ·) (ih answer ended)

/-- All steps that a plan may perform, whatever it finds, are of a kind. -/
def All (kind : Step → Prop) : Plan α → Prop
  | .done _ | .halt _ => True
  | .step first next => kind first ∧ ∀ answer, (next answer).All kind

namespace All

variable {kind : Step → Prop}

theorem bind {p : Plan α} {f : α → Plan β} (first : p.All kind)
    (rest : ∀ value, (f value).All kind) : (p >>= f).All kind := by
  induction p with
  | done value => exact rest value
  | halt why => exact trivial
  | step only next ih => exact ⟨first.1, fun answer => ih answer (first.2 answer)⟩

theorem mem_steps {p : Plan α} (all : p.All kind) {s : State} {step : Step}
    (performed : step ∈ p.steps env cutoff s) : kind step := by
  induction p generalizing s with
  | done value => cases performed
  | halt why => cases performed
  | step first next ih =>
    rw [steps] at performed
    rcases List.mem_cons.1 performed with rfl | later
    · exact all.1
    · split at later
      · exact ih _ (all.2 _) later
      · cases later

end All

variable (env cutoff)

/-- However the plan ends, the store is as it was. -/
def Keeps (p : Plan α) : Prop := ∀ s, (p.run env cutoff s).2.store = s.store

/-- The plan ends with a good value, whatever it finds. -/
def Settles (good : α → Prop) (p : Plan α) : Prop :=
  ∀ s, ∃ value, (p.run env cutoff s).1 = .done value ∧ good value

/-- The plan leaves the store as it was unless it ends with a good value. -/
def Commits (good : α → Prop) (p : Plan α) : Prop :=
  ∀ s, (p.run env cutoff s).2.store = s.store ∨
    ∃ value, (p.run env cutoff s).1 = .done value ∧ good value

variable {env cutoff} {good : β → Prop}

namespace Keeps

theorem done (value : α) : Keeps env cutoff (.done value) := fun _ => rfl

theorem halt (why : Halt) : Keeps env cutoff (.halt why : Plan α) := fun _ => rfl

theorem step {first : Step} {next : first.Answer → Plan α} (looks : first.reads = true)
    (rest : ∀ answer, Keeps env cutoff (next answer)) : Keeps env cutoff (.step first next) := by
  intro s
  have once := Step.perform_store env cutoff s looks
  rw [run]
  split
  · rename_i answer later result
    rw [result] at once
    exact (rest answer later).trans once
  · rename_i later result
    rwa [result] at once

theorem of_run {p : Plan α} {s after : State} {ending : Ending α} (keeps : Keeps env cutoff p)
    (ran : p.run env cutoff s = (ending, after)) : after.store = s.store := by
  have same := keeps s
  rwa [ran] at same

theorem ask {only : Step} (looks : only.reads = true) : Keeps env cutoff (Plan.ask only) :=
  step looks done

theorem accept (outcome : Except Complaint α) : Keeps env cutoff (Plan.accept outcome) := by
  cases outcome with
  | ok value => exact done value
  | error complaint => exact halt _

theorem bind {p : Plan α} {f : α → Plan β} (first : Keeps env cutoff p)
    (rest : ∀ value, Keeps env cutoff (f value)) : Keeps env cutoff (p >>= f) := by
  intro s
  have once := first s
  rw [run_then]
  split
  · rename_i value later result
    rw [result] at once
    exact (rest value later).trans once
  · rename_i later result
    rwa [result] at once
  · rename_i later result
    rwa [result] at once

end Keeps

/-- Where the first of two plans only looks, what becomes of the store is up to the second. -/
theorem store_then {p : Plan α} {f : α → Plan β} {P : Store → Prop} {s : State}
    (keeps : Keeps env cutoff p) (start : P s.store)
    (rest : ∀ value after, p.run env cutoff s = (.done value, after) →
      P ((f value).run env cutoff after).2.store) : P ((p >>= f).run env cutoff s).2.store := by
  rw [run_then]
  cases first : p.run env cutoff s with
  | mk ending after =>
    have same := keeps.of_run first
    cases ending with
    | done value => exact rest value after first
    | halted why =>
      dsimp only
      rwa [same]
    | cutOff =>
      dsimp only
      rwa [same]

namespace Commits

theorem of_keeps {p : Plan β} (keeps : Keeps env cutoff p) : Commits env cutoff good p :=
  fun s => .inl (keeps s)

theorem bind {p : Plan α} {f : α → Plan β} (first : Keeps env cutoff p)
    (rest : ∀ value, Commits env cutoff good (f value)) : Commits env cutoff good (p >>= f) := by
  intro s
  have once := first s
  rw [run_then]
  split
  · rename_i value later result
    rw [result] at once
    exact (rest value later).imp_left fun same => same.trans once
  · rename_i later result
    rw [result] at once
    exact .inl once
  · rename_i later result
    rw [result] at once
    exact .inl once

/-- Once a write has been made, the plan must not fail; where the write has failed, it may. -/
theorem ask {c : Store.Call} {f : Except Store.Error c.Answer → Plan β}
    (made : ∀ a, Settles env cutoff good (f (.ok a)))
    (failed : ∀ e, Keeps env cutoff (f (.error e))) :
    Commits env cutoff good (Plan.ask (.call c) >>= f) := by
  intro s
  have once := Step.perform_call env cutoff s c
  change ((Plan.step (.call c) f).run env cutoff s).2.store = s.store ∨
    ∃ value, ((Plan.step (.call c) f).run env cutoff s).1 = .done value ∧ good value
  rw [run]
  split
  · rename_i answer later result
    rw [result] at once
    cases answer with
    | ok a => exact .inr (made a later)
    | error e =>
      -- The call has failed, so it has not written, and what follows does not write.
      rcases once with same | ⟨_, other⟩
      · exact .inl ((failed e later).trans same)
      · cases other
  · rename_i later result
    rw [result] at once
    rcases once with same | ⟨_, other⟩
    · exact .inl same
    · cases other

theorem call {c : Store.Call} {f : c.Answer → Plan β}
    (made : ∀ a, Settles env cutoff good (f a)) :
    Commits env cutoff good (Plan.call c >>= f) := by
  rw [call_then]
  exact ask made fun _ => Keeps.halt _

end Commits

theorem Settles.done {value : β} (fine : good value) : Settles env cutoff good (.done value) :=
  fun _ => ⟨value, rfl, fine⟩

theorem Settles.evict {id : Int} {f : Unit → Plan β} (rest : Settles env cutoff good (f ())) :
    Settles env cutoff good (Plan.ask (.evict id) >>= f) := fun _ => rest _

end Plan

end Agora.Service
