import Agora.Http.Response
import Agora.Service.Failure
import Agora.Service.State
import Agora.Time.Deadline

/-!
Plans: what a request does, as a tree of atomic steps each of which leads on by its answer. A plan
ends with a value or halts with the reason for a bad answer. Running it performs the steps one after
the other; a call of the store is the only step that takes time, and the only place where a plan can
be cut off. A call that would last beyond its deadline is given up and never made. Long computations
run aside, and the plan pauses for them.
-/

set_option autoImplicit false

namespace Agora.Service

open Http (Response)
open Time (Span)

/-- Why a request ends before its plan does. -/
inductive Halt where
  | failed (failure : Failure)
  /-- A piece of the path is no text. -/
  | invalidPath (parameter : String)
  deriving DecidableEq, Repr

def Halt.response : Halt → Response
  | .failed failure => failure.response
  | .invalidPath parameter => .ofText 400 s!"Invalid URL: Invalid UTF-8 in `{parameter}`"

/-- One atomic step. -/
inductive Step where
  | call (call : Store.Call)
  | lookUp (id : Int)
  | keep (user : Store.User)
  | evict (id : Int)
  | flush
  | cacheStats
  | limiterStats
  | allow (client : String)
  | count (series : Metrics.Series)
  /-- Pause for a computation that runs aside; no time passes. -/
  | pause

@[reducible] def Step.Answer : Step → Type
  | .call c => Except Store.Error c.Answer
  | .lookUp _ => Option Store.User
  | .keep _ | .evict _ | .count _ | .pause => Unit
  | .flush => Nat
  | .limiterStats => Admission.Stats
  | .cacheStats => Cache.Stats
  | .allow _ => Admission.Verdict

/-- What a request does, ending in a value. -/
inductive Plan (α : Type) where
  | done (value : α)
  | halt (why : Halt)
  | step (first : Step) (next : first.Answer → Plan α)

namespace Plan

/-- One plan after another. -/
def bind {α β : Type} : Plan α → (α → Plan β) → Plan β
  | .done value, next => next value
  | .halt why, _ => .halt why
  | .step first rest, next => .step first fun answer => (rest answer).bind next

instance : Monad Plan where
  pure := .done
  bind := Plan.bind

theorem bind_done {α : Type} (p : Plan α) : p.bind .done = p := by
  induction p with
  | done value => rfl
  | halt why => rfl
  | step first next ih => exact congrArg (Plan.step first) (funext ih)

theorem bind_assoc {α β γ : Type} (p : Plan α) (second : α → Plan β) (third : β → Plan γ) :
    (p.bind second).bind third = p.bind fun value => (second value).bind third := by
  induction p with
  | done value => rfl
  | halt why => rfl
  | step first next ih => exact congrArg (Plan.step first) (funext ih)

instance : LawfulMonad Plan :=
  LawfulMonad.mk' Plan bind_done (fun _ _ => rfl) bind_assoc

def ask (only : Step) : Plan only.Answer := .step only .done

def fail {α : Type} (failure : Failure) : Plan α := .halt (.failed failure)

/-- Go on only with a value that is free of complaints. -/
def accept {α : Type} : Except Complaint α → Plan α
  | .ok value => .done value
  | .error complaint => fail (.badRequest complaint)

/-- Call the store; an error of the store is a failure. -/
def call (c : Store.Call) : Plan c.Answer :=
  .step (.call c) fun
    | .ok value => .done value
    | .error error => fail (.ofStore error)

end Plan

inductive Ending (α : Type) where
  | done (value : α)
  | halted (why : Halt)
  /-- The request took too long. -/
  | cutOff
  deriving DecidableEq

/-- Call the store after its delay. There is no answer if the request is cut off first. -/
def performCall (env : Env) (cutoff : Option Span) (c : Store.Call) (s : State) :
    Option (Except Store.Error c.Answer) × State :=
  if env.delay = 0 then
    let (answer, s) := s.perform env.now c
    (some answer, s)
  else
    let limit := Time.limit? s.clock env.deadline
    let wake := s.clock + Time.waitFor limit env.delay
    match cutoff.filter (· ≤ wake) with
    | some cut => (none, s.wait cut)
    | none =>
      if Time.inTime limit env.delay then
        let (answer, s) := (s.wait wake).perform env.now c
        (some answer, s)
      else (some (.error (.unavailable (.overdue env.deadline))), s.wait wake)

/-- Perform a step. There is no answer if the request is cut off first. -/
def Step.perform (env : Env) (cutoff : Option Span) (s : State) :
    (step : Step) → Option step.Answer × State
  | .call c => performCall env cutoff c s
  | .lookUp id =>
    let ((outcome, user), identities) := s.identities.lookUp s.clock id
    (some user, { s with identities }.count (.lookup outcome))
  | .keep user =>
    (some (), { s with identities := s.identities.keep s.clock env.draws.jitter user })
  | .evict id => (some (), { s with identities := s.identities.evict id })
  | .flush =>
    let (removed, identities) := s.identities.flush
    (some removed, { s with identities })
  | .cacheStats =>
    let (stats, identities) := s.identities.stats s.clock
    (some stats, { s with identities })
  | .limiterStats => (some s.limiter.stats, s)
  | .allow client =>
    let (verdict, limiter) := s.limiter.allow s.clock client
    (some verdict, { s with limiter })
  | .count series => (some (), s.count series)
  | .pause => (some (), s.rest)

def Plan.run {α : Type} (env : Env) (cutoff : Option Span) : Plan α → State → Ending α × State
  | .done value, s => (.done value, s)
  | .halt why, s => (.halted why, s)
  | .step first next, s =>
    match first.perform env cutoff s with
    | (some answer, s) => (next answer).run env cutoff s
    | (none, s) => (.cutOff, s)

/-- What follows a plan runs only where the plan ends with a value. -/
theorem Plan.run_bind {α β : Type} (env : Env) (cutoff : Option Span) (p : Plan α)
    (second : α → Plan β) (s : State) :
    (p.bind second).run env cutoff s =
      match p.run env cutoff s with
      | (.done value, s) => (second value).run env cutoff s
      | (.halted why, s) => (.halted why, s)
      | (.cutOff, s) => (.cutOff, s) := by
  induction p generalizing s with
  | done value => rfl
  | halt why => rfl
  | step first next ih =>
    simp only [bind, run]
    split
    · exact ih _ _
    · rfl

end Agora.Service
