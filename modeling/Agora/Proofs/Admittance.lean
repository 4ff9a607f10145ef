import Agora.Proofs.ClientWindows
import Agora.Proofs.RequestSteps

set_option autoImplicit false

namespace Agora

open Time (Span)

/-- The last turn before a moment is not after it, or the sweeper has not been started by then. -/
theorem Admission.Limiter.lastTurn?_cases {moment turn : Span} {l : Limiter}
    (last : l.lastTurn? moment = some turn) : turn ≤ moment ∨ l.takeTurns? turn = none := by
  obtain ⟨sweeper, runs, rfl⟩ := Option.map_eq_some_iff.1 last
  rcases Nat.le_total sweeper.started moment with begun | early
  · refine .inl ?_
    calc sweeper.started + (moment - sweeper.started - 1) / l.length * l.length
        ≤ sweeper.started + (moment - sweeper.started) :=
          Nat.add_le_add_left (Nat.le_trans (Nat.div_mul_le_self _ _) (Nat.sub_le _ _)) _
      _ = moment := Nat.add_sub_cancel' begun
  · refine .inr ?_
    rw [takeTurns?, runs, Nat.sub_eq_zero_of_le early]
    simp

/-- A client is not admitted while its window is full and has not ended; that leaves the limiter as
it was. -/
theorem Admission.Limiter.allow_limited {now wait : Span} {client : String} {l : Limiter}
    (limited : (l.allow now client).1 = .limited wait) :
    (l.allow now client).2 = l ∧ ∃ w, l.current? now client = some w ∧ l.limit ≤ w.count ∧
      wait = l.length - (now - w.started) := by
  cases found : l.current? now client with
  | none =>
    rw [allow_of_none found] at limited
    cases limited
  | some w =>
    rw [allow_of_some found] at limited ⊢
    split at limited
    · cases limited
    · rename_i full
      cases limited
      rw [if_neg full]
      exact ⟨rfl, w, rfl, Nat.le_of_not_lt full, rfl⟩

namespace Service

open Admission (Aged Watch)
open Http (Request Response)

/-- The limiter, and the clock by which it goes. -/
def State.watch (s : State) : Watch := ⟨s.limiter, s.clock⟩

/-- Whom the limiter takes the client of a request for. -/
def clientOf (c : Config) (q : Request) : String :=
  Admission.Client.key c.listener.trustForwarded q.headers q.peer

namespace State

variable (moment : Span) (s : State)

theorem catchUp_limiter :
    (s.catchUp moment).limiter = (s.limiter.takeTurns? moment).getD s.limiter := by
  unfold catchUp
  cases s.limiter.takeTurns? moment with
  | some limiter => rfl
  | none => rfl

theorem aged_catchUp (past : moment ≤ s.clock) : Aged s.watch (s.catchUp moment).watch := by
  have clock : (s.catchUp moment).watch.clock = s.watch.clock := s.catchUp_clock moment
  exact .of_takeTurns (Nat.le_of_eq clock.symm) (clock ▸ past) (s.catchUp_limiter moment)

theorem aged_rest : Aged s.watch s.rest.watch := s.aged_catchUp s.clock (Nat.le_refl _)

theorem aged_clock (ahead : s.clock ≤ moment) : Aged s.watch { s with clock := moment }.watch :=
  .of_windows rfl rfl rfl ahead

theorem aged_wait : Aged s.watch (s.wait moment).watch := by
  unfold wait
  split
  · exact .refl _
  · rename_i ahead
    have order : s.rest.clock ≤ moment := by
      rw [rest_clock]
      exact Nat.le_of_not_le ahead
    refine s.aged_rest.trans ?_
    dsimp only
    split
    · rename_i turn last
      rcases Admission.Limiter.lastTurn?_cases last with past | idle
      · exact .of_takeTurns order past (s.rest.catchUp_limiter turn)
      · have same : (s.rest.catchUp turn).limiter = s.rest.limiter := by
          rw [catchUp_limiter, idle, Option.getD_none]
        exact .of_windows (congrArg (·.limit) same) (congrArg (·.length) same)
          (congrArg (·.windows) same) order
    · exact s.rest.aged_clock moment order

theorem aged_advance (span : Span) : Aged s.watch (s.advance span).watch :=
  (s.aged_clock (s.clock + span) (Nat.le_add_right _ _)).trans (aged_rest _)

end State

/-- The step admits a client. -/
def Step.admits : Step → Bool
  | .allow _ => true
  | _ => false

/-- Every step but an admission is for the limiter time that passes. -/
theorem Step.perform_aged (env : Env) (cutoff : Option Span) (s : State) {step : Step}
    (other : step.admits = false) : Aged s.watch (step.perform env cutoff s).2.watch := by
  cases step with
  | call c =>
    rw [perform]
    rcases performCall_cases env cutoff c s with ⟨moment, run⟩ | ⟨moment, _, run⟩ | ⟨_, run⟩
    · rw [run]
      exact s.aged_wait moment
    · rw [run]
      exact s.aged_wait moment
    · rw [run]
      exact s.aged_wait (s.clock + env.delay)
  | pause => exact s.aged_rest
  | allow client => cases other
  | _ => exact .refl _

/-- No other halt than for want of admission is answered as one. -/
theorem Halt.status_of_admitted {why : Halt} (admitted : why.unadmitted = false) :
    why.response.status ≠ 429 := by
  cases why with
  | failed failure =>
    rw [response, Failure.response_status]
    cases failure with
    | rateLimited wait => cases admitted
    | _ => simp [Failure.status]
  | invalidPath parameter => simp [response, Response.ofText]

section

variable {env : Env} {q : Request} {s : State}

/-- How the admission of a client runs. -/
theorem run_admission (enabled : env.config.rateLimit.enabled = true) (cutoff : Option Span) :
    (admission env q).run env cutoff s =
      match s.limiter.allow s.clock (clientOf env.config q) with
      | (.allowed, limiter) => (.done (), { s with limiter })
      | (.limited wait, limiter) =>
        (.halted (.failed (.rateLimited wait)), { s with limiter }.count .rateLimited) := by
  unfold admission
  rw [if_pos enabled]
  change (Plan.step (.allow (clientOf env.config q)) _).run env cutoff s = _
  rw [Plan.run, Step.perform]
  dsimp only
  cases s.limiter.allow s.clock (clientOf env.config q) with
  | mk verdict limiter =>
    cases verdict with
    | allowed => rfl
    | limited wait => rfl

/-- What a request does that has been admitted: it admits nobody again, and is never told that it
has not been admitted. -/
theorem plan_admitted (env : Env) (q : Request) :
    ∃ rest : Plan Response, plan env q = (admission env q >>= fun _ => rest) ∧
      rest.Takes (fun step => !step.admits) fun response => response.status ≠ 429 := by
  cases found : resource? env.config q with
  | none => exact ⟨_, plan_of_nothing found, .done (by decide)⟩
  | some r =>
    refine ⟨_, plan_of_resource found, (serve_takes r).mono (fun step taken => ?_) ?_⟩
    · cases step with
      | allow client => cases taken
      | _ => rfl
    · rintro response (success | status) limited
      · rw [Succeeds, limited] at success
        cases success
      · rw [status] at limited
        cases limited

/-- A request whose client is not admitted is counted, and that is all that is done. -/
theorem planRun_of_limited (enabled : env.config.rateLimit.enabled = true) {wait : Span}
    (limited : (s.limiter.allow s.clock (clientOf env.config q)).1 = .limited wait) :
    planRun env q s = (.halted (.failed (.rateLimited wait)), s.count .rateLimited) := by
  obtain ⟨rest, composed, _⟩ := plan_admitted env q
  obtain ⟨same, _⟩ := Admission.Limiter.allow_limited limited
  have asked : s.limiter.allow s.clock (clientOf env.config q) = (.limited wait, s.limiter) :=
    Prod.ext limited same
  rw [planRun, composed, Plan.run_then, run_admission enabled, asked]

/-- A request whose client is not admitted is told how long its window lasts. -/
theorem respond_of_limited (ready : started env q)
    (enabled : env.config.rateLimit.enabled = true) {wait : Span}
    (limited : (s.limiter.allow s.clock (clientOf env.config q)).1 = .limited wait) :
    (respond env q s).1 = finish env q (Failure.rateLimited wait).response ∧
      (respond env q s).2.limiter = s.limiter ∧ (respond env q s).2.clock = s.clock := by
  rw [respond_eq, answer_of_run ready, planRun_of_limited enabled limited]
  exact ⟨rfl, rfl, rfl⟩

/-- A request whose client is admitted is answered otherwise than for want of admission, and is for
the limiter one request of the client, after which time passes. -/
theorem respond_of_allowed (ready : started env q)
    (enabled : env.config.rateLimit.enabled = true)
    (allowed : (s.limiter.allow s.clock (clientOf env.config q)).1 = .allowed) :
    (respond env q s).1.status ≠ 429 ∧
      Aged (s.watch.allowed (clientOf env.config q)) (respond env q s).2.watch := by
  obtain ⟨rest, composed, takes⟩ := plan_admitted env q
  let admitted : State :=
    { s with limiter := (s.limiter.allow s.clock (clientOf env.config q)).2 }
  have asked : s.limiter.allow s.clock (clientOf env.config q) = (.allowed, admitted.limiter) :=
    Prod.ext allowed rfl
  have ran : planRun env q s = rest.run env (some (lastMoment env s)) admitted := by
    rw [planRun, composed, Plan.run_then, run_admission enabled, asked]
  have kept (step : Step) (t : State) (other : (!step.admits) = true)
      (aged : Aged admitted.watch t.watch) :
      Aged admitted.watch (step.perform env (some (lastMoment env s)) t).2.watch :=
    aged.trans (step.perform_aged env _ t (by simpa using other))
  obtain ⟨aged, ended⟩ :=
    takes.run (P := fun t => Aged admitted.watch t.watch) kept (.refl admitted.watch)
  rw [← ran] at aged ended
  rw [respond_eq, answer_of_run ready, finish_status]
  refine ⟨?_, ?_⟩
  · cases ending : (planRun env q s).1 with
    | done response =>
      rw [ending] at ended
      exact ended
    | halted why =>
      rw [ending] at ended
      exact Halt.status_of_admitted ended
    | cutOff => exact (by decide : 408 ≠ 429)
  · have watch : ((planRun env q s).1.counted q (planRun env q s).2).watch =
        (planRun env q s).2.watch := by
      rw [State.watch, Ending.counted_limiter, Ending.counted_clock]
      rfl
    rw [watch]
    exact aged

end

end Service

end Agora
