import Agora.Proofs.PlanEffects

/-!
Which steps a plan may take, and how it may end. What every step of a kind keeps, a plan that takes
steps of that kind only keeps, and so one look at a plan serves many invariants: the steps that only
look keep the store, those that leave the cache alone keep it coherent, and those that admit no
client leave the limiter to the passing of time.
-/

set_option autoImplicit false

namespace Agora

/-- The operation belongs to one resource only, which looks after what the store leaves to it. -/
def Store.Call.reserved : Store.Call → Bool
  | .follow .. | .deletePost _ => true
  | _ => false

namespace Service

namespace Step

/-- The step only looks, and leaves the cache of identities alone. -/
def quiet : Step → Bool
  | .call c => c.reads
  | .limiterStats | .count _ | .pause => true
  | _ => false

/-- The step only looks, be it up in the cache, where it may keep what it has found. -/
def looks : Step → Bool
  | .lookUp _ | .keep _ => true
  | .call c => c.reads
  | .limiterStats | .count _ | .pause => true
  | _ => false

/-- The step may be part of any request that has been admitted. -/
def common : Step → Bool
  | .allow _ => false
  | .call c => !c.reserved
  | _ => true

variable {step : Step}

theorem looks_of_quiet (quiet : step.quiet = true) : step.looks = true := by
  cases step <;> first | exact quiet | cases quiet

theorem reads_of_looks (looks : step.looks = true) : step.reads = true := by
  cases step <;> first | exact looks | rfl

theorem common_of_looks (looks : step.looks = true) : step.common = true := by
  cases step with
  | call c => cases c <;> first | rfl | cases looks
  | _ => first | rfl | cases looks

end Step

/-- The request ends for want of admission. -/
def Halt.unadmitted : Halt → Bool
  | .failed (.rateLimited _) => true
  | _ => false

namespace Plan

variable {α β : Type} {kind wider : Step → Bool} {good better : α → Prop} {fine : β → Prop}

/-- Whatever it finds, the plan takes steps of a kind only, comes to a good value if it comes to
any, and does not halt for want of admission. -/
inductive Takes (kind : Step → Bool) {α : Type} : Plan α → (α → Prop) → Prop where
  | done {value : α} {good : α → Prop} (comes : good value) : Takes kind (.done value) good
  | halt {why : Halt} {good : α → Prop} (admitted : why.unadmitted = false) :
      Takes kind (.halt why) good
  | step {first : Step} {next : first.Answer → Plan α} {good : α → Prop}
      (allowed : kind first = true) (rest : ∀ answer, Takes kind (next answer) good) :
      Takes kind (.step first next) good

namespace Takes

theorem mono {p : Plan α} (takes : p.Takes kind better)
    (among : ∀ step, kind step = true → wider step = true)
    (enough : ∀ value, better value → good value) : p.Takes wider good := by
  induction takes with
  | done comes => exact .done (enough _ comes)
  | halt admitted => exact .halt admitted
  | step allowed _ ih => exact .step (among _ allowed) fun answer => ih answer enough

theorem bind {p : Plan α} {f : α → Plan β} (first : p.Takes kind good)
    (rest : ∀ value, (f value).Takes kind fine) : (p >>= f).Takes kind fine := by
  induction first with
  | done _ => exact rest _
  | halt admitted => exact .halt admitted
  | step allowed _ ih => exact .step allowed ih

theorem ask {only : Step} (allowed : kind only = true) :
    (Plan.ask only).Takes kind fun _ => True := .step allowed fun _ => .done trivial

theorem failed (e : Store.Error) : (Plan.fail (.ofStore e) : Plan α).Takes kind good := by
  cases e <;> exact .halt rfl

theorem call {c : Store.Call} (allowed : kind (.call c) = true) :
    (Plan.call c).Takes kind fun _ => True := by
  refine .step allowed fun answer => ?_
  cases answer with
  | ok value => exact .done trivial
  | error e => exact failed e

theorem accept (outcome : Except Complaint α) :
    (Plan.accept outcome).Takes kind fun _ => True := by
  cases outcome with
  | ok value => exact .done trivial
  | error complaint => exact .halt rfl

/-- What every step of the kind keeps, the plan keeps; and it ends as it should. -/
theorem run {env : Env} {cutoff : Option Time.Span} {P : State → Prop} {p : Plan α}
    (takes : p.Takes kind good)
    (step : ∀ first s, kind first = true → P s → P (first.perform env cutoff s).2) {s : State}
    (start : P s) :
    P (p.run env cutoff s).2 ∧
      match (p.run env cutoff s).1 with
      | .done value => good value
      | .halted why => why.unadmitted = false
      | .cutOff => True := by
  induction takes generalizing s with
  | done comes => exact ⟨start, comes⟩
  | halt admitted => exact ⟨start, admitted⟩
  | @step first next _ allowed _ ih =>
    have once := step first s allowed start
    rw [Plan.run]
    cases performed : first.perform env cutoff s with
    | mk answer later =>
      rw [performed] at once
      cases answer with
      | some answer => exact ih answer once
      | none => exact ⟨once, trivial⟩

theorem looks {p : Plan α} (takes : p.Takes Step.quiet good) : p.Takes Step.looks good :=
  takes.mono (fun _ => Step.looks_of_quiet) fun _ fine => fine

theorem common {p : Plan α} (takes : p.Takes Step.looks good) : p.Takes Step.common good :=
  takes.mono (fun _ => Step.common_of_looks) fun _ fine => fine

theorem keeps {env : Env} {cutoff : Option Time.Span} {p : Plan α}
    (takes : p.Takes Step.looks good) : Keeps env cutoff p := by
  intro s
  have same (step : Step) (t : State) (looks : step.looks = true) (kept : t.store = s.store) :
      (step.perform env cutoff t).2.store = s.store :=
    (Step.perform_store env cutoff t (Step.reads_of_looks looks)).trans kept
  exact (takes.run (P := fun t => t.store = s.store) same rfl).1

end Takes

end Plan

end Service

end Agora
