import Agora.Proofs.Conduct

/-!
Which steps a request takes. The gates only look, and leave the cache of identities alone but for
the one that finds out who calls. Behind admission no client is admitted again and no request fails
for not being admitted, users are followed by one resource only and posts deleted by one only; and
what the operations of its resource keep in the store, a request keeps.
-/

set_option autoImplicit false

namespace Agora.Service

open Http (Method Request Response isSuccess)
open Plan (Keeps Takes)
open Store (Post User)

namespace Resource

/-- The step is one that no other resource takes. -/
def special (r : Resource) (m : Method) : Step → Bool
  | .call (.follow ..) => match r with
    | .following _ => true
    | _ => false
  | .call (.deletePost _) => match r with
    | .post _ => m = .delete
    | _ => false
  | _ => false

/-- The steps that a resource takes for a method. -/
def takes (r : Resource) (m : Method) (step : Step) : Bool := step.common || r.special m step

theorem takes_of_common {step : Step} (allowed : step.common = true) (r : Resource) (m : Method) :
    r.takes m step = true := by
  rw [takes, allowed, Bool.true_or]

theorem common_of_takes {r : Resource} {m : Method} {step : Step} (taken : r.takes m step = true)
    (follows : ∀ segment, r ≠ .following segment)
    (deletes : ∀ segment, r = .post segment → m ≠ .delete) : step.common = true := by
  rcases Bool.or_eq_true _ _ |>.mp taken with common | special
  · exact common
  · cases step with
    | call c =>
      cases c with
      | follow follower followee =>
        cases r with
        | following segment => exact absurd rfl (follows segment)
        | _ => cases special
      | deletePost id =>
        cases r with
        | post segment => exact absurd (of_decide_eq_true special) (deletes segment rfl)
        | _ => cases special
      | _ => cases special
    | _ => cases special

end Resource

namespace Step

variable {step : Step}

theorem quiet_of_asks (asks : step.Asks) : step.quiet = true := by
  cases step with
  | call c => cases c <;> first | rfl | cases asks
  | _ => first | rfl | cases asks

theorem looks_of_gates (gates : step.Gates) : step.looks = true := by
  cases step with
  | call c => exact looks_of_quiet (quiet_of_asks gates)
  | _ => first | rfl | cases gates

theorem common_of_gates (gates : step.Gates) : step.common = true :=
  common_of_looks (looks_of_gates gates)

end Step

/-- What a resource does for a method is common to all, or it is one of the steps that no other
resource takes. -/
theorem Resource.takes_of_permits {r : Resource} {m : Method} {step : Step}
    (permits : r.Permits m step) : r.takes m step = true := by
  rcases permits with gates | acts
  · exact takes_of_common (Step.common_of_gates gates) r m
  · cases step with
    | call c =>
      cases c with
      | follow follower followee =>
        cases r <;> first | rfl | cases acts.1
      | deletePost id =>
        cases r with
        | post segment => exact decide_eq_true acts.1
        | _ => cases acts.1
      | _ => rfl
    | allow client => cases r <;> cases acts
    | _ => rfl

section

variable {env : Env} {q : Request}

theorem authenticate_takes (headers : Http.Headers) :
    (authenticate env headers).Takes Step.looks fun _ => True :=
  (authenticate_conforms .member headers).takes fun _ => Step.looks_of_gates

theorem member_takes : (member env q).Takes Step.looks fun _ => True :=
  member_conforms.takes fun _ => Step.looks_of_gates

theorem operator_takes : (operator env q).Takes Step.quiet fun _ => True :=
  operator_conforms.takes fun _ => Step.quiet_of_asks

theorem pathText_takes (parameter segment : String) :
    (pathText parameter segment).Takes Step.quiet fun _ => True :=
  (pathText_conforms .anyone parameter segment).takes fun _ => Step.quiet_of_asks

theorem pathId_takes (segment : String) : (pathId segment).Takes Step.quiet fun _ => True :=
  (pathId_conforms .anyone segment).takes fun _ => Step.quiet_of_asks

theorem loadPost_takes (segment : String) : (loadPost segment).Takes Step.quiet fun _ => True :=
  (loadPost_conforms .anyone segment).takes fun _ => Step.quiet_of_asks

theorem loadUser_takes (segment : String) : (loadUser segment).Takes Step.quiet fun _ => True :=
  (loadUser_conforms .anyone segment).takes fun _ => Step.quiet_of_asks

theorem authorize_takes (m : Method) (user : User) (post : Post) :
    (authorize env m user post).Takes Step.quiet fun _ => True :=
  (authorize_conforms .anyone m user post).takes fun _ => Step.quiet_of_asks

theorem enter_takes (r : Resource) : (enter env q r).Takes Step.looks fun _ => True :=
  (enter_conforms r).takes fun _ => Step.looks_of_gates

theorem hashed_takes {α : Type} (outcome : Except Credential.HashFault α) :
    (hashed outcome).Takes Step.quiet fun _ => True := by
  have conforms : (hashed outcome).Conforms (fun step => step.quiet = true) .anyone
      fun _ => True := hashed_conforms .anyone (by rfl) outcome
  exact conforms.takes fun _ quiet => quiet

theorem invitationExpiry_takes : (invitationExpiry env).Takes Step.quiet fun _ => True :=
  (invitationExpiry_conforms .anyone).takes fun _ => Step.quiet_of_asks

theorem logIn_takes : (logIn env q).Takes Step.quiet Succeeds := by
  apply logIn_conforms.takes
  intro step acts
  cases step with
  | call c => cases c <;> first | rfl | cases acts.1
  | _ => first | rfl | cases acts

theorem showPost_takes (post : Post) : (showPost post).Takes Step.quiet Succeeds :=
  .bind (.call rfl) fun _ => .done rfl

theorem showFeed_takes (caller : User) : (showFeed q caller).Takes Step.quiet Succeeds :=
  .bind (.accept _) fun _ => .bind (.call rfl) fun _ => .done rfl

theorem serve_takes (r : Resource) : (serve env q r).Takes (r.takes q.method) Concluded :=
  (serve_conforms r).takes fun _ => Resource.takes_of_permits

end

section

variable {env : Env} {cutoff : Option Time.Span} {q : Request}

theorem admission_keeps : Keeps env cutoff (admission env q) := by
  unfold admission
  split
  · refine .bind (.ask rfl) fun verdict => ?_
    cases verdict with
    | allowed => exact .done ()
    | limited retryAfter => exact .bind (.ask rfl) fun _ => .halt _
  · exact .done ()

theorem authenticate_keeps (headers : Http.Headers) :
    Keeps env cutoff (authenticate env headers) := (authenticate_takes headers).keeps

theorem member_keeps : Keeps env cutoff (member env q) := member_takes.keeps

theorem pathText_keeps (parameter segment : String) :
    Keeps env cutoff (pathText parameter segment) := (pathText_takes _ _).looks.keeps

theorem pathId_keeps (segment : String) : Keeps env cutoff (pathId segment) :=
  (pathId_takes segment).looks.keeps

theorem loadPost_keeps (segment : String) : Keeps env cutoff (loadPost segment) :=
  (loadPost_takes segment).looks.keeps

theorem loadUser_keeps (segment : String) : Keeps env cutoff (loadUser segment) :=
  (loadUser_takes segment).looks.keeps

theorem authorize_keeps (m : Method) (user : User) (post : Post) :
    Keeps env cutoff (authorize env m user post) := (authorize_takes m user post).looks.keeps

/-- No gate writes to the store. -/
theorem enter_keeps (r : Resource) : Keeps env cutoff (enter env q r) := (enter_takes r).keeps

end

section

variable {env : Env} {cutoff : Option Time.Span} {q : Request} {s : State} {P : Store → Prop}

theorem Step.perform_of_permits {r : Resource} {m : Method}
    (kept : ∀ c, r.Makes m c → c.Published → ∀ store, P store → P (store.perform env.now c).2)
    {step : Step} (permits : r.Permits m step) (start : P s.store) :
    P (step.perform env cutoff s).2.store := by
  cases step with
  | call c =>
    rw [perform]
    rcases performCall_store env cutoff c s with same | made
    · rwa [same]
    · rw [made]
      rcases permits with gates | acts
      · have looks : c.reads = true := reads_of_looks (looks_of_gates gates)
        rwa [State.afterCall_store, Store.perform_of_reads looks]
      · exact kept c acts.1 acts.2 s.store start
  | _ => rwa [perform_store env cutoff s rfl]

/-- What the operations of its resource keep, a request keeps, however it ends. -/
theorem respond_of_makes
    (kept : ∀ r, resource? env.config q = some r → ∀ c, r.Makes q.method c → c.Published →
      ∀ store, P store → P (store.perform env.now c).2) (start : P s.store) :
    P (respond env q s).2.store := by
  by_cases ready : started env q
  · rw [(respond_of_started ready).2, planRun]
    cases found : resource? env.config q with
    | none =>
      rw [plan_of_nothing found]
      exact Plan.store_then admission_keeps start fun _ admitted admits =>
        (admission_keeps.of_run admits).symm ▸ start
    | some r =>
      rw [plan_of_resource found]
      apply Plan.store_then admission_keeps start
      intro _ admitted admits
      have before : P admitted.store := (admission_keeps.of_run admits).symm ▸ start
      exact ((serve_conforms r).run (P := fun t => P t.store)
        (fun _ _ permits => Step.perform_of_permits (kept r found) permits) before).1
  · rw [(respond_of_refused ready).2]
    exact start

end

end Agora.Service
