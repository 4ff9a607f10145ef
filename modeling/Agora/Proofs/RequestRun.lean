import Agora.Proofs.PlanEffects
import Agora.Service.Respond

set_option autoImplicit false

namespace Agora.Service

open Http (Request Response isSuccess)
open Time (Span)

/-- The answer to a request whose plan has ended. -/
def Ending.response : Ending Response → Response
  | .done response => response
  | .halted why => why.response
  | .cutOff => tooLate

namespace Ending

/-- The state when a request has been answered, which is counted unless it was cut off. -/
def counted (q : Request) (ending : Ending Response) (s : State) : State :=
  match ending with
  | .cutOff => s
  | _ => s.count (.request q.method.name ending.response.status)

variable (q : Request) (ending : Ending Response) (s : State)

theorem counted_store : (ending.counted q s).store = s.store := by cases ending <;> rfl

theorem counted_identities : (ending.counted q s).identities = s.identities := by
  cases ending <;> rfl

theorem counted_limiter : (ending.counted q s).limiter = s.limiter := by cases ending <;> rfl

theorem counted_clock : (ending.counted q s).clock = s.clock := by cases ending <;> rfl

end Ending

/-- The moment at which a request is cut off that comes in now. -/
def lastMoment (env : Env) (s : State) : Span :=
  Time.cutoff s.clock (Span.ofSeconds env.config.timeouts.request)

/-- How the plan of a request ends, and the state then. -/
def planRun (env : Env) (q : Request) (s : State) : Ending Response × State :=
  (plan env q).run env (some (lastMoment env s)) s

/-- The request is not refused at the outset: it may take some time, and its body is not declared
too long. -/
def started (env : Env) (q : Request) : Prop :=
  Span.ofSeconds env.config.timeouts.request ≠ 0 ∧
    q.declaredLength.any (env.config.listener.maxBodySize < ·) = false

/-- The body of a request is declared too long. -/
def tooLong (c : Config) (q : Request) : Bool :=
  q.declaredLength.any (c.listener.maxBodySize < ·)

/-- The member of a number that has been read from a token. -/
def memberOf (id : Int) : Plan Store.User := do
  match ← resolve id with
  | .ok user => return user
  | .error e => refuse (.identity e) .unauthorized

/-- What a login makes of the account that its email names, or of there being none. -/
def logInWith (env : Env) (l : Login) : Except Store.Error Store.Account → Plan Store.User
  | .error e => Plan.fail (if e = .notFound then .unauthorized else .ofStore e)
  | .ok account => do
    if !(← hashed (env.hasher.verify l.password account.passwordHash)) then
      Plan.fail .unauthorized
    else if !account.user.isActive then Plan.fail .unauthorized
    else return account.user

section

variable {env : Env} {q : Request} {s : State}

@[simp] theorem finish_status (response : Response) :
    (finish env q response).status = response.status := by
  unfold finish tellMethods
  dsimp only
  repeat' split
  all_goals rfl

/-- A request for the head alone is shown no body. -/
theorem finish_body (response : Response) :
    (finish env q response).body = if q.method = .head then .empty else response.body := by
  have told : (tellMethods env.config q response).body = response.body := by
    unfold tellMethods
    repeat' split
    all_goals rfl
  unfold finish
  dsimp only
  split
  · rfl
  · exact told

/-- Finishing off an answer adds two headers at most, and leaves the others as they are. -/
theorem finish_header {name : String} (response : Response) (own : name ≠ "allow")
    (apart : name ≠ "x-request-id") :
    (finish env q response).headers.first? name = response.headers.first? name := by
  have more (r : Response) (other : String) (value : Bytes) (differs : other ≠ name) :
      (r.withHeader other value).headers.first? name = r.headers.first? name := by
    simp [Http.Headers.first?, Response.withHeader, differs]
  have told : (tellMethods env.config q response).headers.first? name =
      response.headers.first? name := by
    unfold tellMethods
    split
    · split
      · rfl
      · exact more _ _ _ own.symm
    · rfl
  unfold finish
  dsimp only
  split
  · exact (more _ _ _ apart.symm).trans told
  · exact (more _ _ _ apart.symm).trans told

theorem answer_of_started (ready : started env q) :
    answer env q s = runPlan env q (lastMoment env s) s := by
  have room : ¬ q.declaredLength.any (env.config.listener.maxBodySize < ·) = true := by
    rw [ready.2]
    exact Bool.false_ne_true
  exact (if_neg ready.1).trans (if_neg room)

/-- How a request is refused at the outset does not hang on the state. -/
theorem answer_of_refused (refused : ¬ started env q) :
    (∀ s, answer env q s = (tooLate, s)) ∨ ∀ s, answer env q s = (tooLarge, s) := by
  by_cases time : Span.ofSeconds env.config.timeouts.request = 0
  · exact .inl fun s => if_pos time
  · cases room : q.declaredLength.any (env.config.listener.maxBodySize < ·) with
    | false => exact absurd ⟨time, room⟩ refused
    | true => exact .inr fun s => (if_neg time).trans (if_pos room)

theorem respond_eq : respond env q s = (finish env q (answer env q s).1, (answer env q s).2) :=
  rfl

/-- A request that is started is answered as its plan ends, and its answer is counted. -/
theorem answer_of_run (ready : started env q) :
    answer env q s =
      ((planRun env q s).1.response, (planRun env q s).1.counted q (planRun env q s).2) := by
  rw [answer_of_started ready]
  unfold runPlan planRun
  generalize (plan env q).run env (some (lastMoment env s)) s = result
  obtain ⟨ending, after⟩ := result
  cases ending <;> rfl

/-- What a request that is started comes to, by how its plan ends. -/
theorem respond_of_started (ready : started env q) :
    (respond env q s).1.status = (planRun env q s).1.response.status ∧
      (respond env q s).2.store = (planRun env q s).2.store := by
  rw [respond_eq, answer_of_run ready, finish_status]
  exact ⟨rfl, Ending.counted_store _ _ _⟩

theorem isSuccess_of_status {n : Nat} (status : (respond env q s).1.status = n)
    (good : isSuccess n = true) : isSuccess (respond env q s).1.status = true := by
  rw [status]
  exact good

/-- A request that is refused at the outset leaves everything as it was. -/
theorem respond_of_refused (refused : ¬ started env q) :
    ((respond env q s).1.status = 408 ∨ (respond env q s).1.status = 413) ∧
      (respond env q s).2 = s := by
  rw [respond_eq, finish_status]
  rcases answer_of_refused refused with late | large
  · rw [late]
    exact ⟨.inl rfl, rfl⟩
  · rw [large]
    exact ⟨.inr rfl, rfl⟩

theorem plan_of_resource {r : Resource} (found : resource? env.config q = some r) :
    plan env q = admission env q >>= fun _ => serve env q r := by
  unfold plan
  rw [found]

theorem handle_post (segment : String) (context : Store.User × Store.Post) :
    handle env q (.post segment) context =
      match q.method with
      | .patch => editPost env q context.2
      | .delete => deletePost context.2
      | _ => showPost context.2 := rfl

theorem handle_identities :
    handle env q .identities () =
      match q.method with
      | .delete => flushCache
      | _ => showCache := rfl

theorem member_of_bearer {id : Int}
    (known : Credential.bearer env.config.auth.token env.now.second q.headers = .ok id) :
    member env q = memberOf id := by
  rw [member, authenticate, known, bind_assoc, memberOf]
  refine congrArg (resolve id >>= ·) (funext fun caller => ?_)
  cases caller <;> rfl

theorem logInAs_eq (l : Login) :
    logInAs env l = Plan.ask (.call (.credentials l.email)) >>= logInWith env l := by
  refine congrArg (Plan.ask (.call (.credentials l.email)) >>= ·) (funext fun answer => ?_)
  cases answer with
  | ok account => rfl
  | error e => cases e <;> rfl

theorem plan_of_nothing (missing : resource? env.config q = none) :
    plan env q = admission env q >>= fun _ => .done (.ofStatus 404) := by
  unfold plan
  rw [missing]
  rfl

end

namespace Failure

theorem response_status (f : Failure) : f.response.status = f.status := by
  cases f <;> rfl

theorem not_success (f : Failure) : isSuccess f.response.status = false := by
  rw [response_status]
  cases f <;> rfl

end Failure

theorem Halt.not_success (why : Halt) : isSuccess why.response.status = false := by
  cases why with
  | failed failure => exact failure.not_success
  | invalidPath parameter => rfl

end Agora.Service
