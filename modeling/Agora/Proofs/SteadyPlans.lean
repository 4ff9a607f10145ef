import Agora.Proofs.RequestSteps

/-!
The shape of what a request does. It begins with steps that look at what the service itself holds,
its limiter and its cache. What follows is steady: it goes by the answers of the store alone, a call
that the store does not answer ends it with one and the same answer, and whatever is counted besides
the answer is counted right before the plan halts for it.
-/

set_option autoImplicit false

namespace Agora

namespace Service

open Http (Method Request Response)
open Store (Outage Post User)

/-- What ends a request and is counted besides its answer. -/
inductive Cause where
  /-- The client is not admitted. -/
  | admission
  /-- The credentials are refused. -/
  | credentials
  /-- The caller has no right to the post. -/
  | right
  /-- The post does not stand at the version of the change. -/
  | version
  deriving DecidableEq, Repr

namespace Cause

def status : Cause → Nat
  | .admission => 429
  | .credentials => 401
  | .right => 403
  | .version => 409

/-- The cause of an answer, by its status. -/
def ofStatus? : Nat → Option Cause
  | 429 => some .admission
  | 401 => some .credentials
  | 403 => some .right
  | 409 => some .version
  | _ => none

theorem ofStatus?_eq_some {n : Nat} {cause : Cause} :
    ofStatus? n = some cause ↔ n = cause.status := by
  constructor
  · intro found
    unfold ofStatus? at found
    split at found <;> cases found <;> rfl
  · rintro rfl
    cases cause <;> rfl

/-- The cause that is counted when a request ends for one. Credentials that a login finds wrong are
not counted. -/
def due? (login : Bool) : Option Cause → Option Cause
  | some .credentials => if login then none else some .credentials
  | cause => cause

theorem due?_eq_some {login : Bool} {found : Option Cause} {cause : Cause} :
    due? login found = some cause ↔
      found = some cause ∧ ¬(cause = .credentials ∧ login = true) := by
  cases found with
  | none => simp [due?]
  | some other => cases other <;> cases cause <;> cases login <;> simp [due?]

end Cause

end Service

open Service (Cause)

def Metrics.Series.cause? : Metrics.Series → Option Cause
  | .rateLimited => some .admission
  | .rejection _ => some .credentials
  | .denial => some .right
  | .conflict => some .version
  | .request .. | .lookup _ => none

namespace Service

open Http (Method Request Response)
open Store (Outage Post User)
open Time (Span)

/-- The cause for which a request ends, if it is one that is counted. -/
def Halt.cause? : Halt → Option Cause
  | .failed (.rateLimited _) => some .admission
  | .failed .unauthorized | .failed .operatorUnauthorized => some .credentials
  | .failed .forbidden => some .right
  | .failed .conflict => some .version
  | _ => none

/-- The cause that has been counted when a request ends. -/
def Halt.due? (login : Bool) (why : Halt) : Option Cause := Cause.due? login why.cause?

/-- The cause of an answer can be read off its status. -/
theorem Halt.cause?_eq (why : Halt) : why.cause? = Cause.ofStatus? why.response.status := by
  cases why with
  | invalidPath parameter => rfl
  | failed failure =>
    rw [response, Failure.response_status]
    cases failure <;> rfl

theorem Halt.due?_ofStore (login : Bool) (e : Store.Error) :
    (Halt.failed (.ofStore e)).due? login = none := by
  cases e <;> rfl

instance (env : Env) (q : Request) : Decidable (started env q) :=
  inferInstanceAs (Decidable (_ ∧ _))

/-- How a request is refused at the outset hangs on the configuration alone. -/
theorem answer_of_unstarted {env : Env} {q : Request} (refused : ¬started env q) :
    ∃ response, ∀ other s, other.config = env.config → answer other q s = (response, s) := by
  by_cases time : Span.ofSeconds env.config.timeouts.request = 0
  · refine ⟨tooLate, ?_⟩
    intro other s same
    rw [answer, same]
    exact if_pos time
  · cases room : q.declaredLength.any (env.config.listener.maxBodySize < ·) with
    | false => exact absurd ⟨time, room⟩ refused
    | true =>
      refine ⟨tooLarge, ?_⟩
      intro other s same
      rw [answer, same]
      exact (if_neg time).trans (if_pos room)

def Resource.logsIn (m : Method) : Resource → Bool
  | .login => m = .post
  | _ => false

/-- The resource shows what the service holds besides the store. -/
def Resource.views : Resource → Bool
  | .limiter | .identities => true
  | _ => false

def isLogin (c : Config) (q : Request) : Bool := (resource? c q).any (·.logsIn q.method)

namespace Step

/-- The step is done beside the store, and nothing hangs on its answer. -/
def aside : Step → Bool
  | .keep _ | .evict _ | .pause => true
  | _ => false

/-- The step looks at what the service holds, on an operator's behalf. -/
def view : Step → Bool
  | .limiterStats | .cacheStats | .flush => true
  | _ => false

def front : Step → Bool
  | .allow _ | .lookUp _ | .limiterStats | .cacheStats | .flush => true
  | _ => false

end Step

/-- The answer to a request that does not get through to the store. -/
def storeDown : Response := (Failure.ofStore (.unavailable .offline)).response

theorem storeDown_eq (o : Outage) : (Halt.failed (.ofStore (.unavailable o))).response = storeDown :=
  rfl

namespace Plan

variable {α β : Type} {login : Bool} {kind : Step → Bool} {response : Response}

/-- The plan does nothing but count, and then halts with an answer. -/
inductive HaltsWith (response : Response) : Plan α → Prop where
  | halt {why : Halt} (answers : why.response = response) : HaltsWith response (.halt why)
  | count {series : Metrics.Series} {next : Unit → Plan α} (rest : HaltsWith response (next ())) :
      HaltsWith response (.step (.count series) next)

theorem HaltsWith.bind {p : Plan α} (f : α → Plan β) (halts : p.HaltsWith response) :
    (p >>= f).HaltsWith response := by
  induction halts with
  | halt answers => exact .halt answers
  | count _ ih => exact .count ih

/-- The plan goes by the answers of the store alone. Where the store does not answer, it halts, and
the answer does not tell why. It counts a cause right before it halts for it, and it does not halt
otherwise for a cause that is to be counted. -/
inductive Steady (login : Bool) : Plan α → Prop where
  | done (value : α) : Steady login (.done value)
  | halt {why : Halt} (free : why.due? login = none) : Steady login (.halt why)
  | count {series : Metrics.Series} {next : Unit → Plan α} {cause : Cause} {why : Halt}
      (counts : series.cause? = some cause) (due : why.due? login = some cause)
      (halts : next () = .halt why) : Steady login (.step (.count series) next)
  | call {c : Store.Call} {next : Except Store.Error c.Answer → Plan α} {response : Response}
      (outage : ∀ o, (next (.error (.unavailable o))).HaltsWith response)
      (rest : ∀ answer, Steady login (next answer)) : Steady login (.step (.call c) next)
  | aside {only : Step} {next : only.Answer → Plan α} (allowed : only.aside = true)
      (rest : ∀ answer, Steady login (next answer)) : Steady login (.step only next)

namespace Steady

theorem bind {p : Plan α} {f : α → Plan β} (first : p.Steady login)
    (rest : ∀ value, (f value).Steady login) : (p >>= f).Steady login := by
  induction first with
  | done value => exact rest value
  | halt free => exact .halt free
  | count counts due halts =>
    exact .count counts due (congrArg (fun ended : Plan α => ended.bind f) halts)
  | call outage _ ih => exact .call (fun o => (outage o).bind f) ih
  | aside allowed _ ih => exact .aside allowed ih

theorem accept (outcome : Except Complaint α) : (Plan.accept outcome).Steady login := by
  cases outcome with
  | ok value => exact .done value
  | error complaint => exact .halt rfl

theorem failed (e : Store.Error) : (Plan.fail (.ofStore e) : Plan α).Steady login :=
  .halt (Halt.due?_ofStore login e)

theorem ofCall (c : Store.Call) : (Plan.call c).Steady login := by
  apply Steady.call
  · intro o
    exact .halt (storeDown_eq o)
  · intro answer
    cases answer with
    | ok value => exact .done value
    | error e => exact failed e

end Steady

/-- The plan takes steps of a kind, and is steady after that. -/
inductive Fronted (kind : Step → Bool) (login : Bool) : Plan α → Prop where
  | steady {p : Plan α} (rest : p.Steady login) : Fronted kind login p
  | step {first : Step} {next : first.Answer → Plan α} (allowed : kind first = true)
      (rest : ∀ answer, Fronted kind login (next answer)) : Fronted kind login (.step first next)

namespace Fronted

theorem mono {wider : Step → Bool} {p : Plan α} (fronted : p.Fronted kind login)
    (among : ∀ step, kind step = true → wider step = true) : p.Fronted wider login := by
  induction fronted with
  | steady rest => exact .steady rest
  | step allowed _ ih => exact .step (among _ allowed) ih

theorem bind {p : Plan α} {f : α → Plan β} (first : p.Fronted kind login)
    (rest : ∀ value, (f value).Steady login) : (p >>= f).Fronted kind login := by
  induction first with
  | steady steady => exact .steady (steady.bind rest)
  | step allowed _ ih => exact .step allowed ih

theorem look {only : Step} {f : only.Answer → α} (allowed : kind only = true) :
    (Plan.ask only >>= fun answer => .done (f answer)).Fronted kind login :=
  .step allowed fun _ => .steady (.done _)

end Fronted

end Plan

open Plan (Fronted HaltsWith Steady)

section

variable {env : Env} {q : Request} {login : Bool}

/-- Whoever is refused for wrong credentials is counted. -/
theorem refuse_steady {α : Type} (refusal : Credential.Refusal) {failure : Failure}
    (due : (Halt.failed failure).due? login = some .credentials) :
    (refuse refusal failure : Plan α).Steady login := .count rfl due rfl

theorem pathText_steady (parameter segment : String) :
    (pathText parameter segment).Steady login := by
  unfold pathText
  split
  · exact .done _
  · exact .halt rfl

theorem pathId_steady (segment : String) : (pathId segment).Steady login :=
  (pathText_steady _ _).bind fun _ => .accept _

theorem loadPost_steady (segment : String) : (loadPost segment).Steady login :=
  (pathId_steady segment).bind fun _ => .ofCall _

theorem loadUser_steady (segment : String) : (loadUser segment).Steady login :=
  (pathId_steady segment).bind fun _ => .ofCall _

/-- Without the levels of the roles nobody is authorized; an owner needs none. -/
theorem authorize_steady (m : Method) (user : User) (post : Post) :
    (authorize env m user post).Steady login := by
  unfold authorize mayUse
  split
  · exact .done ()
  · rw [bind_assoc]
    apply Steady.call
    · intro o
      exact .halt (storeDown_eq o)
    · intro least
      cases least with
      | error e => exact .failed e
      | ok least =>
        apply Steady.call
        · intro o
          exact .halt (storeDown_eq o)
        · intro held
          cases held with
          | error e => exact .failed e
          | ok held =>
            dsimp only [bind, Plan.bind, pure]
            cases decide (least ≤ held) with
            | true => exact .done ()
            | false => exact .count rfl rfl rfl

/-- A member whose number has been read from a token is looked up; the rest is steady. -/
theorem memberOf_eq (id : Int) :
    ∃ next, memberOf id = .step (.lookUp id) next ∧ ∀ known, (next known).Steady false := by
  refine ⟨_, rfl, ?_⟩
  intro known
  cases known with
  | some user => exact .done user
  | none =>
    apply Steady.call
    · intro o
      exact .count (.halt rfl)
    · intro found
      cases found with
      | ok user => exact .aside rfl fun _ => .done user
      | error e => exact refuse_steady (.identity e) rfl

theorem hashed_steady {α : Type} (outcome : Except Credential.HashFault α) :
    (hashed outcome).Steady login := by
  apply Steady.aside rfl
  intro _
  cases outcome with
  | ok value => exact .done value
  | error fault => exact .halt rfl

theorem invitationExpiry_steady : (invitationExpiry env).Steady login := by
  unfold invitationExpiry
  dsimp only
  split
  · exact .done _
  · exact .halt rfl

theorem logInWith_steady (l : Login) (account : Store.Account) :
    (logInWith env l (.ok account)).Steady true := by
  refine (hashed_steady _).bind fun right => ?_
  split
  · exact .halt rfl
  · split
    · exact .halt rfl
    · exact .done account.user

/-- A login that fails for the credentials halts without a count. -/
theorem logIn_steady : (logIn env q).Steady true := by
  unfold logIn
  split
  · exact .halt rfl
  · rename_i l _
    rw [logInAs_eq, bind_assoc]
    apply Steady.call
    · intro o
      exact .halt (by simpa using storeDown_eq o)
    · intro found
      cases found with
      | error e => cases e <;> exact .halt rfl
      | ok account => exact (logInWith_steady l account).bind fun _ => .done _

theorem register_steady : (register env q).Steady login :=
  (Steady.accept _).bind fun _ => (hashed_steady _).bind fun _ =>
    invitationExpiry_steady.bind fun _ => (Steady.ofCall _).bind fun _ => .done _

theorem activate_steady (segment : String) : (activate segment).Steady login :=
  (pathText_steady _ _).bind fun _ => (Steady.accept _).bind fun _ =>
    (Steady.ofCall _).bind fun _ => .aside rfl fun _ => .done _

/-- A change that comes too late is counted, and then the request halts. -/
theorem editPost_steady (post : Post) : (editPost env q post).Steady login := by
  refine (Steady.accept _).bind fun revision => ?_
  rw [applyUpdate, bind_assoc]
  apply Steady.call
  · intro o
    exact .halt (storeDown_eq o)
  · intro outcome
    cases outcome with
    | ok post => exact .done _
    | error e =>
      cases e with
      | notFound => exact .count rfl rfl rfl
      | _ => exact .halt rfl

theorem deletePost_steady (post : Post) : (deletePost post).Steady login :=
  (Steady.ofCall _).bind fun _ => (Steady.ofCall _).bind fun _ => .done _

theorem showPost_steady (post : Post) : (showPost post).Steady login :=
  (Steady.ofCall _).bind fun _ => .done _

theorem createPost_steady (caller : User) : (createPost env q caller).Steady login :=
  (Steady.accept _).bind fun _ => (Steady.ofCall _).bind fun _ => .done _

theorem createComment_steady (caller : User) : (createComment env q caller).Steady login :=
  (Steady.accept _).bind fun _ => (Steady.ofCall _).bind fun _ => .done _

theorem showFeed_steady (caller : User) : (showFeed q caller).Steady login :=
  (Steady.accept _).bind fun _ => (Steady.ofCall _).bind fun _ => .done _

theorem follow_steady (caller person : User) : (follow caller person).Steady login :=
  (Steady.accept _).bind fun _ => (Steady.ofCall _).bind fun _ => .done _

theorem unfollow_steady (caller person : User) : (unfollow caller person).Steady login :=
  (Steady.ofCall _).bind fun _ => .done _

theorem deleteAccount_steady (segment : String) : (deleteAccount segment).Steady login :=
  (pathId_steady segment).bind fun _ => (Steady.ofCall _).bind fun _ =>
    .aside rfl fun _ => .done _

/-- What a resource does behind its gates is steady, but for the views of operators. -/
theorem handle_steady (r : Resource) (context : r.Context) (served : r.serves q.method = true)
    (stores : r.views = false) : (handle env q r context).Steady (r.logsIn q.method) := by
  cases r with
  | health => exact .done _
  | registration => exact register_steady
  | activation segment => exact activate_steady segment
  | login =>
    have posts : Resource.logsIn q.method .login = true := by
      simpa [Resource.serves, Resource.methods, Resource.logsIn] using served
    rw [posts]
    exact logIn_steady
  | posts => exact createPost_steady context
  | comments => exact createComment_steady context
  | feed => exact showFeed_steady context
  | post segment =>
    rw [handle_post]
    split
    · exact editPost_steady _
    · exact deletePost_steady _
    · exact showPost_steady _
  | person segment => exact .done _
  | following segment => exact follow_steady _ _
  | unfollowing segment => exact unfollow_steady _ _
  | status => exact .done _
  | limiter => cases stores
  | identities => cases stores
  | account segment => exact deleteAccount_steady segment

theorem handle_fronted (r : Resource) (context : r.Context) (served : r.serves q.method = true) :
    (handle env q r context).Fronted Step.view (r.logsIn q.method) := by
  cases r with
  | limiter => exact .look rfl
  | identities =>
    rw [handle_identities]
    split
    · exact .look rfl
    · exact .look rfl
  | _ => exact .steady (handle_steady _ context served rfl)

def behind (env : Env) (q : Request) (r : Resource) (context : r.Context) : Plan Response :=
  if r.serves q.method then handle env q r context else notServed

theorem serve_behind (env : Env) (q : Request) (r : Resource) :
    serve env q r = enter env q r >>= behind env q r := rfl

theorem behind_fronted (r : Resource) (context : r.Context) :
    (behind env q r context).Fronted Step.view (r.logsIn q.method) := by
  unfold behind
  split
  · rename_i served
    exact handle_fronted r context served
  · exact .steady (.done _)

theorem behind_steady (r : Resource) (context : r.Context) (stores : r.views = false) :
    (behind env q r context).Steady (r.logsIn q.method) := by
  unfold behind
  split
  · rename_i served
    exact handle_steady r context served stores
  · exact .done _

/-- At a resource for members, what follows the question who calls is steady. -/
theorem serve_of_member (env : Env) (q : Request) {r : Resource} (members : r.access = .member) :
    ∃ rest : User → Plan Response, serve env q r = member env q >>= rest ∧
      ∀ caller, (rest caller).Steady (r.logsIn q.method) := by
  have withUser (segment : String) (f : User × User → Plan Response)
      (steady : ∀ context, (f context).Steady false) :
      ∃ rest : User → Plan Response, memberAndUser env q segment >>= f = member env q >>= rest ∧
        ∀ caller, (rest caller).Steady false := by
    refine ⟨fun caller => loadUser segment >>= fun person => f (caller, person), ?_, ?_⟩
    · simp only [memberAndUser, bind_assoc, pure_bind]
    · intro caller
      exact (loadUser_steady segment).bind fun _ => steady _
  cases r with
  | posts => exact ⟨_, rfl, fun caller => behind_steady .posts caller rfl⟩
  | comments => exact ⟨_, rfl, fun caller => behind_steady .comments caller rfl⟩
  | feed => exact ⟨_, rfl, fun caller => behind_steady .feed caller rfl⟩
  | post segment =>
    refine ⟨fun caller => loadPost segment >>= fun post =>
      authorize env q.method caller post >>= fun _ =>
        behind env q (.post segment) (caller, post), ?_, ?_⟩
    · simp only [serve_behind, enter, bind_assoc, pure_bind]
    · intro caller
      exact (loadPost_steady segment).bind fun _ => (authorize_steady _ _ _).bind fun _ =>
        behind_steady (.post segment) _ rfl
  | person segment => exact withUser segment _ fun _ => behind_steady (.person segment) _ rfl
  | following segment => exact withUser segment _ fun _ => behind_steady (.following segment) _ rfl
  | unfollowing segment =>
    exact withUser segment _ fun _ => behind_steady (.unfollowing segment) _ rfl
  | _ => cases members

theorem logsIn_of_member {r : Resource} (members : r.access = .member) (m : Method) :
    r.logsIn m = false := by
  cases r <;> first | rfl | cases members

/-- A caller whose token names a user is looked up in the cache first, and then all is steady. -/
theorem serve_of_identified {r : Resource} (members : r.access = .member) {id : Int}
    (known : Credential.bearer env.config.auth.token env.now.second q.headers = .ok id) :
    ∃ next, serve env q r = .step (.lookUp id) next ∧
      ∀ found, (next found).Steady (r.logsIn q.method) := by
  obtain ⟨rest, serves, steady⟩ := serve_of_member env q members
  obtain ⟨next, looks, found⟩ := memberOf_eq id
  refine ⟨fun user => next user >>= rest, ?_, ?_⟩
  · rw [serves, member_of_bearer known, looks]
    rfl
  · intro user
    rw [logsIn_of_member members] at steady ⊢
    exact (found user).bind steady

theorem operator_then {f : Unit → Plan Response} (rest : (f ()).Fronted Step.view false) :
    (operator env q >>= f).Fronted Step.view false := by
  unfold operator
  split
  · exact rest
  · exact .steady (.count rfl rfl rfl)

theorem serve_of_others (r : Resource)
    (others : r.access = .member →
      ∃ refusal, Credential.bearer env.config.auth.token env.now.second q.headers =
        .error refusal) :
    (serve env q r).Fronted Step.view (r.logsIn q.method) := by
  cases gate : r.access with
  | anyone =>
    cases r with
    | health => exact behind_fronted .health ()
    | registration => exact behind_fronted .registration ()
    | activation token => exact behind_fronted (.activation token) ()
    | login => exact behind_fronted .login ()
    | _ => cases gate
  | operator =>
    cases r with
    | status => exact operator_then (behind_fronted .status ())
    | limiter => exact operator_then (behind_fronted .limiter ())
    | identities => exact operator_then (behind_fronted .identities ())
    | account segment => exact operator_then (behind_fronted (.account segment) ())
    | _ => cases gate
  | member =>
    obtain ⟨refusal, refused⟩ := others gate
    obtain ⟨rest, serves, steady⟩ := serve_of_member env q gate
    have turned : member env q = refuse refusal .unauthorized := by
      rw [member, authenticate, refused]
      rfl
    rw [logsIn_of_member gate] at steady ⊢
    rw [serves, turned]
    exact .steady ((refuse_steady refusal rfl).bind steady)

end

end Service

end Agora
