import Agora.Proofs.PostGates

set_option autoImplicit false

namespace Agora.Service

open Credential (Refusal)
open Http (Request Response isSuccess)
open Store (User)
open Time (Span)

/-- The path is open to anyone: the health of the service, and registering, activating an account
and logging in. -/
def isPublic : List String → Bool
  | ["", "v1", "health"] => true
  | ["", "v1", "authentication", "user"] => true
  | ["", "v1", "authentication", "activate", _] => true
  | ["", "v1", "authentication", "login"] => true
  | _ => false

/-- The path lies where the operators' resources are. -/
def underAdmin (segments : List String) : Bool := ["", "v1", "admin"].isPrefixOf segments

/-- Who may use what a path names. -/
def gateOf (segments : List String) : Access :=
  if isPublic segments then .anyone else if underAdmin segments then .operator else .member

/-- Every resource stands behind the gate of its path. -/
theorem access_of_ofSegments {segments : List String} {r : Resource}
    (named : Resource.ofSegments segments = some r) : r.access = gateOf segments := by
  unfold Resource.ofSegments at named
  split at named
  all_goals first
    | (cases named; rfl)
    | cases named
    | (split at named <;> cases named; rfl)

theorem access_of_resource? {c : Config} {q : Request} {r : Resource}
    (found : resource? c q = some r) :
    r.access = gateOf q.segments ∧ (r.access = .operator → c.admin.enabled = true) := by
  obtain ⟨named, allowed⟩ := Option.filter_eq_some_iff.1 found
  refine ⟨access_of_ofSegments named, fun operators => ?_⟩
  simpa only [operators, ne_eq, not_true_eq_false, decide_false, Bool.or_false] using allowed

namespace Access

/-- The check of the caller's credentials at a gate. -/
def check (env : Env) (q : Request) : Access → Plan (Except Refusal (Option User))
  | .anyone => .done (.ok none)
  | .member => do return (← authenticate env q.headers).map some
  | .operator => .done ((Credential.operator env.config.auth.operator q.headers).map fun _ => none)

def failure : Access → Failure
  | .operator => .operatorUnauthorized
  | _ => .unauthorized

theorem failure_status (gate : Access) : gate.failure.response.status = 401 := by
  cases gate with
  | anyone => rfl
  | member => rfl
  | operator => rfl

end Access

section

variable {env : Env} {q : Request} {s : State}

theorem member_eq :
    member env q = Access.member.check env q >>= fun
      | .ok caller => caller.elim (Plan.fail .unauthorized) .done
      | .error refusal => refuse refusal .unauthorized := by
  rw [member, Access.check, bind_assoc]
  refine congrArg (authenticate env q.headers >>= ·) (funext fun caller => ?_)
  cases caller with
  | ok user => rfl
  | error refusal => rfl

theorem operator_eq :
    operator env q = Access.operator.check env q >>= fun
      | .ok _ => .done ()
      | .error refusal => refuse refusal .operatorUnauthorized := by
  rw [operator, Access.check]
  cases Credential.operator env.config.auth.operator q.headers with
  | ok _ => rfl
  | error refusal => rfl

/-- A resource for members is entered through the question who calls. -/
theorem enter_of_member (env : Env) (q : Request) {r : Resource} (members : r.access = .member) :
    ∃ rest : User → Plan r.Context, enter env q r = member env q >>= rest := by
  cases r with
  | posts => exact ⟨.done, (bind_pure _).symm⟩
  | comments => exact ⟨.done, (bind_pure _).symm⟩
  | feed => exact ⟨.done, (bind_pure _).symm⟩
  | post segment => exact ⟨_, rfl⟩
  | person segment => exact ⟨_, rfl⟩
  | following segment => exact ⟨_, rfl⟩
  | unfollowing segment => exact ⟨_, rfl⟩
  | _ => cases members

theorem enter_of_operator (env : Env) (q : Request) {r : Resource}
    (operators : r.access = .operator) :
    ∃ rest : Unit → Plan r.Context, enter env q r = operator env q >>= rest := by
  cases r with
  | status => exact ⟨.done, (bind_pure _).symm⟩
  | limiter => exact ⟨.done, (bind_pure _).symm⟩
  | identities => exact ⟨.done, (bind_pure _).symm⟩
  | account segment => exact ⟨.done, (bind_pure _).symm⟩
  | _ => cases operators

theorem refuse_then {α β : Type} (refusal : Refusal) (failure : Failure) (f : α → Plan β) :
    refuse refusal failure >>= f = refuse refusal failure := rfl

/-- The check of the credentials is the first that a resource asks for, and whoever fails it is
refused. -/
theorem serve_eq (env : Env) (q : Request) (r : Resource) :
    ∃ rest : Option User → Plan Response, serve env q r = r.access.check env q >>= fun
      | .ok caller => rest caller
      | .error refusal => refuse refusal r.access.failure := by
  cases gate : r.access with
  | anyone => exact ⟨fun _ => serve env q r, rfl⟩
  | member =>
    obtain ⟨rest, enters⟩ := enter_of_member env q gate
    refine ⟨fun caller => caller.elim (Plan.fail .unauthorized) .done >>= fun user =>
      rest user >>= fun context =>
        if r.serves q.method then handle env q r context else notServed, ?_⟩
    rw [serve, enters, member_eq, bind_assoc, bind_assoc]
    refine congrArg (Access.member.check env q >>= ·) (funext fun verdict => ?_)
    cases verdict with
    | ok caller => rfl
    | error refusal => exact refuse_then _ _ _
  | operator =>
    obtain ⟨rest, enters⟩ := enter_of_operator env q gate
    refine ⟨fun _ => rest () >>= fun context =>
      if r.serves q.method then handle env q r context else notServed, ?_⟩
    rw [serve, enters, operator_eq, bind_assoc, bind_assoc]
    refine congrArg (Access.operator.check env q >>= ·) (funext fun verdict => ?_)
    cases verdict with
    | ok caller => rfl
    | error refusal => exact refuse_then _ _ _

theorem check_keeps {cutoff : Option Span} (gate : Access) :
    Plan.Keeps env cutoff (gate.check env q) := by
  cases gate with
  | anyone => exact .done _
  | member => exact .bind (authenticate_keeps _) fun _ => .done _
  | operator => exact .done _

theorem check_member_ok {cutoff : Option Span} {caller : Option User} {admitted checked : State}
    (passed : (Access.member.check env q).run env cutoff admitted = (.done (.ok caller), checked)) :
    ∃ user, (authenticate env q.headers).run env cutoff admitted = (.done (.ok user), checked) := by
  obtain ⟨found, after, asked, ended⟩ := Plan.run_then_done passed
  cases found with
  | ok user =>
    cases ended
    exact ⟨user, asked⟩
  | error refusal => cases ended

theorem check_operator_ok {cutoff : Option Span} {caller : Option User} {admitted checked : State}
    (passed : (Access.operator.check env q).run env cutoff admitted =
      (.done (.ok caller), checked)) :
    Credential.operator env.config.auth.operator q.headers = .ok () := by
  rw [Access.check] at passed
  cases given : Credential.operator env.config.auth.operator q.headers with
  | ok _ => rfl
  | error refusal =>
    rw [given] at passed
    cases passed

end

/-- A request has been turned away at a gate, for a reason that the check has found: the answer says
so, the check was all that was done but for counting, no call went to the store but for the caller's
own account, and nothing else of the request has been looked at. -/
structure TurnedAway (env : Env) (q : Request) (s : State) (gate : Access) (refusal : Refusal)
    (admitted checked : State) : Prop where
  status : (respond env q s).1.status = 401
  answered : respond env q s = (finish env q gate.failure.response,
    (checked.count (.rejection refusal.stage)).count (.request q.method.name 401))
  steps : (plan env q).steps env (some (lastMoment env s)) s =
    (admission env q).steps env (some (lastMoment env s)) s ++
      ((gate.check env q).steps env (some (lastMoment env s)) admitted ++
        [.count (.rejection refusal.stage)])
  loads (c : Store.Call) : .call c ∈ (plan env q).steps env (some (lastMoment env s)) s →
    ∃ id, Credential.bearer env.config.auth.token env.now.second q.headers = .ok id ∧ c = .user id
  blind (other : Request) : other.headers = q.headers → other.peer = q.peer →
    gateOf other.segments = gate → (resource? env.config other).isSome = true →
    planRun env other s = planRun env q s

section

variable {env : Env} {q : Request} {s admitted checked : State}

theorem planRun_of_refusal {r : Resource} {refusal : Refusal}
    (found : resource? env.config q = some r)
    (admits : (admission env q).run env (some (lastMoment env s)) s = (.done (), admitted))
    (checks : (r.access.check env q).run env (some (lastMoment env s)) admitted =
      (.done (.error refusal), checked)) :
    planRun env q s = (.halted (.failed r.access.failure),
      checked.count (.rejection refusal.stage)) := by
  obtain ⟨rest, serves⟩ := serve_eq env q r
  rw [planRun, plan_of_resource found, Plan.run_then, admits]
  dsimp only
  rw [serves, Plan.run_then, checks]
  rfl

theorem admission_congr {other : Request} (headers : other.headers = q.headers)
    (peer : other.peer = q.peer) : admission env other = admission env q := by
  unfold admission
  rw [headers, peer]

theorem check_congr {other : Request} (headers : other.headers = q.headers) (gate : Access) :
    gate.check env other = gate.check env q := by
  cases gate with
  | anyone => rfl
  | member => rw [Access.check, Access.check, headers]
  | operator => rw [Access.check, Access.check, headers]

/-- Admission and the check call the store for nothing but the account of the token's subject. -/
theorem check_calls (gate : Access) :
    (gate.check env q).All fun step => ∀ c, step = .call c →
      ∃ id, Credential.bearer env.config.auth.token env.now.second q.headers = .ok id ∧
        c = .user id := by
  cases gate with
  | anyone => exact trivial
  | operator => exact trivial
  | member =>
    refine .bind ?_ fun _ => trivial
    rw [authenticate]
    cases known : Credential.bearer env.config.auth.token env.now.second q.headers with
    | error refusal => exact trivial
    | ok id =>
      refine .bind ?_ fun _ => trivial
      refine ⟨fun c look => (by cases look), fun found => ?_⟩
      cases found with
      | some user => exact trivial
      | none =>
        refine ⟨fun c asks => ⟨id, rfl, (Step.call.inj asks).symm⟩, fun answer => ?_⟩
        cases answer with
        | error e => exact trivial
        | ok user => exact ⟨fun c keeps => (by cases keeps), fun _ => trivial⟩

theorem admission_calls : (admission env q).All fun step => ∀ c, step ≠ .call c := by
  unfold admission
  split
  · refine ⟨fun c asks => (by cases asks), fun verdict => ?_⟩
    cases verdict with
    | allowed => exact trivial
    | limited retryAfter => exact ⟨fun c counts => (by cases counts), fun _ => trivial⟩
  · exact trivial

theorem turnedAway {r : Resource} {refusal : Refusal} (ready : started env q)
    (found : resource? env.config q = some r)
    (admits : (admission env q).run env (some (lastMoment env s)) s = (.done (), admitted))
    (checks : (r.access.check env q).run env (some (lastMoment env s)) admitted =
      (.done (.error refusal), checked)) :
    TurnedAway env q s r.access refusal admitted checked := by
  have ran := planRun_of_refusal found admits checks
  have answered : respond env q s = (finish env q r.access.failure.response,
      (checked.count (.rejection refusal.stage)).count (.request q.method.name 401)) := by
    rw [respond_eq, answer_of_run ready, ran]
    simp only [Ending.response, Ending.counted, Halt.response, Access.failure_status]
  have steps : (plan env q).steps env (some (lastMoment env s)) s =
      (admission env q).steps env (some (lastMoment env s)) s ++
        ((r.access.check env q).steps env (some (lastMoment env s)) admitted ++
          [.count (.rejection refusal.stage)]) := by
    obtain ⟨rest, serves⟩ := serve_eq env q r
    rw [plan_of_resource found, Plan.steps_then _ admits, serves, Plan.steps_then _ checks]
    rfl
  refine ⟨?_, answered, steps, ?_, ?_⟩
  · rw [answered, finish_status, Access.failure_status]
  · intro c made
    rw [steps] at made
    rcases List.mem_append.1 made with early | made
    · exact absurd rfl (admission_calls.mem_steps early c)
    · rcases List.mem_append.1 made with checking | counting
      · exact (check_calls r.access).mem_steps checking c rfl
      · cases List.mem_singleton.1 counting
  · intro other headers peer gate stands
    obtain ⟨r', found'⟩ := Option.isSome_iff_exists.1 stands
    have same : r'.access = r.access := (access_of_resource? found').1.trans gate
    rw [ran]
    rw [← admission_congr headers peer] at admits
    rw [← check_congr headers r.access, ← same] at checks
    rw [planRun_of_refusal found' admits checks, same]

/-- A plan has an effect: it ends in an answer of success, or writes to the store. -/
def HasEffect (env : Env) (cutoff : Option Span) (p : Plan Response) (s : State) : Prop :=
  isSuccess (p.run env cutoff s).1.response.status = true ∨ (p.run env cutoff s).2.store ≠ s.store

/-- Where the first of two plans only looks, the effect is the second's, and so there is one. -/
theorem hasEffect_then {α : Type} {cutoff : Option Span} {p : Plan α} {f : α → Plan Response}
    (looks : Plan.Keeps env cutoff p) (effect : HasEffect env cutoff (p >>= f) s) :
    ∃ value after, p.run env cutoff s = (.done value, after) ∧
      HasEffect env cutoff (f value) after := by
  rw [HasEffect, Plan.run_then] at effect
  cases first : p.run env cutoff s with
  | mk ending after =>
    have same : after.store = s.store := looks.of_run first
    rw [first] at effect
    cases ending with
    | done value =>
      refine ⟨value, after, rfl, ?_⟩
      rw [HasEffect, same]
      exact effect
    | halted why =>
      rcases effect with success | wrote
      · rw [Ending.response, why.not_success] at success
        cases success
      · exact absurd same wrote
    | cutOff =>
      rcases effect with success | wrote
      · cases success
      · exact absurd same wrote

theorem not_hasEffect_refuse {cutoff : Option Span} (refusal : Refusal) (failure : Failure) :
    ¬HasEffect env cutoff (refuse refusal failure) s := by
  rintro (success | wrote)
  · change isSuccess failure.response.status = true at success
    rw [failure.not_success] at success
    cases success
  · exact wrote rfl

/-- A request that succeeds or writes has passed the check at the gate of what it is for. -/
theorem check_of_effect
    (effect : isSuccess (respond env q s).1.status = true ∨ (respond env q s).2.store ≠ s.store) :
    ∃ r admitted caller checked, resource? env.config q = some r ∧
      (admission env q).run env (some (lastMoment env s)) s = (.done (), admitted) ∧
      (r.access.check env q).run env (some (lastMoment env s)) admitted =
        (.done (.ok caller), checked) := by
  by_cases ready : started env q
  · obtain ⟨status, store⟩ := respond_of_started (s := s) ready
    rw [status, store] at effect
    cases found : resource? env.config q with
    | none =>
      have ran : HasEffect env (some (lastMoment env s)) (plan env q) s := effect
      rw [plan_of_nothing found] at ran
      obtain ⟨_, _, _, missing⟩ := hasEffect_then admission_keeps ran
      rcases missing with success | wrote
      · cases success
      · exact absurd rfl wrote
    | some r =>
      obtain ⟨rest, serves⟩ := serve_eq env q r
      have ran : HasEffect env (some (lastMoment env s)) (plan env q) s := effect
      rw [plan_of_resource found] at ran
      obtain ⟨_, admitted, admits, served⟩ := hasEffect_then admission_keeps ran
      rw [serves] at served
      obtain ⟨verdict, checked, checks, followed⟩ := hasEffect_then (check_keeps r.access) served
      cases verdict with
      | ok caller => exact ⟨r, admitted, caller, checked, rfl, admits, checks⟩
      | error refusal => exact absurd followed (not_hasEffect_refuse refusal _)
  · obtain ⟨status, same⟩ := respond_of_refused (s := s) ready
    rcases effect with success | wrote
    · rcases status with late | large
      · rw [late] at success
        cases success
      · rw [large] at success
        cases success
    · rw [same] at wrote
      exact absurd rfl wrote

/-- Nothing is done for a request around the gates. If its answer is one of success or it has
changed the store, then its path is public; or it is an operator's, operators are served, and the
credentials are theirs; or the caller has been authenticated as a member. And a request on any
other path whose credentials fail the check is turned away. -/
theorem complete_mediation (env : Env) (q : Request) (s : State) :
    (isSuccess (respond env q s).1.status = true ∨ (respond env q s).2.store ≠ s.store →
      ∃ r, resource? env.config q = some r ∧
        (isPublic q.segments = true ∨
          (underAdmin q.segments = true ∧ env.config.admin.enabled = true ∧
            Credential.operator env.config.auth.operator q.headers = .ok ()) ∨
          (underAdmin q.segments = false ∧ ∃ admitted user checked,
            (admission env q).run env (some (lastMoment env s)) s = (.done (), admitted) ∧
            (authenticate env q.headers).run env (some (lastMoment env s)) admitted =
              (.done (.ok user), checked)))) ∧
    ∀ r admitted refusal checked, resource? env.config q = some r →
      isPublic q.segments = false → started env q →
      (admission env q).run env (some (lastMoment env s)) s = (.done (), admitted) →
      ((gateOf q.segments).check env q).run env (some (lastMoment env s)) admitted =
        (.done (.error refusal), checked) →
      TurnedAway env q s (gateOf q.segments) refusal admitted checked := by
  constructor
  · intro effect
    obtain ⟨r, admitted, caller, checked, found, admits, checks⟩ := check_of_effect effect
    obtain ⟨gate, enabled⟩ := access_of_resource? found
    refine ⟨r, found, ?_⟩
    cases openly : isPublic q.segments with
    | true => exact .inl rfl
    | false =>
      cases admin : underAdmin q.segments with
      | true =>
        have operators : r.access = .operator := by
          rw [gate, gateOf, openly, admin]
          rfl
        rw [operators] at checks
        exact .inr (.inl ⟨rfl, enabled operators, check_operator_ok checks⟩)
      | false =>
        have members : r.access = .member := by
          rw [gate, gateOf, openly, admin]
          rfl
        rw [members] at checks
        obtain ⟨user, asked⟩ := check_member_ok checks
        exact .inr (.inr ⟨rfl, admitted, user, checked, admits, asked⟩)
  · intro r admitted refusal checked found _ ready admits checks
    have gate := (access_of_resource? found).1
    rw [← gate] at checks ⊢
    exact turnedAway ready found admits checks

end

namespace Sample

/-- A request without credentials on a post whose number is none. -/
def stranger : Request where
  method := .delete
  target := "/v1/posts/none"

def visitor : Request where
  method := .get
  target := "/v1/health"

theorem stranger_segments : stranger.segments = ["", "v1", "posts", "none"] := by
  rw [Request.segments, Request.path, Request.resource, stranger]
  decide +kernel

theorem visitor_segments : visitor.segments = ["", "v1", "health"] := by
  rw [Request.segments, Request.path, Request.resource, visitor]
  decide +kernel

theorem stranger_started : started (env 0) stranger := ⟨by decide, rfl⟩

theorem visitor_started : started (env 0) visitor := ⟨by decide, rfl⟩

theorem stranger_resource : resource? (env 0).config stranger = some (.post "none") := by
  rw [resource?, stranger_segments]
  rfl

theorem visitor_resource : resource? (env 0).config visitor = some .health := by
  rw [resource?, visitor_segments]
  rfl

theorem stranger_gate : gateOf stranger.segments = .member := by
  rw [stranger_segments]
  rfl

theorem visitor_served : isSuccess (respond (env 0) visitor (state 1)).1.status = true := by
  rw [(respond_of_started visitor_started).1, planRun, plan_of_resource visitor_resource]
  rfl

def admitted : State :=
  ((admission (env 0) stranger).run (env 0) (some (lastMoment (env 0) (state 1))) (state 1)).2

theorem stranger_admitted :
    (admission (env 0) stranger).run (env 0) (some (lastMoment (env 0) (state 1))) (state 1) =
      (.done (), admitted) := by
  rfl

theorem stranger_refused :
    ((gateOf stranger.segments).check (env 0) stranger).run (env 0)
      (some (lastMoment (env 0) (state 1))) admitted =
        (.done (.error .missingHeader), admitted) := by
  rw [stranger_gate]
  rfl

end Sample

/-- Anyone may ask for the health of the service. A caller without credentials is turned away from
a post, although the path does not even hold the number of one. -/
theorem stranger_turned_away :
    ((isSuccess (respond (Sample.env 0) Sample.visitor (Sample.state 1)).1.status = true ∨
        (respond (Sample.env 0) Sample.visitor (Sample.state 1)).2.store ≠
          (Sample.state 1).store) ∧
      ∃ r, resource? (Sample.env 0).config Sample.visitor = some r ∧
        (isPublic Sample.visitor.segments = true ∨
          (underAdmin Sample.visitor.segments = true ∧
            (Sample.env 0).config.admin.enabled = true ∧
            Credential.operator (Sample.env 0).config.auth.operator Sample.visitor.headers =
              .ok ()) ∨
          (underAdmin Sample.visitor.segments = false ∧ ∃ admitted user checked,
            (admission (Sample.env 0) Sample.visitor).run (Sample.env 0)
              (some (lastMoment (Sample.env 0) (Sample.state 1))) (Sample.state 1) =
                (.done (), admitted) ∧
            (authenticate (Sample.env 0) Sample.visitor.headers).run (Sample.env 0)
              (some (lastMoment (Sample.env 0) (Sample.state 1))) admitted =
                (.done (.ok user), checked)))) ∧
    (resource? (Sample.env 0).config Sample.stranger = some (.post "none") ∧
      isPublic Sample.stranger.segments = false ∧ started (Sample.env 0) Sample.stranger ∧
      (admission (Sample.env 0) Sample.stranger).run (Sample.env 0)
        (some (lastMoment (Sample.env 0) (Sample.state 1))) (Sample.state 1) =
          (.done (), Sample.admitted) ∧
      ((gateOf Sample.stranger.segments).check (Sample.env 0) Sample.stranger).run (Sample.env 0)
        (some (lastMoment (Sample.env 0) (Sample.state 1))) Sample.admitted =
          (.done (.error .missingHeader), Sample.admitted)) ∧
    TurnedAway (Sample.env 0) Sample.stranger (Sample.state 1) (gateOf Sample.stranger.segments)
      .missingHeader Sample.admitted Sample.admitted := by
  have served := Sample.visitor_served
  have closed : isPublic Sample.stranger.segments = false := by
    rw [Sample.stranger_segments]
    rfl
  refine ⟨⟨.inl served, ?_⟩, ⟨Sample.stranger_resource, closed, Sample.stranger_started,
    Sample.stranger_admitted, Sample.stranger_refused⟩, ?_⟩
  · exact (complete_mediation (Sample.env 0) Sample.visitor (Sample.state 1)).1 (.inl served)
  · exact (complete_mediation (Sample.env 0) Sample.stranger (Sample.state 1)).2 (.post "none")
      Sample.admitted .missingHeader Sample.admitted Sample.stranger_resource closed
      Sample.stranger_started Sample.stranger_admitted Sample.stranger_refused

end Agora.Service
