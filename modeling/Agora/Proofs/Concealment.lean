import Agora.Proofs.Mediation
import Agora.Proofs.RetryAfter
import Agora.Proofs.SteadyPlans

set_option autoImplicit false

namespace Agora.Service

open Credential (Refusal)
open Http (Body Request Response)
open Store (User)
open Time (Span)

/-- The body that is shown to a request. -/
def shownBody (q : Request) (body : Body) : Body := if q.method = .head then .empty else body

/-- Two requests have been told the same: the same status, when to come back, and the same body,
which a request for the head alone is not shown. -/
structure ToldAlike (q q' : Request) (r r' : Response) : Prop where
  status : r'.status = r.status
  retryAfter : r'.headers.first? "retry-after" = r.headers.first? "retry-after"
  body : ∃ body, r.body = shownBody q body ∧ r'.body = shownBody q' body

def anonymous (r : Response) : Response :=
  { r with headers := r.headers.filter fun h => h.name ≠ "x-request-id" }

def LeftAlone (before after : State) : Prop :=
  after.store = before.store ∧ after.identities = before.identities

section

variable {env : Env} {q : Request} {response : Response}

theorem toldAlike_finish (env' : Env) (q' : Request) :
    ToldAlike q q' (finish env q response) (finish env' q' response) where
  status := (finish_status response).trans (finish_status response).symm
  retryAfter := by
    rw [finish_header response (by decide) (by decide),
      finish_header response (by decide) (by decide)]
  body := ⟨response.body, finish_body response, finish_body response⟩

/-- What is drawn for a request shows in nothing but its identifier. -/
theorem anonymous_finish {env' : Env} (config : env'.config = env.config) :
    anonymous (finish env' q response) = anonymous (finish env q response) := by
  unfold finish anonymous
  rw [config]
  split <;> simp [Response.withHeader, Response.withoutBody, List.filter_append]

end

/-- The window of the client of a request is full. -/
def crowded (c : Config) (q : Request) (s : State) : Bool :=
  (s.limiter.current? s.clock (clientOf c q)).any (s.limiter.limit ≤ ·.count)

section

variable {env env' : Env} {q q' : Request} {s s' : State}

theorem allow_of_crowded (full : crowded env.config q s = true) :
    ∃ w, s.limiter.current? s.clock (clientOf env.config q) = some w ∧
      (s.limiter.allow s.clock (clientOf env.config q)).1 =
        .limited (s.limiter.length - (s.clock - w.started)) := by
  unfold crowded at full
  cases current : s.limiter.current? s.clock (clientOf env.config q) with
  | none =>
    rw [current] at full
    cases full
  | some w =>
    rw [current] at full
    have none : ¬w.count < s.limiter.limit := Nat.not_lt_of_le (of_decide_eq_true full)
    refine ⟨w, rfl, ?_⟩
    rw [Admission.Limiter.allow_of_some current, if_neg none]

theorem respond_of_crowded (enabled : env.config.rateLimit.enabled = true)
    (short : tooLong env.config q = false) (full : crowded env.config q s = true) :
    ∃ w, s.limiter.current? s.clock (clientOf env.config q) = some w ∧
      (respond env q s).1 = finish env q (if env.config.timeouts.request = 0 then tooLate
        else (Failure.rateLimited (s.limiter.length - (s.clock - w.started))).response) ∧
      LeftAlone s (respond env q s).2 := by
  obtain ⟨w, current, limited⟩ := allow_of_crowded full
  refine ⟨w, current, ?_⟩
  by_cases time : env.config.timeouts.request = 0
  · have instant : Span.ofSeconds env.config.timeouts.request = 0 := by
      rw [time]
      rfl
    have late : answer env q s = (tooLate, s) := if_pos instant
    rw [respond_eq, late, if_pos time]
    exact ⟨rfl, rfl, rfl⟩
  · have ready : started env q := ⟨Nat.mul_ne_zero (by decide) time, short⟩
    rw [respond_eq, answer_of_run ready, planRun_of_limited enabled limited, if_neg time]
    exact ⟨rfl, rfl, rfl⟩

end

/-- The two gates that stand before all that members use. -/
def knock (env : Env) (q : Request) : Plan (Except Refusal User) := do
  admission env q
  authenticate env q.headers

/-- What a caller is told whom the gates do not let in. -/
def turnedAwayWith : Ending (Except Refusal User) → Response
  | .done _ => Failure.unauthorized.response
  | .halted why => why.response
  | .cutOff => tooLate

/-- Two states have the same gates: the same limiter and the same accounts, in a store that is up in
both or down in both, and the same cache. -/
structure SameGates (s s' : State) : Prop where
  limiter : s'.limiter = s.limiter
  clock : s'.clock = s.clock
  identities : s'.identities = s.identities
  accounts : s'.store.tables.accounts = s.store.tables.accounts
  available : s'.store.available = s.store.available

section

variable {env env' : Env} {q q' : Request} {s s' : State}

/-- All that members use lies behind the gates. -/
theorem plan_of_knock {r : Resource} (found : resource? env.config q = some r)
    (members : r.access = .member) :
    ∃ rest : User → Plan Response, plan env q = knock env q >>= fun
      | .ok user => rest user
      | .error refusal => refuse refusal .unauthorized := by
  obtain ⟨rest, serves, _⟩ := serve_of_member env q members
  refine ⟨rest, ?_⟩
  rw [plan_of_resource found, serves, member, knock]
  simp only [bind_assoc]
  refine congrArg (admission env q >>= ·) (funext fun _ => ?_)
  refine congrArg (authenticate env q.headers >>= ·) (funext fun caller => ?_)
  cases caller <;> rfl

/-- Those whom the gates do not let in learn nothing else. -/
theorem planRun_of_knock {r : Resource} (found : resource? env.config q = some r)
    (members : r.access = .member)
    (failed : ∀ user, ((knock env q).run env (some (lastMoment env s)) s).1 ≠ .done (.ok user)) :
    (planRun env q s).1.response =
      turnedAwayWith ((knock env q).run env (some (lastMoment env s)) s).1 := by
  obtain ⟨rest, behind⟩ := plan_of_knock found members
  rw [planRun, behind, Plan.run_then]
  cases ran : (knock env q).run env (some (lastMoment env s)) s with
  | mk ending after =>
    rw [ran] at failed
    cases ending with
    | done caller =>
      cases caller with
      | ok user => exact absurd rfl (failed user)
      | error refusal => rfl
    | halted why => rfl
    | cutOff => rfl

theorem perform_user_same {store store' : Store} {now now' : Time.Stamp} (id : Int)
    (accounts : store'.tables.accounts = store.tables.accounts)
    (available : store'.available = store.available) :
    (store'.perform now' (.user id)).1 = (store.perform now (.user id)).1 := by
  simp only [Store.perform, Store.Tables.apply, Store.Tables.user, accounts, available]
  cases store.available with
  | false => rfl
  | true => cases store.tables.accounts.get? id <;> rfl

variable (config : env'.config = env.config) (delay : env'.delay = env.delay)

include config delay in
theorem performCall_user_same (same : SameGates s s') (cutoff : Option Span) (id : Int) :
    (performCall env' cutoff (.user id) s').1 = (performCall env cutoff (.user id) s).1 := by
  have deadline : env'.deadline = env.deadline := by rw [Env.deadline, config, Env.deadline]
  have settled : fate env' cutoff s'.clock = fate env cutoff s.clock := by
    unfold fate
    rw [delay, deadline, same.clock]
  rw [performCall_eq, performCall_eq, settled]
  cases fate env cutoff s.clock with
  | made moment =>
    have found : ((s'.wait moment).store.perform env'.now (.user id)).1 =
        ((s.wait moment).store.perform env.now (.user id)).1 := by
      rw [State.wait_store, State.wait_store]
      exact perform_user_same id same.accounts same.available
    exact congrArg some found
  | overdue moment =>
    rw [Fate.outcome, Fate.outcome, deadline]
  | cutOff moment => rfl

include config delay in
/-- How the search for a user ends is the same behind the same gates. -/
theorem run_resolve_same (same : SameGates s s') (cutoff : Option Span) (id : Int) :
    ((resolve id).run env' cutoff s').1 = ((resolve id).run env cutoff s).1 := by
  have looked : SameGates (s.looked id) (s'.looked id) := {
    limiter := same.limiter
    clock := same.clock
    identities := by
      show (s'.identities.lookUp s'.clock id).2 = (s.identities.lookUp s.clock id).2
      rw [same.identities, same.clock]
    accounts := same.accounts
    available := same.available }
  have called := performCall_user_same config delay looked cutoff id
  rw [run_resolve, run_resolve, same.identities, same.clock]
  cases (s.identities.lookUp s.clock id).1.2 with
  | some user => rfl
  | none =>
    dsimp only
    generalize performCall env cutoff (.user id) (s.looked id) = made at called ⊢
    generalize performCall env' cutoff (.user id) (s'.looked id) = made' at called ⊢
    obtain ⟨answer, after⟩ := made
    obtain ⟨answer', after'⟩ := made'
    cases called
    cases answer with
    | none => rfl
    | some found => cases found <;> rfl

include config delay in
theorem run_authenticate_same (now : env'.now = env.now) (same : SameGates s s')
    (cutoff : Option Span) (headers : Http.Headers) :
    ((authenticate env' headers).run env' cutoff s').1 =
      ((authenticate env headers).run env cutoff s).1 := by
  rw [authenticate, authenticate, config, now]
  cases Credential.bearer env.config.auth.token env.now.second headers with
  | error refusal => rfl
  | ok id =>
    have found := run_resolve_same config delay same cutoff id
    dsimp only
    rw [Plan.run_then, Plan.run_then]
    generalize (resolve id).run env cutoff s = ran at found ⊢
    generalize (resolve id).run env' cutoff s' = ran' at found ⊢
    obtain ⟨ending, after⟩ := ran
    obtain ⟨ending', after'⟩ := ran'
    cases found
    cases ending <;> rfl

include config delay in
/-- The same gates let in the same callers, and turn away all others for the same reason. -/
theorem run_knock_same (now : env'.now = env.now) (same : SameGates s s')
    (cutoff : Option Span) :
    ((knock env' q).run env' cutoff s').1 = ((knock env q).run env cutoff s).1 := by
  rw [knock, knock, Plan.run_then, Plan.run_then]
  by_cases enabled : env.config.rateLimit.enabled = true
  · have enabled' : env'.config.rateLimit.enabled = true := by rw [config, enabled]
    have asked : s'.limiter.allow s'.clock (clientOf env'.config q) =
        s.limiter.allow s.clock (clientOf env.config q) := by
      rw [same.limiter, same.clock, config]
    rw [run_admission enabled, run_admission enabled', asked]
    cases s.limiter.allow s.clock (clientOf env.config q) with
    | mk verdict limiter =>
      cases verdict with
      | limited wait => rfl
      | allowed =>
        have admitted : SameGates { s with limiter } { s' with limiter } := {
          limiter := rfl
          clock := same.clock
          identities := same.identities
          accounts := same.accounts
          available := same.available }
        exact run_authenticate_same config delay now admitted cutoff q.headers
  · have open' : admission env' q = .done () := by rw [admission, config, if_neg enabled]
    have opened : admission env q = .done () := by rw [admission, if_neg enabled]
    rw [open', opened]
    exact run_authenticate_same config delay now same cutoff q.headers

/-- Requests with the same credentials from the same place come to the same gates. -/
theorem knock_congr (headers : q'.headers = q.headers) (peer : q'.peer = q.peer) :
    knock env q' = knock env q := by
  rw [knock, knock, admission_congr headers peer, headers]

theorem started_congr (headers : q'.headers = q.headers) (ready : started env q) :
    started env q' := by
  unfold started Request.declaredLength at *
  rw [headers]
  exact ready

theorem respond_of_knock {r : Resource} (ready : started env q)
    (found : resource? env.config q = some r) (members : r.access = .member)
    {ending : Ending (Except Refusal User)}
    (knocked : ((knock env q).run env (some (lastMoment env s)) s).1 = ending)
    (failed : ∀ user, ending ≠ .done (.ok user)) :
    (respond env q s).1 = finish env q (turnedAwayWith ending) := by
  subst knocked
  rw [respond_eq, answer_of_run ready, planRun_of_knock found members failed]

end

/-- What a caller may learn who does not get through the gates. The answer does not tell apart two
services with the same gates, but for the identifier of the request; and if the caller is refused,
it tells the same on all that members use, whatever the method and the body. -/
structure Unknowing (env env' : Env) (q : Request) (s s' : State) : Prop where
  alike : anonymous (respond env' q s').1 = anonymous (respond env q s).1
  refused : started env q →
    (∃ refusal, ((knock env q).run env (some (lastMoment env s)) s).1 = .done (.error refusal)) →
    ∀ q' r', q'.headers = q.headers → q'.peer = q.peer →
      resource? env.config q' = some r' → r'.access = .member →
      (respond env q' s).1 = finish env q' Failure.unauthorized.response ∧
        (respond env' q' s').1 = finish env' q' Failure.unauthorized.response ∧
        (respond env q' s).1.status = 401 ∧
        ToldAlike q q' (respond env q s).1 (respond env' q' s').1

section

variable {env env' : Env} {q : Request} {s s' : State}

theorem unknowing (config : env'.config = env.config) (now : env'.now = env.now)
    (delay : env'.delay = env.delay) (same : SameGates s s') {r : Resource}
    (found : resource? env.config q = some r) (members : r.access = .member)
    (failed : ∀ user, ((knock env q).run env (some (lastMoment env s)) s).1 ≠ .done (.ok user)) :
    Unknowing env env' q s s' := by
  have moment : lastMoment env' s' = lastMoment env s := by
    rw [lastMoment, lastMoment, config, same.clock]
  have ready_iff (other : Request) (ready : started env other) : started env' other := by
    unfold started at *
    rw [config]
    exact ready
  have knocks (other : Request) :
      ((knock env' other).run env' (some (lastMoment env' s')) s').1 =
        ((knock env other).run env (some (lastMoment env s)) s).1 := by
    rw [moment]
    exact run_knock_same config delay now same _
  have named (other : Request) {r' : Resource} (found' : resource? env.config other = some r') :
      resource? env'.config other = some r' := config ▸ found'
  refine ⟨?_, ?_⟩
  · by_cases ready : started env q
    · rw [respond_of_knock ready found members rfl failed,
        respond_of_knock (ready_iff q ready) (named q found) members (knocks q) failed]
      exact anonymous_finish config
    · obtain ⟨response, refused⟩ := answer_of_unstarted ready
      rw [respond_eq, respond_eq, refused env s rfl, refused env' s' config]
      exact anonymous_finish config
  · rintro ready ⟨refusal, refused⟩ q' r' headers peer found' members'
    have knocked' : ((knock env q').run env (some (lastMoment env s)) s).1 =
        .done (.error refusal) := by rw [knock_congr headers peer, refused]
    have ready' := started_congr headers ready
    have failing (user : User) :
        (Ending.done (.error refusal) : Ending (Except Refusal User)) ≠ .done (.ok user) := nofun
    have own := respond_of_knock ready found members refused failing
    have here := respond_of_knock ready' found' members' knocked' failing
    have there := respond_of_knock (ready_iff q' ready') (named q' found') members'
      ((knocks q').trans knocked') failing
    refine ⟨here, there, ?_, ?_⟩
    · rw [here, finish_status]
      rfl
    · rw [own, there]
      exact toldAlike_finish env' q'

end

/-- Early gates hide what later ones would see. While requests are limited, two requests of one
client whose window is full are told the same, whatever they ask for and whatever the store and the
cache hold: that the client is not admitted, or that the request has taken too long where none may
take any time; and the store and the cache are left alone. And a caller whom the gates do not let in
to what members use does not learn what lies behind them. -/
theorem gates_conceal (env env' : Env) (config : env'.config = env.config) (s s' : State)
    (limiter : s'.limiter = s.limiter) (clock : s'.clock = s.clock) :
    (env.config.rateLimit.enabled = true → ∀ q q' : Request,
      clientOf env.config q' = clientOf env.config q →
      tooLong env.config q = false → tooLong env.config q' = false →
      crowded env.config q s = true →
      ToldAlike q q' (respond env q s).1 (respond env' q' s').1 ∧
        (respond env q s).1.status = (if env.config.timeouts.request = 0 then 408 else 429) ∧
        LeftAlone s (respond env q s).2 ∧ LeftAlone s' (respond env' q' s').2) ∧
    (env'.now = env.now → env'.delay = env.delay → s'.identities = s.identities →
      s'.store.tables.accounts = s.store.tables.accounts →
      s'.store.available = s.store.available →
      ∀ q r, resource? env.config q = some r → r.access = .member →
        (∀ user, ((knock env q).run env (some (lastMoment env s)) s).1 ≠ .done (.ok user)) →
        Unknowing env env' q s s') := by
  refine ⟨?_, ?_⟩
  · intro enabled q q' client short short' full
    obtain ⟨w, current, told, alone⟩ := respond_of_crowded enabled short full
    have enabled' : env'.config.rateLimit.enabled = true := by rw [config, enabled]
    have same : s'.limiter.current? s'.clock (clientOf env'.config q') = some w := by
      rw [limiter, clock, config, client, current]
    have full' : crowded env'.config q' s' = true := by
      unfold crowded at *
      rw [same, limiter]
      rwa [current] at full
    obtain ⟨w', current', told', alone'⟩ :=
      respond_of_crowded enabled' (config ▸ short') full'
    obtain rfl : w' = w := Option.some.inj (current'.symm.trans same)
    rw [config, limiter, clock] at told'
    refine ⟨?_, ?_, alone, alone'⟩
    · rw [told, told']
      exact toldAlike_finish env' q'
    · rw [told, finish_status]
      split <;> rfl
  · intro now delay identities accounts available q r found members failed
    have same : SameGates s s' := ⟨limiter, clock, identities, accounts, available⟩
    exact unknowing config now delay same found members failed

namespace Sample

def full (c : Config) : State :=
  let fresh := State.ofConfig c
  { fresh with limiter := (fresh.limiter.allow 0 Admission.Client.unknown).2 }

/-- The same surroundings, but for what is drawn at random. -/
def drawn (env : Env) : Env := { env with draws := { requestId := 1 } }

theorem stranger_knocked :
    ((knock (env 0) stranger).run (env 0) (some (lastMoment (env 0) (state 1))) (state 1)).1 =
      .done (.error .missingHeader) := by
  rfl

end Sample

/-- Two requests of a client whose window is full are told the same, be it for nothing that there is
or for a post. A stranger is told the same on the post of the one member as on that of the other. -/
theorem strangers_told_alike :
    (Sample.strict.config.rateLimit.enabled = true ∧
      crowded Sample.strict.config Sample.visit (Sample.full Sample.strict.config) = true ∧
      ToldAlike Sample.visit Sample.stranger
        (respond (Sample.strict.env Sample.start) Sample.visit
          (Sample.full Sample.strict.config)).1
        (respond (Sample.drawn (Sample.strict.env Sample.start)) Sample.stranger
          { Sample.full Sample.strict.config with store := Sample.store 1 }).1 ∧
      (respond (Sample.strict.env Sample.start) Sample.visit
        (Sample.full Sample.strict.config)).1.status = 429) ∧
    Unknowing (Sample.env 0) (Sample.drawn (Sample.env 0)) Sample.stranger (Sample.state 1)
      (Sample.state 2) := by
  refine ⟨⟨rfl, by decide +kernel, ?_⟩, ?_⟩
  · obtain ⟨told, status, _⟩ := (gates_conceal (Sample.strict.env Sample.start)
      (Sample.drawn (Sample.strict.env Sample.start)) rfl (Sample.full Sample.strict.config)
      { Sample.full Sample.strict.config with store := Sample.store 1 } rfl rfl).1 rfl
      Sample.visit Sample.stranger rfl rfl rfl (by decide +kernel)
    exact ⟨told, status⟩
  · apply (gates_conceal (Sample.env 0) (Sample.drawn (Sample.env 0)) rfl (Sample.state 1)
      (Sample.state 2) rfl rfl).2 rfl rfl rfl rfl rfl Sample.stranger (.post "none")
      Sample.stranger_resource rfl
    intro user
    rw [Sample.stranger_knocked]
    nofun

namespace Sample

def hasty : Config := { rateLimit := { maxRequests := 1 }, timeouts := { request := 0 } }

def lenient : Config := { rateLimit := { enabled := false, maxRequests := 1 } }

end Sample

/-- A full window does not show where requests may take no time, and none is full where requests are
not limited. -/
theorem full_window_unseen :
    (crowded Sample.hasty Sample.visitor (Sample.full Sample.hasty) = true ∧
      tooLong Sample.hasty Sample.visitor = false ∧
      (respond { config := Sample.hasty, now := ⟨0, 0⟩ } Sample.visitor
        (Sample.full Sample.hasty)).1.status = 408) ∧
    (crowded Sample.lenient Sample.visitor (Sample.full Sample.lenient) = true ∧
      tooLong Sample.lenient Sample.visitor = false ∧
      (respond { config := Sample.lenient, now := ⟨0, 0⟩ } Sample.visitor
        (Sample.full Sample.lenient)).1.status = 200) := by
  refine ⟨⟨?_, rfl, rfl⟩, ?_, rfl, ?_⟩
  · decide +kernel
  · decide +kernel
  · decide +kernel

end Agora.Service
