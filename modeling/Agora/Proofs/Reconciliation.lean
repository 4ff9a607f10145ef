import Agora.Proofs.RequestTally
import Agora.Proofs.Sessions

set_option autoImplicit false

namespace Agora

namespace Metrics

def Series.isRequest : Series → Bool := ofRequests fun _ _ => true

/-- The counter counts requests with answers of a status. -/
def Series.hasStatus (status : Nat) : Series → Bool := ofRequests fun _ n => n = status

/-- The counter counts callers whose credentials have been refused, at some stage. -/
def Series.isRejection : Series → Bool
  | .rejection _ => true
  | _ => false

end Metrics

open Metrics (Series)

namespace Service

open Http (Request)

/-- A request of a session, with the state that it has found. -/
structure Exchange where
  occasion : Occasion
  request : Request
  before : State

namespace Exchange

variable (setting : Setting) (x : Exchange)

/-- The status of the answer. -/
def status : Nat := (respond (setting.env x.occasion) x.request x.before).1.status

/-- The request has been answered neither for having taken too long nor for too long a body. -/
def planned : Bool := !isUnplanned (x.status setting)

def logsIn : Bool := isLogin setting.config x.request

/-- The cause that is to be counted for the answer, if there is one. -/
def due? : Option Cause := Cause.due? (x.logsIn setting) (Cause.ofStatus? (x.status setting))

/-- The request is an admitted one for members, and its token names a user. -/
def identifies : Bool := looksUp (setting.env x.occasion) x.request x.before

end Exchange

namespace Setting

variable (setting : Setting)

/-- The requests among the events that follow a state. -/
def exchanges : State → List Event → List Exchange
  | _, [] => []
  | s, e :: later =>
    let rest := exchanges (e.next setting s) later
    match e with
    | .request o q => ⟨o, q, s⟩ :: rest
    | _ => rest

variable {setting}

/-- What counts once for each request of some kind, a session has counted as often as there have
been such requests. -/
theorem after_total {counts : Series → Bool} {test : Exchange → Bool}
    (each : ∀ x : Exchange,
      (requestTally (setting.env x.occasion) x.request x.before).countP counts =
        if test x then 1 else 0)
    (history : List Event) (s : State) :
    (setting.after s history).metrics.total counts =
      s.metrics.total counts + (setting.exchanges s history).countP test := by
  induction history generalizing s with
  | nil => rfl
  | cons e later ih =>
    have onward : setting.after s (e :: later) = setting.after (e.next setting s) later := rfl
    rw [onward, ih]
    cases e with
    | request o q =>
      have once := @respond_total (setting.env o) q s counts
      rw [each ⟨o, q, s⟩] at once
      rw [exchanges, List.countP_cons, Event.next, once]
      omega
    | advance span =>
      rw [Event.next, State.advance, State.rest, State.catchUp_total]
      rfl
    | _ => rfl

theorem course_total {counts : Series → Bool} {test : Exchange → Bool}
    (each : ∀ x : Exchange,
      (requestTally (setting.env x.occasion) x.request x.before).countP counts =
        if test x then 1 else 0)
    (history : List Event) :
    (setting.course history).metrics.total counts =
      (setting.exchanges (State.ofConfig setting.config) history).countP test := by
  rw [course, after_total each]
  exact Nat.zero_add _

end Setting

/-- The counters agree with the requests that have been answered, and with each other. -/
structure Reconciled (setting : Setting) (answered : List Exchange) (m : Metrics) : Prop where
  all : m.total Series.isRequest = answered.countP (·.planned setting)
  each (method : String) (status : Nat) : m.value (.request method status) =
    answered.countP fun x =>
      x.planned setting && (x.request.method.name = method && x.status setting = status)
  limited : m.total (Series.hasStatus 429) = m.value .rateLimited
  denied : m.total (Series.hasStatus 403) = m.value .denial
  stale : m.total (Series.hasStatus 409) = m.value .conflict
  refused : m.total (Series.hasStatus 401) = m.total Series.isRejection +
    answered.countP fun x => x.logsIn setting && x.status setting = 401
  lookups : m.total Series.isLookup = answered.countP (·.identifies setting)

theorem countP_add {α : Type} {p first second : α → Bool}
    (split : ∀ x, (if p x then 1 else 0) =
      (if first x then 1 else 0) + if second x then 1 else 0) (l : List α) :
    l.countP p = l.countP first + l.countP second := by
  induction l with
  | nil => rfl
  | cons x rest ih =>
    have once := split x
    rw [List.countP_cons, List.countP_cons, List.countP_cons, ih, once]
    omega

section

variable (setting : Setting) (history : List Event)

theorem course_requests (among : String → Nat → Bool) :
    (setting.course history).metrics.total (Series.ofRequests among) =
      (setting.exchanges (State.ofConfig setting.config) history).countP fun x =>
        x.planned setting && among x.request.method.name (x.status setting) :=
  Setting.course_total (fun x => countP_ofRequests _ x.request x.before among) history

/-- The answers of a cause are those that are counted by it, and logins that fail for credentials. -/
theorem course_cause (cause : Cause) :
    (setting.course history).metrics.total (Series.hasStatus cause.status) =
      (setting.course history).metrics.total (·.cause? = some cause) +
        (setting.exchanges (State.ofConfig setting.config) history).countP fun x =>
          (cause = .credentials && x.logsIn setting) && x.status setting = cause.status := by
  have counted : (setting.course history).metrics.total (·.cause? = some cause) =
      (setting.exchanges (State.ofConfig setting.config) history).countP
        fun x => x.due? setting = some cause := by
    apply Setting.course_total
    intro x
    simp only [countP_cause, decide_eq_true_eq]
    rfl
  rw [counted, Series.hasStatus, course_requests]
  apply countP_add
  intro x
  by_cases same : x.status setting = cause.status
  · have planned : x.planned setting = true := by
      rw [Exchange.planned, same]
      cases cause <;> rfl
    have found : Cause.ofStatus? cause.status = some cause := Cause.ofStatus?_eq_some.2 rfl
    have due : x.due? setting = Cause.due? (x.logsIn setting) (some cause) := by
      rw [Exchange.due?, same, found]
    simp only [planned, due, same]
    cases cause <;> cases x.logsIn setting <;> rfl
  · have other : ¬x.due? setting = some cause :=
      fun caused => same (Cause.ofStatus?_eq_some.1 (Cause.due?_eq_some.1 caused).1)
    simp [same, other]

end

/-- The counters of a session reconcile with its answers. As many requests are counted as have been
answered neither with 408 nor with 413, each by its own method and status. Each answer of want of
admission, of want of a right and of a conflict is counted as such, and nothing else is. An answer
of wrong credentials is counted by the stage at which they were refused, or else comes from a login.
And as many look-ups are counted as admitted requests for members have had a token that names a
user. -/
theorem metrics_reconcile (setting : Setting) (history : List Event) :
    Reconciled setting (setting.exchanges (State.ofConfig setting.config) history)
      (setting.course history).metrics := by
  have caused (cause : Cause) (logins : cause ≠ .credentials) (series : Series)
      (only : ∀ other : Series, other.cause? = some cause ↔ other = series) :
      (setting.course history).metrics.total (Series.hasStatus cause.status) =
        (setting.course history).metrics.value series := by
    rw [course_cause, ← Metrics.total_single]
    simp [logins, only]
  constructor
  case all =>
    rw [Series.isRequest, course_requests]
    simp
  case each =>
    intro method status
    have one : (fun other : Series => decide (other = .request method status)) =
        Series.ofRequests fun name n => name = method && n = status := by
      funext other
      cases other <;> simp [Series.ofRequests]
    rw [← Metrics.total_single, one, course_requests]
  case limited =>
    apply caused .admission (by decide)
    intro other
    cases other <;> simp [Series.cause?]
  case denied =>
    apply caused .right (by decide)
    intro other
    cases other <;> simp [Series.cause?]
  case stale =>
    apply caused .version (by decide)
    intro other
    cases other <;> simp [Series.cause?]
  case refused =>
    have stages : (fun other : Series => decide (other.cause? = some .credentials)) =
        Series.isRejection := by
      funext other
      cases other <;> simp [Series.cause?, Series.isRejection]
    have all := course_cause setting history .credentials
    rw [stages] at all
    exact all
  case lookups =>
    exact Setting.course_total (fun x => countP_isLookup _ x.request x.before) history

end Service

end Agora
