import Agora.Admission.Limiter
import Agora.Cache.Identities
import Agora.Credential.Password
import Agora.Metrics
import Agora.Store.Call

/-!
What the service holds from one request to the next, and how time passes over it. The sweeper can
take its turns only while all else waits. A turn that comes due before the wait is over is taken at
its own time; one that comes due at the very end of the wait is taken in the next wait, before time
passes. When the clock is moved on in one go, all turns are taken at the moment it is moved to.
-/

set_option autoImplicit false

namespace Agora.Service

open Time (Span Stamp)

structure Draws where
  requestId : Nat := 0
  invitation : Nat := 0
  salt : Bytes := []
  jitter : Nat := 0

/-- What a request finds and does not change. -/
structure Env where
  config : Config := {}
  hasher : Credential.Hasher := Credential.Password.hasher
  /-- The time of the calendar. -/
  now : Stamp
  /-- When the service was started. -/
  started : Stamp := now
  /-- How long the store takes for a call. -/
  delay : Span := 0
  draws : Draws := {}

def Env.deadline (env : Env) : Span := Span.ofSeconds env.config.timeouts.storeCall

/-- What the service holds. -/
structure State where
  store : Store := {}
  identities : Cache.Identities
  limiter : Admission.Limiter
  metrics : Metrics := {}
  /-- The time since the start, by which lifetimes, windows and deadlines are measured. -/
  clock : Span := 0
  deriving DecidableEq

namespace State

def ofConfig (c : Config) : State where
  identities := .ofConfig c.cache
  limiter := { limit := c.rateLimit.maxRequests, length := Span.ofSeconds c.rateLimit.window }

def count (series : Metrics.Series) (s : State) : State :=
  { s with metrics := s.metrics.count series }

/-- Sweep as of a moment. -/
def sweep (moment : Span) (s : State) : State :=
  let limiter := s.limiter.sweep moment
  { s with limiter, metrics := s.metrics.track limiter.tracked }

/-- Let the sweeper take the turns that are due at a moment. -/
def catchUp (moment : Span) (s : State) : State :=
  match s.limiter.takeTurns? moment with
  | some limiter => { s with limiter, metrics := s.metrics.track limiter.tracked }
  | none => s

/-- Pause without any time passing. -/
def rest (s : State) : State := s.catchUp s.clock

/-- Wait until a moment; there is no wait for one that has come. -/
def wait (moment : Span) (s : State) : State :=
  if moment ≤ s.clock then s
  else
    let rested := s.rest
    let swept := match rested.limiter.lastTurn? moment with
      | some turn => rested.catchUp turn
      | none => rested
    { swept with clock := moment }

def advance (span : Span) (s : State) : State := { s with clock := s.clock + span }.rest

def perform (now : Stamp) (call : Store.Call) (s : State) :
    Except Store.Error call.Answer × State :=
  let (answer, store) := s.store.perform now call
  (answer, { s with store })

end State

end Agora.Service
