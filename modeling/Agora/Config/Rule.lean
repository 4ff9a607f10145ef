import Agora.Address.Endpoint
import Agora.Config.Basic
import Agora.Credential.Password

set_option autoImplicit false

namespace Agora.Config

/-- A rule: the setting it is about, whether it holds, and what is said when it does not. -/
structure Rule where
  field : String
  holds : Config → Bool
  message : Config → String

structure Problem where
  field : String
  message : String
  deriving Repr, DecidableEq

/-- The setting and what is wrong with it. -/
def Problem.text (p : Problem) : String := p.field ++ ": " ++ p.message

namespace Rule

/-- The longest lifetime, one year in seconds. -/
def longestLifetime : Nat := 31536000

def isEndpoint (s : String) : Bool := (Address.Endpoint.parse? s).isSome

def positive (field : String) (get : Config → Nat) : Rule where
  field
  holds c := 0 < get c
  message _ := "must be > 0"

def lifetime (field : String) (get : Config → Nat) : Rule where
  field
  holds c := get c ≤ longestLifetime
  message _ := s!"must be at most {longestLifetime} seconds"

/-- A text must not be empty. -/
def nonempty (field message : String) (get : Config → String) : Rule where
  field
  holds c := get c ≠ ""
  message _ := message

def bindAddress : Rule where
  field := "listener.bind_address"
  holds c := isEndpoint c.listener.bindAddress
  message c := s!"'{c.listener.bindAddress}' is not a socket address"

/-- The work factor of passwords is one that hashing accepts. -/
def passwordCost : Rule where
  field := "auth.bcrypt_cost"
  holds c := Credential.Password.costAllowed c.auth.passwordCost
  message _ := "must be within 4..=31"

def operatorCredentials : Rule where
  field := "auth.basic"
  holds c := c.auth.operator.username ≠ "" && c.auth.operator.password ≠ ""
  message _ := "username and password are required"

/-- Where metrics are enabled, their address can be read. -/
def metricsAddress : Rule where
  field := "observability.metrics_address"
  holds c := !c.observability.metricsEnabled || isEndpoint c.observability.metricsAddress
  message _ := "must be a socket address when metrics are enabled"

/-- All rules, in the order of their problems. -/
def all : List Rule :=
  [bindAddress,
   positive "timeouts.request_secs" (·.timeouts.request),
   positive "timeouts.store_call_secs" (·.timeouts.storeCall),
   positive "rate_limit.max_requests" (·.rateLimit.maxRequests),
   positive "rate_limit.window_secs" (·.rateLimit.window),
   positive "cache.ttl_secs" (·.cache.ttl),
   positive "auth.invitation_ttl_secs" (·.auth.invitationTtl),
   lifetime "timeouts.request_secs" (·.timeouts.request),
   lifetime "timeouts.store_call_secs" (·.timeouts.storeCall),
   lifetime "rate_limit.window_secs" (·.rateLimit.window),
   lifetime "cache.ttl_secs" (·.cache.ttl),
   lifetime "cache.jitter_secs" (·.cache.jitter),
   lifetime "auth.invitation_ttl_secs" (·.auth.invitationTtl),
   lifetime "auth.jwt.expiry_secs" (·.auth.token.expiry),
   lifetime "auth.jwt.leeway_secs" (·.auth.token.leeway),
   nonempty "auth.jwt.secret" "must not be empty" (·.auth.token.secret),
   nonempty "auth.jwt.issuer" "must not be empty" (·.auth.token.issuer),
   nonempty "auth.jwt.audience" "must not be empty" (·.auth.token.audience),
   positive "auth.jwt.expiry_secs" (·.auth.token.expiry),
   passwordCost,
   operatorCredentials,
   nonempty "authorization.read_role" "must name a role" (·.authorization.readRole),
   nonempty "authorization.update_role" "must name a role" (·.authorization.updateRole),
   nonempty "authorization.delete_role" "must name a role" (·.authorization.deleteRole),
   metricsAddress]

def problem? (r : Rule) (c : Config) : Option Problem :=
  if r.holds c then none else some ⟨r.field, r.message c⟩

end Rule

/-- The broken rules of a configuration. -/
def problems (c : Config) : List Problem := Rule.all.filterMap (·.problem? c)

def Valid (c : Config) : Prop := c.problems = []

instance (c : Config) : Decidable c.Valid := inferInstanceAs (Decidable (c.problems = []))

end Agora.Config
