set_option autoImplicit false

namespace Agora.Config

structure Listener where
  bindAddress : String := "0.0.0.0:8080"
  /-- Clients are told apart by the addresses that a proxy reports. -/
  trustForwarded : Bool := false
  /-- The most octets of a request's body. -/
  maxBodySize : Nat := 1048576
  deriving Repr, DecidableEq

structure Timeouts where
  request : Nat := 60
  /-- The deadline of one call of the store or the cache. -/
  storeCall : Nat := 5
  deriving Repr, DecidableEq

/-- How many requests of one client are admitted in a window of time. -/
structure RateLimit where
  enabled : Bool := true
  maxRequests : Nat := 200
  window : Nat := 60
  deriving Repr, DecidableEq

/-- How long identities are kept; each entry lives longer by a random part of the jitter. -/
structure Cache where
  enabled : Bool := false
  ttl : Nat := 600
  jitter : Nat := 30
  deriving Repr, DecidableEq

/-- How bearer tokens are signed and what is wanted of them. -/
structure Token where
  secret : String := "CHANGE_ME_IN_PRODUCTION"
  issuer : String := "social-api"
  audience : String := "social-api"
  expiry : Nat := 3600
  /-- The clock skew that is tolerated. -/
  leeway : Nat := 0
  deriving Repr, DecidableEq

structure Operator where
  username : String := "admin"
  password : String := "CHANGE_ME_IN_PRODUCTION"
  deriving Repr, DecidableEq

structure Auth where
  token : Token := {}
  operator : Operator := {}
  invitationTtl : Nat := 86400
  passwordCost : Nat := 12
  deriving Repr, DecidableEq

/-- The role that someone else than the author needs for each kind of access to a post. -/
structure Authorization where
  readRole : String := "moderator"
  updateRole : String := "moderator"
  deleteRole : String := "admin"
  deriving Repr, DecidableEq

structure Observability where
  logLevel : String := "info"
  jsonLogs : Bool := false
  metricsEnabled : Bool := false
  metricsAddress : String := "0.0.0.0:9090"
  deriving Repr, DecidableEq

structure Admin where
  enabled : Bool := true
  deriving Repr, DecidableEq

end Config

structure Config where
  env : String := "development"
  listener : Config.Listener := {}
  timeouts : Config.Timeouts := {}
  rateLimit : Config.RateLimit := {}
  cache : Config.Cache := {}
  auth : Config.Auth := {}
  authorization : Config.Authorization := {}
  observability : Config.Observability := {}
  admin : Config.Admin := {}
  deriving Repr, DecidableEq

end Agora
