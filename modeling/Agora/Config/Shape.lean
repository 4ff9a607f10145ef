import Agora.Config.Basic
import Agora.Json.Reader

set_option autoImplicit false

namespace Agora.Config

open Schema

abbrev field (name : String) (shape : Shape) (rest : Fields) : Fields :=
  .cons name .free shape rest

abbrev listenerFields : Fields :=
  field "bind_address" .text <| field "trust_forwarded_headers" .flag <|
    field "max_body_size" .word64 .nil

abbrev timeoutFields : Fields :=
  field "request_secs" .word64 <| field "store_call_secs" .word64 .nil

abbrev rateLimitFields : Fields :=
  field "enabled" .flag <| field "max_requests" .word32 <| field "window_secs" .word64 .nil

abbrev cacheFields : Fields :=
  field "enabled" .flag <| field "ttl_secs" .word64 <| field "jitter_secs" .word64 .nil

abbrev tokenFields : Fields :=
  field "secret" .text <| field "issuer" .text <| field "audience" .text <|
    field "expiry_secs" .word64 <| field "leeway_secs" .word64 .nil

abbrev operatorFields : Fields := field "username" .text <| field "password" .text .nil

abbrev authFields : Fields :=
  field "jwt" (.record .ignored tokenFields) <| field "basic" (.record .ignored operatorFields) <|
    field "invitation_ttl_secs" .word64 <| field "bcrypt_cost" .word32 .nil

abbrev authorizationFields : Fields :=
  field "read_role" .text <| field "update_role" .text <| field "delete_role" .text .nil

abbrev observabilityFields : Fields :=
  field "log_level" .text <| field "json_logs" .flag <| field "metrics_enabled" .flag <|
    field "metrics_address" .text .nil

abbrev adminFields : Fields := field "enabled" .flag .nil

abbrev fields : Fields :=
  field "env" .text <|
    field "listener" (.record .ignored listenerFields) <|
    field "timeouts" (.record .ignored timeoutFields) <|
    field "rate_limit" (.record .ignored rateLimitFields) <|
    field "cache" (.record .ignored cacheFields) <|
    field "auth" (.record .ignored authFields) <|
    field "authorization" (.record .ignored authorizationFields) <|
    field "observability" (.record .ignored observabilityFields) <|
    field "admin" (.record .ignored adminFields) .nil

abbrev shape : Shape := .record .ignored fields

/-- A number that was read, or the default. -/
def natural (n : Option Int) (default : Nat) : Nat := (n.map Int.toNat).getD default

def Listener.ofFields : listenerFields.Value → Listener
  | (bind, trust, size, ()) =>
    let d : Listener := {}
    ⟨bind.getD d.bindAddress, trust.getD d.trustForwarded, natural size d.maxBodySize⟩

def Timeouts.ofFields : timeoutFields.Value → Timeouts
  | (request, storeCall, ()) =>
    let d : Timeouts := {}
    ⟨natural request d.request, natural storeCall d.storeCall⟩

def RateLimit.ofFields : rateLimitFields.Value → RateLimit
  | (enabled, requests, window, ()) =>
    let d : RateLimit := {}
    ⟨enabled.getD d.enabled, natural requests d.maxRequests, natural window d.window⟩

def Cache.ofFields : cacheFields.Value → Cache
  | (enabled, ttl, jitter, ()) =>
    let d : Cache := {}
    ⟨enabled.getD d.enabled, natural ttl d.ttl, natural jitter d.jitter⟩

def Token.ofFields : tokenFields.Value → Token
  | (secret, issuer, audience, expiry, leeway, ()) =>
    let d : Token := {}
    ⟨secret.getD d.secret, issuer.getD d.issuer, audience.getD d.audience,
      natural expiry d.expiry, natural leeway d.leeway⟩

def Operator.ofFields : operatorFields.Value → Operator
  | (username, password, ()) =>
    let d : Operator := {}
    ⟨username.getD d.username, password.getD d.password⟩

def Auth.ofFields : authFields.Value → Auth
  | (token, operator, ttl, cost, ()) =>
    let d : Auth := {}
    ⟨(token.map Token.ofFields).getD d.token, (operator.map Operator.ofFields).getD d.operator,
      natural ttl d.invitationTtl, natural cost d.passwordCost⟩

def Authorization.ofFields : authorizationFields.Value → Authorization
  | (read, update, delete, ()) =>
    let d : Authorization := {}
    ⟨read.getD d.readRole, update.getD d.updateRole, delete.getD d.deleteRole⟩

def Observability.ofFields : observabilityFields.Value → Observability
  | (level, json, enabled, address, ()) =>
    let d : Observability := {}
    ⟨level.getD d.logLevel, json.getD d.jsonLogs, enabled.getD d.metricsEnabled,
      address.getD d.metricsAddress⟩

def Admin.ofFields : adminFields.Value → Admin
  | (enabled, ()) =>
    let d : Admin := {}
    ⟨enabled.getD d.enabled⟩

/-- The settings that were read, the others by default. -/
def ofFields : fields.Value → Config
  | (env, listener, timeouts, rateLimit, cache, auth, authorization, observability, admin, ()) =>
    let d : Config := {}
    { env := env.getD d.env
      listener := (listener.map Listener.ofFields).getD d.listener
      timeouts := (timeouts.map Timeouts.ofFields).getD d.timeouts
      rateLimit := (rateLimit.map RateLimit.ofFields).getD d.rateLimit
      cache := (cache.map Cache.ofFields).getD d.cache
      auth := (auth.map Auth.ofFields).getD d.auth
      authorization := (authorization.map Authorization.ofFields).getD d.authorization
      observability := (observability.map Observability.ofFields).getD d.observability
      admin := (admin.map Admin.ofFields).getD d.admin }

def ofJson? (text : Bytes) : Option Config :=
  (Json.read shape text).toOption.map ofFields

def Token.ofJson? (text : Bytes) : Option Token :=
  (Json.read (.record .ignored tokenFields) text).toOption.map Token.ofFields

def Operator.ofJson? (text : Bytes) : Option Operator :=
  (Json.read (.record .ignored operatorFields) text).toOption.map Operator.ofFields

end Agora.Config
