import Agora.Config.Basic
import Agora.Json.Value
import Agora.Text.Quoted

set_option autoImplicit false

namespace Agora.Config

open Json (Value)

def toJson (c : Config) : Value :=
  .object [
    ("env", .string c.env),
    ("listener", .object [
      ("bind_address", .string c.listener.bindAddress),
      ("trust_forwarded_headers", .bool c.listener.trustForwarded),
      ("max_body_size", .whole c.listener.maxBodySize)]),
    ("timeouts", .object [
      ("request_secs", .whole c.timeouts.request),
      ("store_call_secs", .whole c.timeouts.storeCall)]),
    ("rate_limit", .object [
      ("enabled", .bool c.rateLimit.enabled),
      ("max_requests", .whole c.rateLimit.maxRequests),
      ("window_secs", .whole c.rateLimit.window)]),
    ("cache", .object [
      ("enabled", .bool c.cache.enabled),
      ("ttl_secs", .whole c.cache.ttl),
      ("jitter_secs", .whole c.cache.jitter)]),
    ("auth", .object [
      ("jwt", .object [
        ("secret", .string c.auth.token.secret),
        ("issuer", .string c.auth.token.issuer),
        ("audience", .string c.auth.token.audience),
        ("expiry_secs", .whole c.auth.token.expiry),
        ("leeway_secs", .whole c.auth.token.leeway)]),
      ("basic", .object [
        ("username", .string c.auth.operator.username),
        ("password", .string c.auth.operator.password)]),
      ("invitation_ttl_secs", .whole c.auth.invitationTtl),
      ("bcrypt_cost", .whole c.auth.passwordCost)]),
    ("authorization", .object [
      ("read_role", .string c.authorization.readRole),
      ("update_role", .string c.authorization.updateRole),
      ("delete_role", .string c.authorization.deleteRole)]),
    ("observability", .object [
      ("log_level", .string c.observability.logLevel),
      ("json_logs", .bool c.observability.jsonLogs),
      ("metrics_enabled", .bool c.observability.metricsEnabled),
      ("metrics_address", .string c.observability.metricsAddress)]),
    ("admin", .object [("enabled", .bool c.admin.enabled)])]

def group (name : String) (settings : List (String × String)) : String :=
  name ++ " \x7b " ++ ", ".intercalate (settings.map fun s => s.1 ++ ": " ++ s.2) ++ " \x7d"

/-- The text that stands for a secret. -/
def hidden : String := Text.quoted "[REDACTED]"

def text (c : Config) : String :=
  let quoted := Text.quoted
  group "AppConfig" [
    ("env", quoted c.env),
    ("listener", group "ListenerConfig" [
      ("bind_address", quoted c.listener.bindAddress),
      ("trust_forwarded_headers", toString c.listener.trustForwarded),
      ("max_body_size", toString c.listener.maxBodySize)]),
    ("timeouts", group "TimeoutConfig" [
      ("request_secs", toString c.timeouts.request),
      ("store_call_secs", toString c.timeouts.storeCall)]),
    ("rate_limit", group "RateLimitConfig" [
      ("enabled", toString c.rateLimit.enabled),
      ("max_requests", toString c.rateLimit.maxRequests),
      ("window_secs", toString c.rateLimit.window)]),
    ("cache", group "CacheConfig" [
      ("enabled", toString c.cache.enabled),
      ("ttl_secs", toString c.cache.ttl),
      ("jitter_secs", toString c.cache.jitter)]),
    ("auth", group "AuthConfig" [
      ("jwt", group "JwtConfig" [
        ("secret", hidden),
        ("issuer", quoted c.auth.token.issuer),
        ("audience", quoted c.auth.token.audience),
        ("expiry_secs", toString c.auth.token.expiry),
        ("leeway_secs", toString c.auth.token.leeway)]),
      ("basic", group "BasicAuthConfig" [
        ("username", quoted c.auth.operator.username),
        ("password", hidden)]),
      ("invitation_ttl_secs", toString c.auth.invitationTtl),
      ("bcrypt_cost", toString c.auth.passwordCost)]),
    ("authorization", group "AuthorizationConfig" [
      ("read_role", quoted c.authorization.readRole),
      ("update_role", quoted c.authorization.updateRole),
      ("delete_role", quoted c.authorization.deleteRole)]),
    ("observability", group "ObservabilityConfig" [
      ("log_level", quoted c.observability.logLevel),
      ("json_logs", toString c.observability.jsonLogs),
      ("metrics_enabled", toString c.observability.metricsEnabled),
      ("metrics_address", quoted c.observability.metricsAddress)]),
    ("admin", group "AdminConfig" [("enabled", toString c.admin.enabled)])]

end Agora.Config
