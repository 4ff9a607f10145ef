import Agora.Service.Gate

set_option autoImplicit false

namespace Agora.Service

open Http (Response)
open Json (Value)

def version : String := "0.1.0"

def showHealth (env : Env) : Plan Response :=
  return .data 200 (.object [("status", .string "ok"), ("env", .string env.config.env),
    ("version", .string version)])

def showStatus (env : Env) : Plan Response :=
  return .data 200 (.object [("version", .string version), ("status", .string "operational"),
    ("env", .string env.config.env), ("uptime_secs", .whole (env.now.second - env.started.second))])

def showLimiter (env : Env) : Plan Response := do
  let stats ← Plan.ask .limiterStats
  return .data 200 (.object [("enabled", .bool env.config.rateLimit.enabled),
    ("tracked_clients", .whole stats.trackedClients), ("max_requests", .whole stats.maxRequests),
    ("window_secs", .whole stats.windowSeconds)])

def showCache : Plan Response := do
  let stats ← Plan.ask .cacheStats
  return .data 200 (.object [("backend", .string stats.backend), ("entries", .whole stats.entries)])

def flushCache : Plan Response := do
  let removed ← Plan.ask .flush
  return .data 200 (.object [("removed", .whole removed)])

def deleteAccount (segment : String) : Plan Response := do
  let id ← pathId segment
  Plan.call (.deleteUser id)
  Plan.ask (.evict id)
  return .ofStatus 204

end Agora.Service
