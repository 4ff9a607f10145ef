import Agora.Credential.Scheme
import Agora.Table.Directory

set_option autoImplicit false

namespace Agora

namespace Metrics

inductive Lookup where
  | hit
  | miss
  | error
  deriving DecidableEq, Repr

def Lookup.name : Lookup → String
  | .hit => "hit"
  | .miss => "miss"
  | .error => "error"

inductive Series where
  | request (method : String) (status : Nat)
  | rateLimited
  | lookup (outcome : Lookup)
  | rejection (stage : Credential.Stage)
  | denial
  | conflict
  deriving DecidableEq, Repr

/-- Labels with their values, between braces. -/
def labelText (labels : List (String × String)) : String :=
  if labels.isEmpty then ""
  else "\x7b" ++ ",".intercalate (labels.map fun (name, value) => s!"{name}=\"{value}\"") ++ "\x7d"

def Series.name : Series → String
  | .request .. => "api_requests_total"
  | .rateLimited => "api_rate_limited_total"
  | .lookup _ => "api_cache_lookups_total"
  | .rejection _ => "api_auth_rejections_total"
  | .denial => "api_authz_denials_total"
  | .conflict => "api_version_conflicts_total"

def Series.labels : Series → List (String × String)
  | .request method status => [("method", method), ("status", toString status)]
  | .lookup outcome => [("outcome", outcome.name)]
  | .rejection stage => [("stage", stage.name)]
  | .rateLimited | .denial | .conflict => []

end Metrics

open Metrics (Series)

/-- The counters, and the number of windows that the last sweep left. -/
structure Metrics where
  counters : Table.Directory Series Nat := .empty
  trackedClients : Option Nat := none
  deriving DecidableEq

namespace Metrics

def value (m : Metrics) (series : Series) : Nat := (m.counters.get? series).getD 0

def count (series : Series) (m : Metrics) : Metrics :=
  { m with counters := m.counters.set series (m.value series + 1) }

theorem value_count (m : Metrics) (series other : Series) :
    (m.count series).value other = m.value other + if other = series then 1 else 0 := by
  by_cases same : other = series <;> simp [value, count, Table.Directory.get?_set, same]

/-- Note how many windows a sweep has left. -/
def track (windows : Nat) (m : Metrics) : Metrics := { m with trackedClients := some windows }

/-- Put a line into a list in the order of the text. -/
def insertLine (line : String) : List String → List String
  | [] => [line]
  | other :: rest =>
    if line < other then line :: other :: rest else other :: insertLine line rest

def lines (m : Metrics) : List String :=
  let counters := m.counters.entries.map fun (series, n) =>
    s!"{series.name}{labelText series.labels} {n}"
  let gauges := m.trackedClients.toList.map fun n => s!"api_tracked_clients {n}"
  (counters ++ gauges).foldr insertLine []

end Metrics

end Agora
